import BridgeOS.Lib.Discipline
import BridgeOS.Lib.Table
import BridgeOS.Lib.Visits
import BridgeOS.Node.Revocation

/-! # A node with its connections

The tasks of a node's connections with what they share: the map of sessions that
clipboard frames are sent to, behind a lock; for each connection a channel with room
for 32 frames; and the broadcaster, which takes the lock for as long as it sends one
frame to all sessions in the map.
-/

namespace BridgeOS.Node

open BridgeOS.Session hiding recvFrame
open BridgeOS.Transfer Proc

section Conduct

variable [Crypto]

/-- How a task stands to the map: in its loop, with its session in any state or
    certainly not trusted; just become trusted, so that it will put itself into the map;
    done with that; told that the peer is gone, so that it will take the entry out; and
    done with that. -/
inductive Mode where
  | loose
  | shut
  | owing
  | back
  | leaving
  | finished
  deriving DecidableEq

namespace Mode

def allows (n : NodeId) : Mode → NodeCall → Prop
  | .loose, .session (.setState s) => s ≠ .trusted
  | .loose, .register _ => False
  | .loose, .unregister _ => False
  | .loose, _ => True
  | .shut, .register _ => False
  | .shut, .unregister _ => False
  | .shut, _ => True
  | .owing, .register m => m = n
  | .leaving, .unregister m => m = n
  | _, _ => False

def turn : Mode → NodeEvent → Mode
  | .owing, _ => .back
  | .leaving, _ => .finished
  | _, ⟨.session (.setState s), _⟩ => if s = .trusted then .owing else .shut
  | _, ⟨.select, .inbound (.ok none)⟩ => .leaving
  | _, ⟨.select, .inbound (.ok (some (.control (.disconnect _))))⟩ => .leaving
  | m, _ => m

/-- What a round may end with in this mode. -/
def Returns (self : ActiveSession) : Mode → (ActiveSession × Phase) ⊕ Unit → Prop
  | .loose, .inl (next, _) => next = self
  | .shut, .inl (next, _) => next = self
  | .back, .inl (next, _) => next = self
  | .finished, .inr _ => True
  | _, _ => False

def Fails : Mode → Prop
  | .loose => True
  | .shut => True
  | _ => False

/-- Neither owing nor leaving. -/
def Calm (m : Mode) : Prop := m = .loose ∨ m = .shut

end Mode

def conduct (n : NodeId) : Discipline NodeCall NodeCall.Answer Mode := ⟨Mode.allows n, Mode.turn⟩

/-- The task of a session, or what is left of it. -/
def Orderly (self : ActiveSession) (m : Mode) (p : Task) : Prop :=
  p.Observes (conduct self.remoteNodeId) (Mode.Returns self) Mode.Fails m

/-- Has nothing to do with the map, and makes no session trusted. -/
def NodeCall.Steady : NodeCall → Prop
  | .session (.setState s) => s ≠ .trusted
  | .session _ => True
  | .receiveChunk .. => True
  | .finalizeFile _ => True
  | _ => False

/-- Needs the lock of the map. -/
def NodeCall.OnMap : NodeCall → Prop
  | .register _ => True
  | .unregister _ => True
  | _ => False

variable {self : ActiveSession} {n : NodeId} {m : Mode}

theorem NodeCall.steady_of_harmless {c : Call} (harmless : c.Harmless) : (NodeCall.session c).Steady := by
  cases c with
  | setState s => exact harmless
  | _ => trivial

theorem allows_of_steady {c : NodeCall} (calm : m.Calm) (steady : c.Steady) : m.allows n c := by
  rcases calm with rfl | rfl
  · cases c with
    | session c =>
        cases c with
        | setState s => exact steady
        | _ => trivial
    | _ => first | exact steady | trivial
  · cases c with
    | session c => trivial
    | _ => first | exact steady | trivial

theorem turn_of_steady (event : NodeEvent) (calm : m.Calm) (steady : event.call.Steady) :
    m.turn event = m ∨ m.turn event = .shut := by
  obtain ⟨c, answer⟩ := event
  rcases calm with rfl | rfl
  · cases c with
    | session c =>
        cases c with
        | setState s => exact .inr (if_neg steady)
        | _ => exact .inl rfl
    | select => exact steady.elim
    | _ => exact .inl rfl
  · cases c with
    | session c =>
        cases c with
        | setState s => exact .inr (if_neg steady)
        | _ => exact .inl rfl
    | select => exact steady.elim
    | _ => exact .inl rfl

omit [Crypto] in
theorem Mode.Calm.fails (calm : m.Calm) : m.Fails := by
  rcases calm with rfl | rfl
  · trivial
  · trivial

/-- What a program that only asks steady questions, and returns such a result, comes to. -/
theorem observes_of_steady {α : Type} {R : α → Prop} {p : NodeProc α}
    (within : p.Within (fun _ => True) NodeCall.Steady R) (calm : m.Calm) :
    p.Observes (conduct n) (fun m a => m.Calm ∧ R a) Mode.Fails m := by
  have observes : p.Observes (conduct n) (fun m a => m.Calm ∧ R a) Mode.Calm m := by
    apply observes_of_within within calm
    · intro m c calm steady
      exact allows_of_steady calm steady
    · intro m event calm steady
      rcases turn_of_steady event calm steady with same | shut
      · exact (congrArg Mode.Calm same).mpr calm
      · exact .inr shut
  exact observes.mono (fun _ _ => id) fun _ => Mode.Calm.fails

section Pairing

def sessionConduct (n : NodeId) : Discipline Call Call.Answer Mode :=
  ⟨fun m c => m.allows n (.session c), fun m event => m.turn (sessionEvent event)⟩

/-- A session that is not trusted stays so. -/
theorem observes_shut {α : Type} {p : SessionProc α} (all : p.AllCalls Call.Harmless) :
    p.Observes (sessionConduct n) (fun m _ => m = .shut) (· = .shut) .shut := by
  have observes : p.Observes (sessionConduct n) (fun m a => m = .shut ∧ True) (· = .shut) .shut := by
    apply observes_of_within all.within
    · rfl
    · rintro m c rfl harmless
      exact allows_of_steady (n := n) (.inr rfl) (NodeCall.steady_of_harmless harmless)
    · rintro m event rfl harmless
      rcases turn_of_steady (sessionEvent event) (.inr rfl) (NodeCall.steady_of_harmless harmless) with same | shut
      · exact same
      · exact shut
  exact observes.mono (fun _ _ both => both.1) fun _ => id

/-- A ceremony ends with the session trusted, or fails with the session not trusted. -/
theorem executePairing_observes (isInitiator : Bool) :
    (executePairing self isInitiator).Observes (sessionConduct n) (fun m _ => m = .owing) (· = .shut)
      .loose := by
  refine ⟨nofun, fun _ => ?_⟩
  show (openPairing self isInitiator >>= _).Observes _ _ _ Mode.shut
  apply observes_bind
  apply (observes_shut (harmless_of_plain openPairing_plain)).mono _ fun _ => id
  rintro m ⟨session, sas⟩ rfl
  apply observes_bind
  apply (observes_shut (harmless_of_plain concludePairing_plain)).mono _ fun _ => id
  rintro m _ rfl
  exact ⟨trivial, fun _ => rfl⟩

def PairingEnds (m : Mode) : Except SessionError SasVerification → Prop
  | .ok _ => m = .owing
  | .error _ => m = .shut

theorem attemptSession_observes :
    (attemptSession (executePairing self false)).Observes (conduct n) PairingEnds Mode.Fails .loose := by
  have attempted : ((executePairing self false).attempt : Proc Call Call.Answer NodeError _).Observes
      (sessionConduct n) PairingEnds Mode.Fails .loose :=
    (executePairing_observes false).attempt (fun _ _ owing => owing) fun _ _ shut => shut
  exact attempted.lift (fun _ _ allowed => allowed) fun _ _ _ => rfl

end Pairing

/-- What a round ends with goes with its mode. -/
def Resumes (m : Mode) : Option Phase → Prop
  | some _ => m.Calm ∨ m = .back
  | none => m = .leaving

theorem NodeCall.Serves.steady {trusted : Prop} (c : NodeCall) (serves : c.Serves trusted) : c.Steady := by
  cases c with
  | session c =>
      cases c with
      | setState s => exact serves.elim
      | _ => trivial
  | _ => exact serves.elim

theorem NodeCall.Transfers.steady (c : NodeCall) (transfers : c.Transfers) : c.Steady := by
  cases c with
  | session c =>
      cases c with
      | setState s => exact transfers.elim
      | _ => trivial
  | _ => exact transfers

theorem observes_of_inner {p : NodeProc (Option Phase)}
    (within : p.Within (fun _ => True) NodeCall.Steady (·.isSome)) :
    p.Observes (conduct n) Resumes Mode.Fails .loose := by
  refine (observes_of_steady within (.inl rfl)).mono ?_ fun _ => id
  rintro m (_ | phase) ⟨calm, some⟩
  · cases some
  · exact .inl calm

theorem handleInbound_observes {frame : Frame} (stays : ∀ reason, frame ≠ .control (.disconnect reason)) :
    (handleInbound self frame).Observes (conduct self.remoteNodeId) Resumes Mode.Fails .loose := by
  by_cases paired : ∃ df, frame = .data df ∧ df.channel = DataFrame.channelPairing
  · obtain ⟨df, rfl, channel⟩ := paired
    simp only [handleInbound, if_pos channel]
    apply observes_bind
    refine attemptSession_observes.mono ?_ fun _ => id
    intro m outcome ends
    cases outcome with
    | ok sas =>
        cases ends
        exact ⟨rfl, fun _ => .inr rfl⟩
    | error e =>
        cases ends
        exact .inl (.inr rfl)
  · apply observes_of_inner
    refine (handleInbound_serves (fun _ => True) ?_ stays).mono NodeCall.Serves.steady
    intro df same channel
    exact paired ⟨df, same, channel⟩

theorem handleSelected_observes (selected : Selected) :
    (handleSelected self selected).Observes (conduct self.remoteNodeId) Resumes Mode.Fails
      (Mode.turn .loose ⟨.select, selected⟩) := by
  cases selected with
  | outbound frame => exact observes_of_inner (handleOutbound_within trivial fun _ => trivial)
  | inbound received =>
      rcases received with e | _ | frame
      · trivial
      · rfl
      · by_cases goodbye : ∃ reason, frame = .control (.disconnect reason)
        · obtain ⟨reason, rfl⟩ := goodbye
          rfl
        · have stays : ∀ reason, frame ≠ .control (.disconnect reason) :=
            fun reason same => goodbye ⟨reason, same⟩
          have still : Mode.turn .loose ⟨.select, .inbound (.ok (some frame))⟩ = .loose := by
            rcases frame with _ | (_ | _ | reason) | _
            · rfl
            · rfl
            · rfl
            · exact absurd rfl (stays reason)
            · rfl
          rw [still]
          exact handleInbound_observes stays

theorem afterRound_orderly {next : Option Phase} (resumes : Resumes m next) :
    Orderly self m (afterRound self next) := by
  cases next with
  | some phase =>
      rcases resumes with (rfl | rfl) | rfl
      · rfl
      · rfl
      · rfl
  | none =>
      cases resumes
      exact ⟨rfl, fun _ => trivial⟩

theorem connectionRound_orderly (phase : Phase) : Orderly self .loose (connectionRound (self, phase)) := by
  cases phase with
  | select =>
      rw [connectionRound_select]
      refine ⟨trivial, fun selected => observes_bind ?_⟩
      exact (handleSelected_observes selected).mono (fun _ _ => afterRound_orderly) fun _ => id
  | chunks manifest receiver =>
      have transfers := (transferRound_transfers manifest receiver).mono NodeCall.Transfers.steady
      apply observes_bind
      exact (observes_of_inner transfers).mono (fun _ _ => afterRound_orderly) fun _ => id

theorem enterLoop_orderly : Orderly self .shut (enterLoop self) := by
  refine ⟨trivial, fun _ => ?_⟩
  by_cases trusted : self.state = .trusted
  · have owing : (conduct self.remoteNodeId).turn .shut ⟨.session (.setState self.state), ()⟩ = .owing :=
      if_pos trusted
    rw [owing, SessionState.isTrusted_iff.mpr trusted]
    exact ⟨rfl, fun _ => rfl⟩
  · have shut : (conduct self.remoteNodeId).turn .shut ⟨.session (.setState self.state), ()⟩ = .shut :=
      if_neg trusted
    rw [shut, SessionState.isTrusted_eq_false trusted]
    exact rfl

/-- The task waits for the lock. -/
def Locking : Task → Prop
  | .ask c _ => c.OnMap
  | _ => False

/-- It does so to put its entry into the map. -/
def Owing : Task → Prop
  | .ask (.register _) _ => True
  | _ => False

/-- The peer is gone, or says so. -/
def Goodbye : NodeEvent → Prop
  | ⟨.select, .inbound (.ok none)⟩ => True
  | ⟨.select, .inbound (.ok (some (.control (.disconnect _))))⟩ => True
  | _ => False

theorem Goodbye.not_onMap {event : NodeEvent} (goodbye : Goodbye event) : ¬ event.call.OnMap := by
  obtain ⟨c, answer⟩ := event
  cases c with
  | select => exact id
  | _ => exact goodbye.elim

theorem Goodbye.not_setState {event : NodeEvent} (goodbye : Goodbye event) (state : SessionState) :
    event.call ≠ .session (.setState state) := by
  obtain ⟨c, answer⟩ := event
  cases c with
  | select => nofun
  | _ => exact goodbye.elim

/-- What one answer makes of the task of a session. -/
inductive Proceeds (self : ActiveSession) : NodeEvent → Task → Prop where
  | registered (phase : Phase) : Proceeds self ⟨.register self.remoteNodeId, ()⟩ (.ok (.inl (self, phase)))
  | unregistered : Proceeds self ⟨.unregister self.remoteNodeId, ()⟩ (.ok (.inr ()))
  | trusts (next : Unit → Task) :
      Proceeds self ⟨.session (.setState .trusted), ()⟩ (.ask (.register self.remoteNodeId) next)
  | leaves {event : NodeEvent} (goodbye : Goodbye event) (next : Unit → Task) :
      Proceeds self event (.ask (.unregister self.remoteNodeId) next)
  | goes {event : NodeEvent} {p : Task} (unlocked : ¬ event.call.OnMap)
      (plain : event ≠ ⟨.session (.setState .trusted), ()⟩) (stays : ¬ Goodbye event)
      (free : ¬ Locking p) (lives : p ≠ .ok (.inr ())) : Proceeds self event p

theorem Mode.turn_cases (calm : m.Calm) (event : NodeEvent) :
    (event = ⟨.session (.setState .trusted), ()⟩ ∧ m.turn event = .owing) ∨
      (Goodbye event ∧ m.turn event = .leaving) ∨
      (event ≠ ⟨.session (.setState .trusted), ()⟩ ∧ ¬ Goodbye event ∧ (m.turn event).Calm) := by
  have still : m.turn event = m → (m.turn event).Calm := fun same => (congrArg Calm same).mpr calm
  obtain ⟨c, answer⟩ := event
  cases c with
  | session c =>
      cases c with
      | setState s =>
          by_cases trusted : s = .trusted
          · subst trusted
            refine .inl ⟨rfl, ?_⟩
            rcases calm with rfl | rfl <;> rfl
          · refine .inr (.inr ⟨?_, id, .inr ?_⟩)
            · intro same
              cases same
              exact trusted rfl
            · rcases calm with rfl | rfl <;> exact if_neg trusted
      | _ =>
          refine .inr (.inr ⟨?_, id, still ?_⟩)
          · intro same
            cases same
          · rcases calm with rfl | rfl <;> rfl
  | select =>
      have plain : (⟨.select, answer⟩ : NodeEvent) ≠ ⟨.session (.setState .trusted), ()⟩ := by
        intro same
        cases same
      rcases answer with (e | _ | (_ | (_ | _ | reason) | _)) | frame
      case inbound.ok.none | inbound.ok.some.control.disconnect =>
        refine .inr (.inl ⟨trivial, ?_⟩)
        rcases calm with rfl | rfl <;> rfl
      all_goals
        refine .inr (.inr ⟨plain, id, still ?_⟩)
        rcases calm with rfl | rfl <;> rfl
  | _ =>
      refine .inr (.inr ⟨?_, id, still ?_⟩)
      · intro same
        cases same
      · rcases calm with rfl | rfl <;> rfl

theorem Mode.Calm.not_onMap {c : NodeCall} (calm : m.Calm) (allowed : m.allows n c) : ¬ c.OnMap := by
  intro onMap
  cases c with
  | register k => rcases calm with rfl | rfl <;> exact allowed
  | unregister k => rcases calm with rfl | rfl <;> exact allowed
  | _ => exact onMap

variable {p : Task}

theorem Owing.locking (owing : Owing p) : Locking p := by
  cases p with
  | ask c next =>
      cases c with
      | register n => trivial
      | _ => exact owing.elim
  | _ => exact owing.elim

theorem Orderly.owing (orderly : Orderly self .owing p) :
    ∃ next, p = .ask (.register self.remoteNodeId) next := by
  cases p with
  | ok ending => exact orderly.elim
  | error e => exact orderly.elim
  | ask c next =>
      cases c with
      | register n =>
          cases orderly.1
          exact ⟨next, rfl⟩
      | _ => exact orderly.1.elim

theorem Orderly.leaving (orderly : Orderly self .leaving p) :
    ∃ next, p = .ask (.unregister self.remoteNodeId) next := by
  cases p with
  | ok ending => exact orderly.elim
  | error e => exact orderly.elim
  | ask c next =>
      cases c with
      | unregister n =>
          cases orderly.1
          exact ⟨next, rfl⟩
      | _ => exact orderly.1.elim

theorem Orderly.back (orderly : Orderly self .back p) : ∃ phase, p = .ok (.inl (self, phase)) := by
  cases p with
  | ok ending =>
      rcases ending with ⟨next, phase⟩ | done
      · cases orderly
        exact ⟨phase, rfl⟩
      · exact orderly.elim
  | error e => exact orderly.elim
  | ask c next => exact orderly.1.elim

theorem Orderly.finished (orderly : Orderly self .finished p) : p = .ok (.inr ()) := by
  cases p with
  | ok ending =>
      rcases ending with _ | done
      · exact orderly.elim
      · rfl
  | error e => exact orderly.elim
  | ask c next => exact orderly.1.elim

theorem Orderly.calm (orderly : Orderly self m p) (calm : m.Calm) : ¬ Locking p ∧ p ≠ .ok (.inr ()) := by
  cases p with
  | ok ending =>
      refine ⟨id, ?_⟩
      rintro ⟨⟩
      rcases calm with rfl | rfl <;> exact orderly
  | error e => exact ⟨id, nofun⟩
  | ask c next => exact ⟨calm.not_onMap orderly.1, nofun⟩

theorem connectionRound_free (self : ActiveSession) (phase : Phase) :
    ¬ Locking (connectionRound (self, phase)) ∧ connectionRound (self, phase) ≠ .ok (.inr ()) :=
  (connectionRound_orderly phase).calm (.inl rfl)

theorem Orderly.proceeds {c : NodeCall} {next : c.Answer → Task} (orderly : Orderly self m (.ask c next))
    (answer : c.Answer) : Proceeds self ⟨c, answer⟩ (next answer) := by
  have rest : Orderly self (m.turn ⟨c, answer⟩) (next answer) := orderly.2 answer
  by_cases calm : m.Calm
  · have away := calm.not_onMap orderly.1
    rcases m.turn_cases calm ⟨c, answer⟩ with ⟨same, turned⟩ | ⟨goodbye, turned⟩ | ⟨plain, stays, turned⟩
    · rw [turned] at rest
      obtain ⟨next', asks⟩ := rest.owing
      rw [same, asks]
      exact .trusts next'
    · rw [turned] at rest
      obtain ⟨next', asks⟩ := rest.leaving
      rw [asks]
      exact .leaves goodbye next'
    · obtain ⟨free, lives⟩ := rest.calm turned
      exact .goes away plain stays free lives
  · cases m with
    | loose => exact absurd (.inl rfl) calm
    | shut => exact absurd (.inr rfl) calm
    | owing =>
        obtain ⟨next', asks⟩ := orderly.owing
        cases asks
        obtain ⟨phase, returns⟩ := rest.back
        rw [returns]
        exact .registered phase
    | leaving =>
        obtain ⟨next', asks⟩ := orderly.leaving
        cases asks
        rw [rest.finished]
        exact .unregistered
    | back => exact orderly.1.elim
    | finished => exact orderly.1.elim

theorem Orderly.returns_self {next : ActiveSession} {phase : Phase}
    (orderly : Orderly self m (.ok (.inl (next, phase)))) : next = self := by
  cases m with
  | loose => exact orderly
  | shut => exact orderly
  | back => exact orderly
  | _ => exact orderly.elim

/-- Only who has just become trusted owes an entry. -/
theorem Proceeds.trusts_of_owing {event : NodeEvent} (proceeds : Proceeds self event p) (owing : Owing p) :
    event = ⟨.session (.setState .trusted), ()⟩ := by
  cases proceeds with
  | trusts next => rfl
  | goes _ _ _ free _ => exact absurd owing.locking free
  | _ => exact owing.elim

end Conduct

/-- Waits for an event; has a frame and waits for the lock; has the lock, and the frame goes
    to these next; has ended. -/
inductive Broadcaster (Target : Type) where
  | idle
  | ready (frame : DataFrame)
  | sending (frame : DataFrame) (todo : List Target)
  | stopped

namespace Broadcaster

variable {Target : Type}

def Unlocked : Broadcaster Target → Prop
  | .sending .. => False
  | _ => True

/-- How the loop goes on. -/
inductive Turn : Broadcaster Target → Broadcaster Target → Prop where
  | passesBy : Turn .idle .idle
  | hears (frame : DataFrame) : Turn .idle (.ready frame)
  | locks (frame : DataFrame) (todo : List Target) : Turn (.ready frame) (.sending frame todo)
  | serves (frame : DataFrame) (target : Target) (todo : List Target) :
      Turn (.sending frame (target :: todo)) (.sending frame todo)
  | unlocks (frame : DataFrame) : Turn (.sending frame []) .idle
  | stops : Turn .idle .stopped

theorem Turn.ne_stopped {before after : Broadcaster Target} (turn : Turn before after) : before ≠ .stopped := by
  cases turn <;> nofun

end Broadcaster

section Hubs

variable [Crypto] {σ : Type}

/-- The map has a session in place of its sender. -/
structure Hub (σ : Type) extends System σ where
  registry : AList fun _ : NodeId => Nat
  queue : Nat → List DataFrame
  broadcaster : Broadcaster Nat

/-- How many frames wait for a session at most. -/
def capacity : Nat := 32

/-- The map after a task has been answered. -/
def recorded (i : Nat) (registry : AList fun _ : NodeId => Nat) : NodeEvent → AList fun _ : NodeId => Nat
  | ⟨.register n, _⟩ => registry.insert n i
  | ⟨.unregister n, _⟩ => registry.erase n
  | _ => registry

theorem recorded_of_not_onMap {event : NodeEvent} (away : ¬ event.call.OnMap) (i : Nat)
    (registry : AList fun _ : NodeId => Nat) : recorded i registry event = registry := by
  obtain ⟨c, answer⟩ := event
  cases c with
  | register n => exact absurd trivial away
  | unregister n => exact absurd trivial away
  | _ => rfl

/-- The channels after a task has been answered. -/
def drained (i : Nat) (queue : Nat → List DataFrame) : NodeEvent → Nat → List DataFrame
  | ⟨.select, .outbound _⟩ => Function.update queue i (queue i).tail
  | _ => queue

inductive Move where
  | event (i : Nat) (event : NodeEvent)
  | fails (i : Nat)
  | locks (todo : List Nat)
  | passes
  | silent

/-- The task of the session has not returned, so that its channel is open. -/
def Member.Serving : Member → Prop
  | .active .node _ p => p ≠ .ok (.inr ())
  | _ => False

namespace Hub

/-- The lock is free if it is needed, and a frame for the peer is the first in the channel. -/
def Permits (h : Hub σ) (i : Nat) : NodeEvent → Prop
  | ⟨.register _, _⟩ => h.broadcaster.Unlocked
  | ⟨.unregister _, _⟩ => h.broadcaster.Unlocked
  | ⟨.select, .outbound frame⟩ => (h.queue i).head? = some frame
  | _ => True

inductive Step (machine : Machine σ) : Hub σ → Move → Hub σ → Prop where
  | connect {h : Hub σ} {i : Nat} {p : NodeProc ActiveSession} (free : h.member i = .absent)
      (opens : Role.node.Opens machine p) :
      Step machine h .silent { h with toSystem := h.assign i (.greeting .node p) }
  | greets {h : Hub σ} {i : Nat} {c : NodeCall} {next : c.Answer → NodeProc ActiveSession}
      {answer : c.Answer} {w : World σ} (here : h.member i = .greeting .node (.ask c next))
      (works : Works machine (h.world i) ⟨c, answer⟩ w) :
      Step machine h .silent { h with toSystem := h.replace i w (.greeting .node (next answer)) }
  | serve {h : Hub σ} {i : Nat} {self : ActiveSession} (here : h.member i = .greeting .node (.ok self)) :
      Step machine h .silent { h with toSystem := h.assign i (.active .node self (enterLoop self)) }
  | answers {h : Hub σ} {i : Nat} {self : ActiveSession} {c : NodeCall} {next : c.Answer → Task}
      {answer : c.Answer} {w : World σ} (here : h.member i = .active .node self (.ask c next))
      (works : Works machine (h.world i) ⟨c, answer⟩ w) (permits : h.Permits i ⟨c, answer⟩) :
      Step machine h (.event i ⟨c, answer⟩)
        ⟨h.replace i w (.active .node self (next answer)), recorded i h.registry ⟨c, answer⟩,
          drained i h.queue ⟨c, answer⟩, h.broadcaster⟩
  | round {h : Hub σ} {i : Nat} {self next : ActiveSession} {phase : Phase}
      (here : h.member i = .active .node self (.ok (.inl (next, phase)))) :
      Step machine h .silent
        { h with toSystem := h.assign i (.active .node self (connectionRound (next, phase))) }
  -- the task returns its error, and its end of the channel is dropped
  | fails {h : Hub σ} {i : Nat} {self : ActiveSession} {e : NodeError}
      (here : h.member i = .active .node self (.error e)) :
      Step machine h (.fails i) { h with toSystem := h.assign i .gone }
  | revoke {h : Hub σ} {nodeId : NodeId} (stored : (h.store.lookup nodeId.toHex).isSome) :
      Step machine h .silent { h with store := h.store.revokePeer nodeId }
  | offered {h : Hub σ} {frame : DataFrame} (free : h.broadcaster = .idle)
      (clipboard : frame.channel = DataFrame.channelClipboard) :
      Step machine h .silent { h with broadcaster := .ready frame }
  -- in whatever order the map has its entries
  | locks {h : Hub σ} {frame : DataFrame} {todo : List Nat} (ready : h.broadcaster = .ready frame)
      (order : todo.Perm (h.registry.entries.map Sigma.snd)) :
      Step machine h (.locks todo) { h with broadcaster := .sending frame todo }
  | sends {h : Hub σ} {frame : DataFrame} {i : Nat} {todo : List Nat}
      (next : h.broadcaster = .sending frame (i :: todo)) (serving : (h.member i).Serving)
      (room : (h.queue i).length < capacity) :
      Step machine h .passes { h with
        queue := Function.update h.queue i (h.queue i ++ [frame])
        broadcaster := .sending frame todo }
  | skips {h : Hub σ} {frame : DataFrame} {i : Nat} {todo : List Nat}
      (next : h.broadcaster = .sending frame (i :: todo)) (closed : ¬ (h.member i).Serving) :
      Step machine h .passes { h with broadcaster := .sending frame todo }
  | unlocks {h : Hub σ} {frame : DataFrame} (done : h.broadcaster = .sending frame []) :
      Step machine h .silent { h with broadcaster := .idle }
  -- it lags behind the events, or there are no more
  | stops {h : Hub σ} (free : h.broadcaster = .idle) :
      Step machine h .silent { h with broadcaster := .stopped }

abbrev Run (machine : Machine σ) : Hub σ → List (Hub σ × Move) → Hub σ → Prop := Visits (Step machine)

theorem Step.turn {machine : Machine σ} {h h' : Hub σ} {move : Move} (taken : Step machine h move h') :
    h'.broadcaster = h.broadcaster ∨ h.broadcaster.Turn h'.broadcaster := by
  cases taken with
  | offered free clipboard => exact .inr (free ▸ .hears _)
  | locks ready order => exact .inr (ready ▸ .locks _ _)
  | sends next serving room => exact .inr (next ▸ .serves ..)
  | skips next closed => exact .inr (next ▸ .serves ..)
  | unlocks done => exact .inr (done ▸ .unlocks _)
  | stops free => exact .inr (free ▸ .stops)
  | _ => exact .inl rfl

/-- Nobody has connected yet. -/
structure Fresh (h : Hub σ) : Prop where
  system : h.toSystem.Fresh
  registry : h.registry = ∅
  idle : h.broadcaster = .idle

end Hub

/-- A session before its loop is not trusted, and its task behaves from then on. -/
def Member.Conducted (state : SessionState) : Member → Prop
  | .absent => state ≠ .trusted
  | .greeting _ p => state ≠ .trusted ∧ p.AllCalls NodeCall.Steady
  | .active .node self p => (∃ m, Orderly self m p) ∧ (Owing p → state = .trusted)
  | _ => True

/-- The session may have an entry under this id. -/
def Member.Filed (n : NodeId) : Member → Prop
  | .active .node self _ => self.remoteNodeId = n
  | .gone => True
  | _ => False

theorem NodeCall.Steady.ne_trusted {c : NodeCall} (steady : c.Steady) : c ≠ .session (.setState .trusted) := by
  rintro rfl
  exact steady rfl

theorem allCalls_of_opens {machine : Machine σ} {p : NodeProc ActiveSession} (opens : Role.node.Opens machine p) :
    p.AllCalls NodeCall.Steady := by
  obtain ⟨endpoint, -, -, rfl⟩ := opens
  exact allCalls_lift ((harmless_of_plain serverHandshake_plain).mono fun _ => NodeCall.steady_of_harmless)

namespace System

theorem assign_others (s : System σ) {i j : Nat} (other : j ≠ i) (member : Member) :
    (s.assign i member).member j = s.member j ∧ (s.assign i member).state j = s.state j :=
  ⟨Function.update_of_ne other .., rfl⟩

theorem replace_others (s : System σ) {i j : Nat} (other : j ≠ i) (w : World σ) (member : Member) :
    (s.replace i w member).member j = s.member j ∧ (s.replace i w member).state j = s.state j :=
  ⟨Function.update_of_ne other .., Function.update_of_ne other ..⟩

theorem replace_state (s : System σ) (i : Nat) (w : World σ) (member : Member) :
    (s.replace i w member).state i = w.state := Function.update_self ..

end System

namespace Hub

structure Sound (h : Hub σ) : Prop where
  conducted : ∀ i, (h.member i).Conducted (h.state i)
  filed : ∀ n i, h.registry.lookup n = some i → (h.member i).Filed n
  apart : h.registry.Apart
  todo : ∀ frame todo, h.broadcaster = .sending frame todo → todo.Nodup

variable {machine : Machine σ} {h h' first : Hub σ} {move : Move} {visits : List (Hub σ × Move)} {i : Nat}

theorem Fresh.sound (fresh : h.Fresh) : h.Sound where
  conducted i := by
    rw [fresh.system.absent, fresh.system.handshaking]
    nofun
  filed n i found := by
    rw [fresh.registry] at found
    cases found
  apart n n' i found := by
    rw [fresh.registry] at found
    cases found
  todo frame todo sending := by
    rw [fresh.idle] at sending
    cases sending

/-- One session goes on, the others stay as they are. -/
theorem Sound.settle (sound : h.Sound) {s : System σ} (i : Nat)
    (others : ∀ j, j ≠ i → s.member j = h.member j ∧ s.state j = h.state j)
    (conducted : (s.member i).Conducted (s.state i))
    (filed : ∀ n, (h.member i).Filed n → (s.member i).Filed n) : Sound { h with toSystem := s } where
  conducted j := by
    by_cases same : j = i
    · subst same
      exact conducted
    · obtain ⟨member, state⟩ := others j same
      show (s.member j).Conducted (s.state j)
      rw [member, state]
      exact sound.conducted j
  filed n j found := by
    by_cases same : j = i
    · subst same
      exact filed n (sound.filed n j found)
    · show (s.member j).Filed n
      rw [(others j same).1]
      exact sound.filed n j found
  apart := sound.apart
  todo := sound.todo

theorem Sound.insert (sound : h.Sound) {n : NodeId} (filed : (h.member i).Filed n)
    (only : ∀ n', h.registry.lookup n' = some i → n' = n) :
    Sound { h with registry := h.registry.insert n i } where
  conducted := sound.conducted
  filed n' j found := by
    rcases AList.lookup_insert_eq_some.mp found with ⟨rfl, rfl⟩ | ⟨-, old⟩
    · exact filed
    · exact sound.filed n' j old
  apart := sound.apart.insert only
  todo := sound.todo

theorem Sound.erase (sound : h.Sound) (n : NodeId) : Sound { h with registry := h.registry.erase n } where
  conducted := sound.conducted
  filed n' j found := sound.filed n' j (AList.lookup_erase_eq_some.mp found).2
  apart := sound.apart.erase n
  todo := sound.todo

theorem Sound.broadcast (sound : h.Sound) (queue : Nat → List DataFrame) {broadcaster : Broadcaster Nat}
    (nodup : ∀ frame todo, broadcaster = .sending frame todo → todo.Nodup) :
    Sound { h with queue, broadcaster } :=
  ⟨sound.conducted, sound.filed, sound.apart, nodup⟩

/-- What the entry of a session does to the map. -/
theorem Sound.record (sound : h.Sound) {self : ActiveSession} {event : NodeEvent} {p : Task}
    (here : h.member i = .active .node self p) (proceeds : Proceeds self event p) :
    Sound { h with registry := recorded i h.registry event } := by
  cases proceeds with
  | registered phase =>
      apply sound.insert
      · rw [here]
        rfl
      · intro n' found
        have filed := sound.filed n' i found
        rw [here] at filed
        exact filed.symm
  | unregistered => exact sound.erase _
  | trusts next => exact sound
  | leaves goodbye next =>
      rw [recorded_of_not_onMap goodbye.not_onMap]
      exact sound
  | goes away =>
      rw [recorded_of_not_onMap away]
      exact sound

/-- A task is answered: how it goes on, and that it is trusted if it owes its entry. -/
theorem Sound.answered (sound : h.Sound) {self : ActiveSession} {c : NodeCall} {next : c.Answer → Task}
    {answer : c.Answer} {w : World σ} (here : h.member i = .active .node self (.ask c next))
    (works : Works machine (h.world i) ⟨c, answer⟩ w) :
    Proceeds self ⟨c, answer⟩ (next answer) ∧
      Member.Conducted w.state (.active .node self (next answer)) := by
  have conducted := sound.conducted i
  rw [here] at conducted
  obtain ⟨⟨m, orderly⟩, -⟩ := conducted
  have proceeds := orderly.proceeds answer
  refine ⟨proceeds, ⟨_, orderly.2 answer⟩, fun owing => ?_⟩
  rw [proceeds.trusts_of_owing owing] at works
  exact congrArg World.state works

theorem Sound.returns_self (sound : h.Sound) {self next : ActiveSession} {phase : Phase}
    (here : h.member i = .active .node self (.ok (.inl (next, phase)))) : next = self := by
  have conducted := sound.conducted i
  rw [here] at conducted
  obtain ⟨⟨m, orderly⟩, -⟩ := conducted
  exact orderly.returns_self

theorem Step.sound (taken : Step machine h move h') (sound : h.Sound) : h'.Sound := by
  cases taken with
  | @connect i p free opens =>
      have conducted := sound.conducted i
      rw [free] at conducted
      refine sound.settle i (fun j other => System.assign_others _ other _) ?_ ?_
      · rw [System.assign_member]
        exact ⟨conducted, allCalls_of_opens opens⟩
      · rw [free]
        exact fun _ => False.elim
  | @greets i c next answer w here works =>
      have conducted := sound.conducted i
      rw [here] at conducted
      obtain ⟨untrusted, steady, rest⟩ := conducted
      refine sound.settle i (fun j other => System.replace_others _ other _ _) ?_ ?_
      · rw [System.replace_member, System.replace_state]
        exact ⟨works.untrusted steady.ne_trusted untrusted, rest answer⟩
      · rw [here, System.replace_member]
        exact fun _ => id
  | @serve i self here =>
      have conducted := sound.conducted i
      rw [here] at conducted
      refine sound.settle i (fun j other => System.assign_others _ other _) ?_ ?_
      · rw [System.assign_member]
        exact ⟨⟨_, enterLoop_orderly⟩, False.elim⟩
      · rw [here]
        exact fun _ => False.elim
  | @answers i self c next answer w here works permits =>
      obtain ⟨proceeds, conducted⟩ := sound.answered here works
      have settled : Sound { h with toSystem := h.replace i w (.active .node self (next answer)) } := by
        refine sound.settle i (fun j other => System.replace_others _ other _ _) ?_ ?_
        · rw [System.replace_member, System.replace_state]
          exact conducted
        · rw [here, System.replace_member]
          exact fun _ => id
      exact (settled.record (System.replace_member ..) proceeds).broadcast _ sound.todo
  | @round i self next phase here =>
      cases sound.returns_self here
      refine sound.settle i (fun j other => System.assign_others _ other _) ?_ ?_
      · rw [System.assign_member]
        refine ⟨⟨_, connectionRound_orderly phase⟩, fun owing => ?_⟩
        exact absurd owing.locking (connectionRound_free self phase).1
      · rw [here, System.assign_member]
        exact fun _ => id
  | fails here =>
      refine sound.settle _ (fun j other => System.assign_others _ other _) ?_ ?_
      · rw [System.assign_member]
        trivial
      · rw [System.assign_member]
        exact fun _ _ => trivial
  | revoke stored => exact ⟨sound.conducted, sound.filed, sound.apart, sound.todo⟩
  | offered free clipboard => exact sound.broadcast _ nofun
  | locks ready order =>
      apply sound.broadcast
      rintro _ _ ⟨⟩
      exact order.nodup_iff.mpr sound.apart.nodup_values
  | sends next serving room =>
      apply sound.broadcast
      rintro _ _ ⟨⟩
      exact (sound.todo _ _ next).of_cons
  | skips next closed =>
      apply sound.broadcast
      rintro _ _ ⟨⟩
      exact (sound.todo _ _ next).of_cons
  | unlocks done => exact sound.broadcast _ nofun
  | stops free => exact sound.broadcast _ nofun

theorem Run.sound (run : Run machine first visits h) (fresh : first.Fresh) : h.Sound :=
  run.invariant fresh.sound Step.sound

section Connecting

/-- What a handshake does in a world it does in a hub. -/
theorem run_greets {p q : NodeProc ActiveSession} {events : List NodeEvent} {w : World σ}
    (runs : Runs p events q) (here : h.member i = .greeting .node p)
    (along : Along (Works machine) (h.world i) events w) :
    ∃ visits s, Run machine h visits { h with toSystem := s } ∧ s.member i = .greeting .node q ∧
      s.world i = w ∧ ∀ visit ∈ visits, visit.2 = .silent := by
  induction runs generalizing h with
  | stop => exact ⟨[], h.toSystem, .start, here, along.symm, List.forall_mem_nil _⟩
  | @ask c next answer events q _ ih =>
      obtain ⟨middle, works, later⟩ := along
      let met : Hub σ := { h with toSystem := h.replace i middle (.greeting .node (next answer)) }
      have taken : Step machine h .silent met := .greets here works
      obtain ⟨visits, s, run, there, world, silent⟩ :=
        ih (h := met) (System.replace_member ..) (by simpa [met] using later)
      refine ⟨_, s, (Visits.start.step taken).trans run, there, world, ?_⟩
      intro visit member
      rcases List.mem_cons.mp member with rfl | old
      · rfl
      · exact silent visit old

/-- A peer that the store trusts connects, and is put into the map. -/
theorem exists_registered (machine : Machine σ) (endpoint : Endpoint) (peer : IdentityKey)
    (identity : endpoint.localIdentity = machine.localIdentity)
    (directory : endpoint.receiveDir = machine.receiveDir) (free : h.member i = .absent)
    (known : h.store.isTrusted peer.nodeId peer.publicKey = .ok true) (idle : h.broadcaster = .idle) :
    ∃ visits s self, Run machine h visits
        { h with toSystem := s, registry := h.registry.insert peer.nodeId i } ∧
      Selecting s i self ∧ self.remoteNodeId = peer.nodeId ∧ s.state i = .trusted ∧
      ∀ visit ∈ visits, visit.2 = .silent ∨ visit.1.broadcaster = .idle ∧
        (visit.2 = .event i ⟨.session (.setState .trusted), ()⟩ ∨
          visit.2 = .event i ⟨.register peer.nodeId, ()⟩) := by
  obtain ⟨events, self, runs, -, -, remote, state, -, effect⟩ :=
    handshake_of_signed machine endpoint peer (w := h.world i) known
  let greeting : Member := .greeting .node (onSession "Handshake failed" (serverHandshake endpoint))
  let connected : Hub σ := { h with toSystem := h.assign i greeting }
  have connects : Step machine h .silent connected := .connect free ⟨endpoint, identity, directory, rfl⟩
  obtain ⟨visits, t, greeted, there, world, silent⟩ := run_greets (h := connected)
    (runs_onSession "Handshake failed" runs) (h.assign_member i greeting) (along_works effect)
  have trusted : self.state = .trusted := state
  have loop : enterLoop self = .ask (.session (.setState .trusted)) fun _ =>
      .ask (.register peer.nodeId) fun _ => .ok (.inl (self, .select)) := by
    rw [enterLoop, trusted, remote]
    rfl
  let s₁ : System σ := t.assign i (.active .node self (enterLoop self))
  have serves : Step machine { h with toSystem := t } .silent { h with toSystem := s₁ } := .serve there
  have here₁ : s₁.member i = .active .node self _ :=
    (t.assign_member ..).trans (congrArg (Member.active .node self) loop)
  let s₂ : System σ := s₁.replace i { s₁.world i with state := .trusted }
    (.active .node self (.ask (.register peer.nodeId) fun _ => .ok (.inl (self, .select))))
  have sets : Step machine { h with toSystem := s₁ } (.event i ⟨.session (.setState .trusted), ()⟩)
      { h with toSystem := s₂ } :=
    Step.answers (h := { h with toSystem := s₁ }) here₁ (w := { s₁.world i with state := .trusted }) rfl trivial
  let s₃ : System σ := s₂.replace i (s₂.world i) (.active .node self (.ok (.inl (self, .select))))
  have unlocked : h.broadcaster.Unlocked := by
    rw [idle]
    trivial
  have registers : Step machine { h with toSystem := s₂ } (.event i ⟨.register peer.nodeId, ()⟩)
      { h with toSystem := s₃, registry := h.registry.insert peer.nodeId i } :=
    Step.answers (h := { h with toSystem := s₂ }) (s₁.replace_member ..) (w := s₂.world i) rfl unlocked
  have here₃ : s₃.member i = .active .node self (.ok (.inl (self, .select))) := s₂.replace_member ..
  refine ⟨_, _, self, (((((Visits.start.step connects).trans greeted).step serves).step sets).step
    registers).step (.round here₃), System.assign_member .., remote, ?_, ?_⟩
  · calc s₃.state i = s₂.state i := System.replace_state ..
      _ = .trusted := System.replace_state ..
  · intro visit member
    simp only [List.mem_append, List.mem_singleton, List.nil_append] at member
    rcases member with ((((rfl | old) | rfl) | rfl) | rfl) | rfl
    · exact .inl rfl
    · exact .inl (silent visit old)
    · exact .inl rfl
    · exact .inr ⟨idle, .inl rfl⟩
    · exact .inr ⟨idle, .inr rfl⟩
    · exact .inl rfl

/-- The `select!` comes back with something from the stream. -/
theorem Step.hears (machine : Machine σ) {self : ActiveSession} (selecting : Selecting h.toSystem i self)
    (received : Except BridgeError (Option Frame)) :
    Step machine h (.event i ⟨.select, .inbound received⟩) { h with
      toSystem := h.replace i (h.world i)
        (.active .node self (handleSelected self (.inbound received) >>= afterRound self)) } := by
  have here : h.member i = .active .node self
      (.ask .select fun selected => handleSelected self selected >>= afterRound self) := selecting
  exact Step.answers here (w := h.world i) rfl trivial

end Connecting

end Hub

end Hubs

section Example

attribute [local instance] transparentCrypto

/-- Nobody is connected, and the store trusts the peer. -/
def exampleHub : Hub (Option Clipboard.ClipboardContent) := ⟨exampleSystem .trusted, ∅, fun _ => [], .idle⟩

theorem exampleHub_fresh : exampleHub.Fresh := ⟨exampleSystem_fresh .trusted, rfl, rfl⟩

/-- The peer has connected and is in the map. -/
theorem exampleHub_registered : ∃ visits s self, Hub.Run exampleMachine exampleHub visits
      { exampleHub with toSystem := s, registry := exampleHub.registry.insert examplePeer.nodeId 0 } ∧
    Selecting s 0 self ∧ self.remoteNodeId = examplePeer.nodeId ∧ s.state 0 = .trusted ∧
    ∀ visit ∈ visits, visit.2 = .silent ∨ visit.1.broadcaster = .idle ∧
      (visit.2 = .event 0 ⟨.session (.setState .trusted), ()⟩ ∨
        visit.2 = .event 0 ⟨.register examplePeer.nodeId, ()⟩) :=
  Hub.exists_registered exampleMachine ⟨⟨.fill 32 1⟩, "node", .windows, true, none⟩ examplePeer rfl rfl rfl
    (TrustStore.isTrusted_savePeer_self ∅ rfl) rfl

end Example

end BridgeOS.Node
