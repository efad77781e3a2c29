import BridgeOS.Lib.Discipline
import BridgeOS.Session.Binding
import BridgeOS.Session.Player

/-! # A ceremony that is broken off

`execute_pairing` sets the state of the session before anything else, and only the
local user's refusal sets it again before an error is returned. What the events of a
ceremony have left behind is followed along its code; the trust store is written
last, so a ceremony that fails has not written it.
-/

namespace BridgeOS.Session

open Proc

variable [Crypto] {σ : Type} {machine : Machine σ} {self : ActiveSession} {w w' : World σ}
  {events : List SessionEvent}

/-- Traces of the questions asked so far. -/
structure Trail where
  state : Option SessionState
  declined : Bool
  saved : Bool

namespace Trail

def start : Trail := ⟨none, false, false⟩

def turn (trail : Trail) : SessionEvent → Trail
  | ⟨.setState state, _⟩ => { trail with state := some state }
  | ⟨.confirm _ _, false⟩ => { trail with declined := true }
  | ⟨.savePeer _, .ok _⟩ => { trail with saved := true }
  | _ => trail

/-- A ceremony asks about nothing a handshake writes. -/
def following : Discipline Call Call.Answer Trail :=
  ⟨fun _ c => ∀ nodeId timestamp, c ≠ .updateLastSeen nodeId timestamp, turn⟩

/-- What an error leaves behind. -/
def Failed (trail : Trail) : Prop :=
  trail.saved = false ∧
    trail.state = some (if trail.declined then .authenticatedUntrusted else .pairing)

end Trail

/-- Leaves no trace. -/
def Call.Traceless : Call → Prop
  | .host _ | .send _ | .recvData _ => True
  | _ => False

theorem Trail.turn_of_traceless (trail : Trail) {event : SessionEvent} (traceless : event.call.Traceless) :
    trail.turn event = trail := by
  obtain ⟨call, answer⟩ := event
  cases call <;> first | rfl | exact traceless.elim

theorem observes_of_traceless {α : Type} {p : SessionProc α} (all : p.AllCalls Call.Traceless) (trail : Trail) :
    p.Observes Trail.following (fun t _ => t = trail) (· = trail) trail := by
  have observes : p.Observes Trail.following (fun t a => t = trail ∧ True) (· = trail) trail := by
    refine observes_of_within all.within ?_ ?_ ?_
    · rfl
    · rintro _ c rfl traceless nodeId timestamp rfl
      exact traceless
    · rintro _ event rfl traceless
      exact Trail.turn_of_traceless _ traceless
  exact observes.mono (fun _ _ both => both.1) fun _ => id

theorem Call.Exchanges.traceless (c : Call) (exchanges : c.Exchanges) : c.Traceless := by
  cases c with
  | host c => trivial
  | send frame => trivial
  | recvData channel => trivial
  | _ => exact exchanges

/-- The part between the user's consent and the saving of the peer. -/
theorem trail_of_leads {session : PairingSession} {p : SessionProc Unit}
    (leads : p.Leads Call.Exchanges (fun _ => False) (Saves session)) :
    p.Observes Trail.following (fun _ _ => True) Trail.Failed ⟨some .pairing, false, false⟩ := by
  induction leads with
  | reached here =>
      obtain ⟨peer, -, rfl⟩ := here
      refine ⟨by simp [Trail.following], fun saved => ?_⟩
      cases saved with
      | error e => exact ⟨rfl, rfl⟩
      | ok => trivial
  | failed e => exact ⟨rfl, rfl⟩
  | @ask c next asked _ _ ih =>
      refine ⟨?_, fun answer => ?_⟩
      · rintro nodeId timestamp rfl
        exact asked
      · rw [show Trail.following.turn _ ⟨c, answer⟩ = _ from Trail.turn_of_traceless _ asked.traceless]
        exact ih answer

theorem concludePairing_trail (session : PairingSession) (sas : SasVerification) :
    (concludePairing self session sas).Observes Trail.following (fun _ _ => True) Trail.Failed
      ⟨some .pairing, false, false⟩ := by
  obtain ⟨next, shape, declined, agreed⟩ := concludePairing_asks session sas
  rw [shape]
  refine ⟨by simp [Trail.following], fun confirmed => ?_⟩
  cases confirmed with
  | false =>
      rw [declined]
      refine ⟨by simp [Trail.following], fun _ => ?_⟩
      exact ⟨by simp [Trail.following], fun _ => ⟨rfl, rfl⟩⟩
  | true => exact trail_of_leads agreed

theorem executePairing_trail (isInitiator : Bool) :
    (executePairing self isInitiator).Observes Trail.following (fun _ _ => True) Trail.Failed .start := by
  refine observes_request (by simp [Trail.following]) fun _ => ?_
  have traceless : (openPairing self isInitiator).AllCalls Call.Traceless :=
    (openPairing_matched isInitiator).allCalls.mono Call.Exchanges.traceless
  refine observes_bind ((observes_of_traceless traceless _).mono ?_ ?_)
  · rintro _ opened rfl
    refine observes_bind ((concludePairing_trail opened.1 opened.2).mono ?_ fun _ => id)
    intro _ _ _
    exact observes_request (by simp [Trail.following]) fun _ => trivial
  · rintro _ rfl
    exact ⟨rfl, rfl⟩

/-- The world is where the trail says. -/
structure Trail.Tracks (first : World σ) (trail : Trail) (w : World σ) : Prop where
  state : w.state = trail.state.getD first.state
  store : trail.saved = false → w.store = first.store

theorem Trail.turn_state (trail : Trail) {event : SessionEvent}
    (other : ∀ state, event.call ≠ .setState state) : (trail.turn event).state = trail.state := by
  obtain ⟨call, answer⟩ := event
  cases call with
  | setState state => exact absurd rfl (other state)
  | confirm sas name => cases answer <;> rfl
  | savePeer peer => cases answer <;> rfl
  | _ => rfl

theorem Trail.saved_of_turn {trail : Trail} {event : SessionEvent}
    (unsaved : (trail.turn event).saved = false) : trail.saved = false := by
  obtain ⟨call, answer⟩ := event
  cases call with
  | confirm sas name => cases answer <;> exact unsaved
  | savePeer peer =>
      cases answer with
      | error e => exact unsaved
      | ok done => cases unsaved
  | _ => exact unsaved

theorem Trail.Tracks.step {first : World σ} {trail : Trail} {event : SessionEvent}
    (allowed : Trail.following.allows trail event.call) (handled : machine.Handles w event w')
    (tracks : trail.Tracks first w) : (trail.turn event).Tracks first w' := by
  constructor
  · by_cases sets : ∃ state, event.call = .setState state
    · obtain ⟨call, answer⟩ := event
      obtain ⟨state, rfl⟩ := sets
      cases handled
      rfl
    · rw [not_exists] at sets
      rw [handled.state sets, tracks.state, trail.turn_state sets]
  · intro unsaved
    rcases handled.store with same | ⟨peer, rfl, -⟩ | ⟨nodeId, timestamp, seen, -⟩
    · exact same.trans (tracks.store (saved_of_turn unsaved))
    · cases unsaved
    · exact absurd seen (allowed nodeId timestamp)

theorem declined_after (trail : Trail) (events : List SessionEvent) :
    (Trail.following.after trail events).declined = true ↔
      trail.declined = true ∨ ∃ sas name, ⟨.confirm sas name, false⟩ ∈ events := by
  induction events generalizing trail with
  | nil => simp [Discipline.after]
  | cons event rest ih =>
      have turned : (trail.turn event).declined = true ↔
          trail.declined = true ∨ ∃ sas name, ⟨.confirm sas name, false⟩ = event := by
        obtain ⟨call, answer⟩ := event
        cases call with
        | confirm sas name => cases answer <;> simp [Trail.turn]
        | savePeer peer => cases answer <;> simp [Trail.turn]
        | _ => simp [Trail.turn]
      rw [Discipline.after, List.foldl_cons, ← Discipline.after, ih]
      simp only [Trail.following, turned, List.mem_cons, or_assoc, exists_or]

/-- What a failed ceremony leaves: the trust store as it was, and the state the user's
    refusal or the start of the ceremony has set. -/
theorem world_of_failed_pairing {isInitiator : Bool} {e : SessionError}
    (failed : Runs (executePairing self isInitiator) events (.error e))
    (effect : machine.Effect w events w') :
    w'.store = w.store ∧
      ((∃ sas name, ⟨.confirm sas name, false⟩ ∈ events) ∧ w'.state = .authenticatedUntrusted ∨
        (¬ ∃ sas name, ⟨.confirm sas name, false⟩ ∈ events) ∧ w'.state = .pairing) := by
  obtain ⟨tracks, unsaved, last⟩ := (executePairing_trail isInitiator).along (I := Trail.Tracks w) failed
    effect (fun _ _ _ _ => Trail.Tracks.step) ⟨rfl, fun _ => rfl⟩
  refine ⟨tracks.store unsaved, ?_⟩
  have declined := declined_after Trail.start events
  simp only [Trail.start, Bool.false_eq_true, false_or] at declined
  have state : w'.state = if (Trail.following.after .start events).declined = true then
      .authenticatedUntrusted else .pairing := by rw [tracks.state, last, Option.getD_some]
  by_cases refused : ∃ sas name, ⟨.confirm sas name, false⟩ ∈ events
  · exact .inl ⟨refused, state.trans (if_pos (declined.mpr refused))⟩
  · exact .inr ⟨refused, state.trans (if_neg (declined.not.mpr refused))⟩

/-- A failed ceremony leaves the session as it was only if the session was untrusted and
    the local user has refused. -/
theorem failed_pairing_restores_iff {isInitiator : Bool} {e : SessionError}
    (initial : w.state = .authenticatedUntrusted ∨ w.state = .trusted)
    (failed : Runs (executePairing self isInitiator) events (.error e))
    (effect : machine.Effect w events w') :
    w'.store = w.store ∧ w'.state = w.state ↔
      w.state = .authenticatedUntrusted ∧ ∃ sas name, ⟨.confirm sas name, false⟩ ∈ events := by
  obtain ⟨store, ⟨refused, state⟩ | ⟨agreed, state⟩⟩ := world_of_failed_pairing failed effect
  · rw [state]
    exact ⟨fun same => ⟨same.2.symm, refused⟩, fun both => ⟨store, both.1.symm⟩⟩
  · constructor
    · rintro ⟨-, same⟩
      rw [← same, state] at initial
      rcases initial with untrusted | trusted
      · cases untrusted
      · cases trusted
    · rintro ⟨-, refused⟩
      exact absurd refused agreed

/-- A request comes and the local user refuses. -/
theorem exists_refused_pairing (machine : Machine σ) (self : ActiveSession) (other : IdentityKey)
    (w : World σ) :
    ∃ events w' sas name, Runs (executePairing self false) events (.error .pairingRejected) ∧
      machine.Effect w events w' ∧ ⟨.confirm sas name, false⟩ ∈ events := by
  have opened := runs_executePairing_opened (runs_openPairing_as self other)
  have refused := (runs_concludePairing_rejected self (openedAs self other).1 (openedAs self other).2
    (.ok ())).bind fun _ => .request (Call.setState .trusted) >>= fun _ => .ok (openedAs self other).2
  exact ⟨_, _, (openedAs self other).2, self.remoteName, opened.append refused,
    ⟨_, rfl, _, rfl, _, ⟨trivial, rfl⟩, _, ⟨trivial, rfl⟩, _, rfl, _, rfl, _, rfl, _, rfl, rfl⟩,
    List.mem_append_right _ List.mem_cons_self⟩

end BridgeOS.Session

namespace BridgeOS.Session

open Proc

section Example

attribute [local instance] transparentCrypto

def exampleActive : ActiveSession :=
  ⟨⟨.fill 32 1⟩, "node", .windows, ⟨.fill 32 2⟩, ⟨.fill 32 2, rfl⟩, "phone", .android,
    .authenticatedUntrusted, true, none⟩

def exampleWorld (state : SessionState) : World (Option Clipboard.ClipboardContent) :=
  ⟨state, ∅, ⟨⟨.fill 32 1⟩, .new 0, .default, none⟩, .empty⟩

theorem refused_pairing_restores :
    ∃ events w', Runs (executePairing exampleActive false) events (.error .pairingRejected) ∧
      exampleMachine.Effect (exampleWorld .authenticatedUntrusted) events w' ∧
      w'.state = .authenticatedUntrusted := by
  obtain ⟨events, w', sas, name, failed, effect, refused⟩ := exists_refused_pairing exampleMachine
    exampleActive ⟨.fill 32 2⟩ (exampleWorld .authenticatedUntrusted)
  have restored := (failed_pairing_restores_iff (.inl rfl) failed effect).mpr ⟨rfl, sas, name, refused⟩
  exact ⟨events, w', failed, effect, restored.2⟩

/-- The peer of a trusted session starts a ceremony and hangs up. -/
theorem disconnect_leaves_pairing :
    ∃ events, Runs (executePairing exampleActive false) events
        (.error (.closed "Peer disconnected while awaiting data frame")) ∧
      exampleMachine.Effect (exampleWorld .trusted) events (exampleWorld .pairing) :=
  ⟨[⟨.setState .pairing, ()⟩, ⟨.recvData DataFrame.channelPairing,
      .error (.closed "Peer disconnected while awaiting data frame")⟩],
    .ask (.ask (.stop _)), _, rfl, _, rfl, rfl⟩

end Example

end BridgeOS.Session
