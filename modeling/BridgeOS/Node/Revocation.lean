import BridgeOS.Clipboard.Monitor
import BridgeOS.Node.Link
import BridgeOS.Session.Gating
import BridgeOS.Session.Outsider

/-! # Sessions under revocation

Any number of sessions share one trust store, one clipboard engine and one receive
directory: connections of the node, and sessions whose owner calls
`process_next_frame` and `execute_pairing`. Peers may be revoked at any moment. A
session reads the store once, in its handshake, and its own state ever after, so
revoking a peer does not reach the sessions that were let in before.
-/

namespace BridgeOS.Node

open BridgeOS.Session hiding recvFrame
open DataFrame
open BridgeOS.Transfer Proc

section Programs

variable [Crypto] {self : ActiveSession}

def NodeCall.Innocent : NodeCall → Prop
  | .session c => c.Innocent
  | _ => True

/-- Applies a clipboard frame, takes up a file offer or sends a clipboard frame. -/
def NodeCall.Touches : NodeCall → Prop
  | .session (.clipboardFrame _) => True
  | .session (.openReceiver _) => True
  | .session (.send (.data df)) => df.channel = channelClipboard
  | _ => False

theorem NodeCall.Innocent.not_touches {c : NodeCall} (innocent : c.Innocent) : ¬ c.Touches := by
  intro touches
  cases c with
  | session c =>
      cases c with
      | clipboardFrame frame => exact innocent.1
      | openReceiver manifest => exact innocent.1
      | send frame =>
          cases frame with
          | data df => exact innocent.2 touches
          | handshake h => exact touches
          | control c => exact touches
      | _ => exact touches
  | _ => exact touches

def Unlisted (n : NodeId) : NodeEvent → Prop
  | ⟨.session c, answer⟩ => Session.Unlisted n ⟨c, answer⟩
  | _ => True

def Shut : NodeEvent → Prop
  | ⟨.session c, answer⟩ => Session.Shut ⟨c, answer⟩
  | _ => True

/-- Without trust the routine questions are innocent. -/
theorem NodeCall.Routine.innocent {trusted : Prop} (shut : ¬ trusted) (c : NodeCall)
    (routine : c.Routine trusted) : c.Innocent := by
  cases c with
  | session c =>
      cases c with
      | recv => exact ⟨trivial, trivial⟩
      | readState => exact ⟨trivial, trivial⟩
      | send frame =>
          refine ⟨trivial, ?_⟩
          cases frame with
          | data df =>
              intro clipboard
              have same : channelFileTransfer = channelClipboard :=
                (routine.resolve_left shut).symm.trans clipboard
              exact absurd same (by decide)
          | _ => trivial
      | clipboardFrame frame => exact absurd routine shut
      | openReceiver manifest => exact absurd routine shut
      | _ => exact routine.elim
  | _ => trivial

/-- The session a task goes on with is still one with `n`. -/
def Stays (n : NodeId) : (ActiveSession × Phase) ⊕ Unit → Prop
  | .inl (self, _) => self.remoteNodeId = n
  | .inr _ => True

theorem connectionRound_shut {n : NodeId} (same : self.remoteNodeId = n) (phase : Phase) :
    (connectionRound (self, phase)).Within Shut NodeCall.Innocent (Stays n) := by
  have pairing : (executePairing self false).Within Session.Shut Call.Innocent fun _ => True :=
    (executePairing_shut false).weaken fun _ _ => trivial
  refine (connectionRound_within Shut NodeCall.Innocent pairing (NodeCall.Routine.innocent fun shut => shut rfl)
    phase).weaken ?_
  rintro (⟨other, next⟩ | _) stays
  · exact (congrArg ActiveSession.remoteNodeId (stays other next rfl)).trans same
  · trivial

theorem enterLoop_within {n : NodeId} (same : self.remoteNodeId = n) (untrusted : self.state ≠ .trusted) :
    (enterLoop self).Within Shut NodeCall.Innocent (Stays n) := by
  have closed : self.state.isTrusted = false := SessionState.isTrusted_eq_false untrusted
  refine ⟨⟨untrusted, trivial⟩, fun _ _ => ?_⟩
  rw [closed]
  exact same

/-- A call on a session by its owner. -/
def callTask (self : ActiveSession) : Operation → Task
  | .nextFrame => do
      let _ ← attemptSession (processNextFrame self)
      return .inr ()
  | .pairing isInitiator => do
      let _ ← attemptSession (executePairing self isInitiator)
      return .inr ()

theorem callTask_within {n : NodeId} (operation : Operation) :
    (callTask self operation).Within Shut NodeCall.Innocent (Stays n) := by
  cases operation with
  | nextFrame =>
      apply within_bind (attemptSession_within processNextFrame_shut)
      intro _ _
      trivial
  | pairing isInitiator =>
      apply within_bind (attemptSession_within (executePairing_shut isInitiator))
      intro _ _
      trivial

end Programs

section Systems

variable [Crypto] {σ : Type}

/-- Who runs a session: the node's loop, or an owner that calls its functions. -/
inductive Role where
  | node
  | owner
  deriving DecidableEq

/-- What a session is doing. -/
inductive Member where
  | absent
  | greeting (role : Role) (p : NodeProc ActiveSession)
  | active (role : Role) (self : ActiveSession) (p : Task)
  | gone

structure System (σ : Type) where
  store : TrustStore
  engine : Clipboard.ClipboardSyncEngine σ
  disk : Disk PathBuf.Location
  state : Nat → SessionState
  member : Nat → Member

/-- What happens: a session has a question answered, and with whom it is then; or a
    peer is revoked; or nothing that can be seen. -/
inductive Label where
  | event (i : Nat) (peer : Option NodeId) (event : NodeEvent)
  | revoke (nodeId : NodeId)
  | silent

namespace System

/-- What the session sees. -/
def world (s : System σ) (i : Nat) : World σ := ⟨s.state i, s.store, s.engine, s.disk⟩

def assign (s : System σ) (i : Nat) (member : Member) : System σ :=
  { s with member := Function.update s.member i member }

/-- The session has changed the world. -/
def replace (s : System σ) (i : Nat) (w : World σ) (member : Member) : System σ :=
  ⟨w.store, w.engine, w.disk, Function.update s.state i w.state, Function.update s.member i member⟩

end System

/-- How a session starts on this machine. -/
def Role.Opens (machine : Machine σ) (role : Role) (p : NodeProc ActiveSession) : Prop :=
  ∃ endpoint : Endpoint, endpoint.localIdentity = machine.localIdentity ∧
    endpoint.receiveDir = machine.receiveDir ∧
    match role with
    | .node => p = onSession "Handshake failed" (serverHandshake endpoint)
    | .owner => ∃ text, p = onSession text (serverHandshake endpoint) ∨
        p = onSession text (clientHandshake endpoint)

inductive Step (machine : Machine σ) : System σ → Label → System σ → Prop where
  | connect {s : System σ} {i : Nat} {role : Role} {p : NodeProc ActiveSession}
      (free : s.member i = .absent) (opens : role.Opens machine p) :
      Step machine s .silent (s.assign i (.greeting role p))
  | greets {s : System σ} {i : Nat} {role : Role} {c : NodeCall} {next : c.Answer → NodeProc ActiveSession}
      {answer : c.Answer} {w : World σ} (here : s.member i = .greeting role (.ask c next))
      (works : Works machine (s.world i) ⟨c, answer⟩ w) :
      Step machine s (.event i none ⟨c, answer⟩) (s.replace i w (.greeting role (next answer)))
  | serve {s : System σ} {i : Nat} {self : ActiveSession} (here : s.member i = .greeting .node (.ok self)) :
      Step machine s .silent (s.assign i (.active .node self (enterLoop self)))
  | own {s : System σ} {i : Nat} {self : ActiveSession} (here : s.member i = .greeting .owner (.ok self)) :
      Step machine s .silent
        (s.replace i { s.world i with state := self.state } (.active .owner self (.ok (.inr ()))))
  | answers {s : System σ} {i : Nat} {role : Role} {self : ActiveSession} {c : NodeCall}
      {next : c.Answer → Task} {answer : c.Answer} {w : World σ}
      (here : s.member i = .active role self (.ask c next))
      (works : Works machine (s.world i) ⟨c, answer⟩ w) :
      Step machine s (.event i (some self.remoteNodeId) ⟨c, answer⟩)
        (s.replace i w (.active role self (next answer)))
  | round {s : System σ} {i : Nat} {self next : ActiveSession} {phase : Phase}
      (here : s.member i = .active .node self (.ok (.inl (next, phase)))) :
      Step machine s .silent (s.assign i (.active .node self (connectionRound (next, phase))))
  -- the call before has returned, or is dropped
  | call {s : System σ} {i : Nat} {self : ActiveSession} {p : Task} (operation : Operation)
      (here : s.member i = .active .owner self p) :
      Step machine s .silent (s.assign i (.active .owner self (callTask self operation)))
  | leave {s : System σ} (i : Nat) : Step machine s .silent (s.assign i .gone)
  | revoke {s : System σ} {nodeId : NodeId} (stored : (s.store.lookup nodeId.toHex).isSome) :
      Step machine s (.revoke nodeId) { s with store := s.store.revokePeer nodeId }

inductive Run (machine : Machine σ) (first : System σ) : List Label → System σ → Prop where
  | start : Run machine first [] first
  | step {labels : List Label} {s s' : System σ} {label : Label} (run : Run machine first labels s)
      (taken : Step machine s label s') : Run machine first (labels ++ [label]) s'

/-- The session is let in as one with `n`: the trust store vouches for it, or it has
    saved a peer. -/
def Label.LetsIn (n : NodeId) (i : Nat) : Label → Prop
  | .event j none e => j = i ∧ ∃ key, e = ⟨.session (.isTrusted n key), .ok true⟩
  | .event j (some peer) e => j = i ∧ peer = n ∧ ∃ saved, e = ⟨.session (.savePeer saved), .ok ()⟩
  | _ => False

/-- A pairing is completed on a session with `n`, or under its identity. -/
def Label.Pairs (n : NodeId) : Label → Prop
  | .event _ peer e => ∃ saved, e = ⟨.session (.savePeer saved), .ok ()⟩ ∧
      (peer = some n ∨ saved.nodeId = n)
  | _ => False

/-- The session has no trust and cannot get any without being let in. -/
def Member.Barred (n : NodeId) (state : SessionState) : Member → Prop
  | .absent => state ≠ .trusted
  | .greeting _ p => state ≠ .trusted ∧ p.Within (Unlisted n) NodeCall.Innocent (Unvouched n)
  | .active _ self p => self.remoteNodeId = n →
      state ≠ .trusted ∧ p.Within Shut NodeCall.Innocent (Stays n)
  | .gone => True

variable {machine : Machine σ} {n : NodeId} {s s' : System σ} {label : Label} {i : Nat} {role : Role}
  {p : NodeProc ActiveSession} {w : World σ} {event : NodeEvent} {labels : List Label}

theorem greeting_of_opens (opens : role.Opens machine p) :
    ∃ text signs q, Greeting signs Consults q ∧ p = onSession text q := by
  obtain ⟨endpoint, -, -, shape⟩ := opens
  cases role with
  | node => exact ⟨_, _, _, serverHandshake_greeting, shape⟩
  | owner =>
      obtain ⟨text, shape | shape⟩ := shape
      · exact ⟨text, _, _, serverHandshake_greeting, shape⟩
      · exact ⟨text, _, _, clientHandshake_greeting, shape⟩

theorem within_of_opens (opens : role.Opens machine p) :
    p.Within (Unlisted n) NodeCall.Innocent (Unvouched n) := by
  obtain ⟨text, signs, q, greeting, rfl⟩ := greeting_of_opens opens
  exact within_lift (unvouched_of_greeting greeting) fun _ _ unlisted => unlisted

/-- An innocent question does not make a session trusted. -/
theorem state_of_works {w' : World σ} (works : Works machine w event w') (innocent : event.call.Innocent)
    (untrusted : w.state ≠ .trusted) : w'.state ≠ .trusted := by
  apply works.untrusted _ untrusted
  intro same
  rw [same] at innocent
  exact innocent.1 rfl

theorem unlisted_of_ne (out : ∀ key, event ≠ ⟨.session (.isTrusted n key), .ok true⟩) : Unlisted n event := by
  obtain ⟨c, answer⟩ := event
  cases c with
  | session c =>
      cases c with
      | isTrusted nodeId key =>
          rintro rfl rfl
          exact out key rfl
      | _ => trivial
  | _ => trivial

theorem shut_of_works {w' : World σ} (works : Works machine w event w') (untrusted : w.state ≠ .trusted)
    (out : ∀ saved, event ≠ ⟨.session (.savePeer saved), .ok ()⟩) : Shut event := by
  obtain ⟨c, answer⟩ := event
  cases c with
  | session c =>
      cases c with
      | savePeer saved =>
          rintro rfl
          exact out saved rfl
      | readState =>
          obtain ⟨rfl, -⟩ := works
          exact untrusted
      | _ => trivial
  | _ => trivial

/-- What a step can do to one session: what the session sees before, what it is doing then, and in
    which state. -/
inductive Advance (machine : Machine σ) (i : Nat) (w : World σ) : Member → Label → Member → SessionState → Prop where
  | stays {member : Member} {label : Label} (elsewhere : ∀ peer event, label ≠ .event i peer event) :
      Advance machine i w member label member w.state
  | connects {role : Role} {p : NodeProc ActiveSession} (opens : role.Opens machine p) :
      Advance machine i w .absent .silent (.greeting role p) w.state
  | greets {role : Role} {c : NodeCall} {next : c.Answer → NodeProc ActiveSession} {answer : c.Answer}
      {w' : World σ} (works : Works machine w ⟨c, answer⟩ w') :
      Advance machine i w (.greeting role (.ask c next)) (.event i none ⟨c, answer⟩)
        (.greeting role (next answer)) w'.state
  | serves {self : ActiveSession} :
      Advance machine i w (.greeting .node (.ok self)) .silent (.active .node self (enterLoop self)) w.state
  | owns {self : ActiveSession} :
      Advance machine i w (.greeting .owner (.ok self)) .silent (.active .owner self (.ok (.inr ()))) self.state
  | answers {role : Role} {self : ActiveSession} {c : NodeCall} {next : c.Answer → Task} {answer : c.Answer}
      {w' : World σ} (works : Works machine w ⟨c, answer⟩ w') :
      Advance machine i w (.active role self (.ask c next)) (.event i (some self.remoteNodeId) ⟨c, answer⟩)
        (.active role self (next answer)) w'.state
  | rounds {self next : ActiveSession} {phase : Phase} :
      Advance machine i w (.active .node self (.ok (.inl (next, phase)))) .silent
        (.active .node self (connectionRound (next, phase))) w.state
  | calls {self : ActiveSession} {p : Task} (operation : Operation) :
      Advance machine i w (.active .owner self p) .silent (.active .owner self (callTask self operation)) w.state
  | leaves {member : Member} : Advance machine i w member .silent .gone w.state

section Advances

variable {j : Nat} {before after : Member} {state : SessionState}

theorem advance_assign (here : s.member j = before)
    (own : Advance machine j (s.world j) before .silent after (s.state j)) (i : Nat) :
    Advance machine i (s.world i) (s.member i) .silent ((s.assign j after).member i) ((s.assign j after).state i) := by
  by_cases same : i = j
  · subst same
    rw [here, show (s.assign i after).member i = after from Function.update_self ..]
    exact own
  · rw [show (s.assign j after).member i = s.member i from Function.update_of_ne same ..]
    exact .stays (by simp)

theorem advance_replace (here : s.member j = before)
    (own : Advance machine j (s.world j) before label after w.state)
    (elsewhere : i ≠ j → ∀ peer event, label ≠ .event i peer event) :
    Advance machine i (s.world i) (s.member i) label ((s.replace j w after).member i)
      ((s.replace j w after).state i) := by
  by_cases same : i = j
  · subst same
    simpa [System.replace, here] using own
  · simpa [System.replace, System.world, same] using Advance.stays (w := s.world i) (elsewhere same)

/-- Each session advances on its own. -/
theorem Step.advance (taken : Step machine s label s') (i : Nat) :
    Advance machine i (s.world i) (s.member i) label (s'.member i) (s'.state i) := by
  cases taken with
  | connect free opens => exact advance_assign free (.connects opens) i
  | greets here works =>
      exact advance_replace here (.greets works) fun other _ _ same => other (Label.event.inj same).1.symm
  | serve here => exact advance_assign here .serves i
  | own here => exact advance_replace here .owns fun _ => by simp
  | answers here works =>
      exact advance_replace here (.answers works) fun other _ _ same => other (Label.event.inj same).1.symm
  | round here => exact advance_assign here .rounds i
  | call operation here => exact advance_assign here (.calls operation) i
  | leave j => exact advance_assign rfl .leaves i
  | revoke stored => exact .stays (by simp)

/-- Who is not let in stays outside. -/
theorem Advance.barred (advance : Advance machine i w before label after state)
    (barred : before.Barred n w.state) (out : ¬ label.LetsIn n i) : after.Barred n state := by
  cases advance with
  | stays elsewhere => exact barred
  | connects opens => exact ⟨barred, within_of_opens opens⟩
  | greets works =>
      obtain ⟨untrusted, innocent, within⟩ := barred
      exact ⟨state_of_works works innocent untrusted,
        within _ (unlisted_of_ne fun key same => out ⟨rfl, key, same⟩)⟩
  | serves => exact fun same => ⟨barred.1, enterLoop_within same (barred.2 same)⟩
  | owns => exact fun same => ⟨barred.2 same, trivial⟩
  | answers works =>
      intro same
      obtain ⟨untrusted, innocent, within⟩ := barred same
      have shut := shut_of_works works untrusted fun saved event => out ⟨rfl, same, saved, event⟩
      exact ⟨state_of_works works innocent untrusted, within _ shut⟩
  | rounds =>
      intro same
      obtain ⟨untrusted, stays⟩ := barred same
      exact ⟨untrusted, connectionRound_shut stays _⟩
  | calls operation => exact fun same => ⟨(barred same).1, callTask_within operation⟩
  | leaves => trivial

end Advances

/-- Nobody has connected yet. -/
structure System.Fresh (s : System σ) : Prop where
  absent : ∀ i, s.member i = .absent
  handshaking : ∀ i, s.state i = .handshaking

/-- By induction over the run: a session is barred unless it was let in. -/
theorem Run.barred {first : System σ} (run : Run machine first labels s) (fresh : first.Fresh)
    (out : ∀ label ∈ labels, ¬ label.LetsIn n i) :
    (s.member i).Barred n (s.state i) := by
  induction run with
  | start =>
      rw [fresh.absent, fresh.handshaking]
      nofun
  | @step labels s s' label run taken ih =>
      have earlier := ih fun old member => out old (List.mem_append_left _ member)
      exact (taken.advance i).barred earlier (out label (List.mem_append_right _ List.mem_cons_self))

/-- A peer is saved. -/
def Label.Saves (saved : TrustedPeer) : Label → Prop
  | .event _ _ e => e = ⟨.session (.savePeer saved), .ok ()⟩
  | _ => False

theorem store_of_works {w' : World σ} (works : Works machine w event w') :
    w'.store = w.store ∨
      (∃ saved, event = ⟨.session (.savePeer saved), .ok ()⟩ ∧ w'.store = w.store.savePeer saved) ∨
      ∃ nodeId timestamp, w'.store = w.store.updateLastSeen nodeId timestamp := by
  rcases works.session_or_disk with ⟨c, answer, rfl, handled⟩ | ⟨disk, rfl⟩
  · rcases handled.store with same | ⟨saved, event, same⟩ | ⟨nodeId, timestamp, -, same⟩
    · exact .inl same
    · cases event
      exact .inr (.inl ⟨saved, rfl, same⟩)
    · exact .inr (.inr ⟨nodeId, timestamp, same⟩)
  · exact .inl rfl

/-- What a step can do to the trust store. -/
theorem Step.store (taken : Step machine s label s') :
    s'.store = s.store ∨
      (∃ saved, label.Saves saved ∧ s'.store = s.store.savePeer saved) ∨
      (∃ nodeId timestamp, s'.store = s.store.updateLastSeen nodeId timestamp) ∨
      ∃ nodeId, s'.store = s.store.revokePeer nodeId := by
  cases taken with
  | greets here works =>
      rcases store_of_works works with same | saves | seen
      · exact .inl same
      · exact .inr (.inl saves)
      · exact .inr (.inr (.inl seen))
  | answers here works =>
      rcases store_of_works works with same | saves | seen
      · exact .inl same
      · exact .inr (.inl saves)
      · exact .inr (.inr (.inl seen))
  | revoke stored => exact .inr (.inr (.inr ⟨_, rfl⟩))
  | connect free opens => exact .inl rfl
  | serve here => exact .inl rfl
  | own here => exact .inl rfl
  | round here => exact .inl rfl
  | call operation here => exact .inl rfl
  | leave j => exact .inl rfl

theorem Label.Saves.pairs {saved : TrustedPeer} (saves : label.Saves saved) : label.Pairs saved.nodeId := by
  cases label with
  | event i peer e => exact ⟨saved, saves, .inr rfl⟩
  | revoke nodeId => exact saves
  | silent => exact saves

/-- A revoked peer stays revoked unless it is paired again. -/
theorem Step.revoked (taken : Step machine s label s') (revoked : s.store.Revoked n)
    (unpaired : ¬ label.Pairs n) : s'.store.Revoked n := by
  rcases taken.store with same | ⟨saved, saves, same⟩ | ⟨nodeId, timestamp, same⟩ | ⟨nodeId, same⟩
  · rw [same]
    exact revoked
  · rw [same]
    exact revoked.savePeer fun named => unpaired (named ▸ saves.pairs)
  · rw [same]
    exact revoked.updateLastSeen nodeId timestamp
  · rw [same]
    exact revoked.revokePeer nodeId

/-- While the peer is revoked, nobody is let in as one of its sessions. -/
theorem Step.not_letsIn (taken : Step machine s label s') (revoked : s.store.Revoked n)
    (unpaired : ¬ label.Pairs n) (i : Nat) : ¬ label.LetsIn n i := by
  intro lets
  cases taken with
  | greets here works =>
      obtain ⟨-, key, event⟩ := lets
      cases event
      rcases works.1 with answered | ⟨text, failed⟩
      · exact revoked.not_isTrusted key answered.symm
      · cases failed
  | answers here works =>
      obtain ⟨-, peer, saved, event⟩ := lets
      exact unpaired ⟨saved, event, .inl (congrArg some peer)⟩
  | _ => exact lets

/-- What a barred session asks is innocent. -/
theorem Step.innocent (taken : Step machine s (.event i (some n) event) s')
    (barred : (s.member i).Barred n (s.state i)) : event.call.Innocent := by
  cases taken with
  | answers here works =>
      rw [here] at barred
      exact (barred rfl).2.1

/-- From the revocation on the store and the sessions keep each other shut. -/
theorem Run.shut {first : System σ} (run : Run machine first labels s) (revoked : first.store.Revoked n)
    (barred : ∀ i, (first.member i).Barred n (first.state i)) (unpaired : ∀ label ∈ labels, ¬ label.Pairs n) :
    s.store.Revoked n ∧ (∀ i, (s.member i).Barred n (s.state i)) ∧
      ∀ i event, Label.event i (some n) event ∈ labels → ¬ event.call.Touches := by
  induction run with
  | start => exact ⟨revoked, barred, fun _ _ member => absurd member List.not_mem_nil⟩
  | @step labels s s' label run taken ih =>
      obtain ⟨still, outside, untouched⟩ := ih fun old member =>
        unpaired old (List.mem_append_left _ member)
      have last := unpaired label (List.mem_append_right _ List.mem_cons_self)
      refine ⟨taken.revoked still last, fun i =>
        (taken.advance i).barred (outside i) (taken.not_letsIn still last i), ?_⟩
      intro i event member
      rcases List.mem_append.mp member with old | new
      · exact untouched i event old
      · obtain rfl := List.mem_singleton.mp new
        exact (taken.innocent (outside i)).not_touches

/-- If no session that is still there had been let in as one with the peer when it was
    revoked, and no pairing with it is completed later, then no session with it touches
    anything any more. -/
theorem revoked_peer_is_cut_off {first s' t : System σ} {before after : List Label} (fresh : first.Fresh)
    (run : Run machine first before s) (revokes : Step machine s (.revoke n) s')
    (rest : Run machine s' after t)
    (outside : ∀ i, s.member i ≠ .gone → ∀ label ∈ before, ¬ label.LetsIn n i)
    (unpaired : ∀ label ∈ after, ¬ label.Pairs n) :
    ∀ i event, Label.event i (some n) event ∈ after → ¬ event.call.Touches := by
  have barred : ∀ i, (s.member i).Barred n (s.state i) := by
    intro i
    by_cases finished : s.member i = .gone
    · rw [finished]
      trivial
    · exact run.barred fresh (outside i finished)
  cases revokes with
  | revoke stored =>
      obtain ⟨row, found⟩ := Option.isSome_iff_exists.mp stored
      exact (rest.shut (TrustStore.revoked_revokePeer found) barred unpaired).2.2

section Runs

namespace System

@[simp] theorem assign_member (s : System σ) (i : Nat) (member : Member) :
    (s.assign i member).member i = member := Function.update_self ..

@[simp] theorem replace_member (s : System σ) (i : Nat) (w : World σ) (member : Member) :
    (s.replace i w member).member i = member := Function.update_self ..

@[simp] theorem replace_world (s : System σ) (i : Nat) (w : World σ) (member : Member) :
    (s.replace i w member).world i = w := by simp [world, replace]

end System

theorem Run.trans {first t : System σ} {later : List Label} (run : Run machine first labels s)
    (rest : Run machine s later t) : Run machine first (labels ++ later) t := by
  induction rest with
  | start =>
      rw [List.append_nil]
      exact run
  | step _ taken ih =>
      rw [← List.append_assoc]
      exact ih.step taken

theorem Step.run (taken : Step machine s label s') : Run machine s [label] s' := Run.start.step taken

variable {events : List NodeEvent}

/-- What a program does in a world it does in a system. -/
theorem run_along {α : Type} {p q : NodeProc α} {F : NodeProc α → Member} {label : NodeEvent → Label}
    (taken : ∀ {s : System σ} {c next answer w}, s.member i = F (.ask c next) →
      Works machine (s.world i) ⟨c, answer⟩ w →
        Step machine s (label ⟨c, answer⟩) (s.replace i w (F (next answer))))
    (runs : Runs p events q) (here : s.member i = F p) (along : Along (Works machine) (s.world i) events w) :
    ∃ t, Run machine s (events.map label) t ∧ t.member i = F q ∧ t.world i = w := by
  induction runs generalizing s with
  | stop => exact ⟨s, .start, here, along.symm⟩
  | ask _ ih =>
      obtain ⟨middle, works, later⟩ := along
      obtain ⟨t, run, there, world⟩ := ih (System.replace_member ..) (by simpa using later)
      exact ⟨t, (taken here works).run.trans run, there, world⟩

/-- The node waits for the next frame of a session. -/
def Selecting (s : System σ) (i : Nat) (self : ActiveSession) : Prop :=
  s.member i = .active .node self (connectionRound (self, .select))

/-- A round, or the way into the loop, and the loop again. -/
theorem run_round (machine : Machine σ) {self : ActiveSession} {p : Task}
    (runs : Runs p events (.ok (.inl (self, .select)))) (here : s.member i = .active .node self p)
    (along : Along (Works machine) (s.world i) events w) :
    ∃ t, Run machine s (events.map (.event i (some self.remoteNodeId)) ++ [.silent]) t ∧
      Selecting t i self ∧ t.world i = w := by
  obtain ⟨t, run, there, world⟩ := run_along (F := .active .node self) .answers runs here along
  exact ⟨_, run.step (.round there), System.assign_member .., world⟩

def entersLoop (self : ActiveSession) : List NodeEvent :=
  ⟨.session (.setState self.state), ()⟩ ::
    if self.state.isTrusted then [⟨.register self.remoteNodeId, ()⟩] else []

theorem runs_enterLoop (self : ActiveSession) :
    Runs (enterLoop self) (entersLoop self) (.ok (.inl (self, .select))) := by
  unfold enterLoop entersLoop
  cases self.state.isTrusted with
  | true => exact .ask (.ask (.stop _))
  | false => exact .ask (.stop _)

theorem along_entersLoop (self : ActiveSession) (w : World σ) :
    Along (Works machine) w (entersLoop self) { w with state := self.state } := by
  unfold entersLoop
  cases self.state.isTrusted with
  | true => exact ⟨_, rfl, _, rfl, rfl⟩
  | false => exact ⟨_, rfl, rfl⟩

/-- A peer connects, and is trusted if the store trusts it. -/
theorem exists_selecting (machine : Machine σ) (endpoint : Endpoint) (peer : IdentityKey)
    (identity : endpoint.localIdentity = machine.localIdentity)
    (directory : endpoint.receiveDir = machine.receiveDir) {trusted : Bool}
    (free : s.member i = .absent)
    (known : s.store.isTrusted peer.nodeId peer.publicKey = .ok trusted) :
    ∃ labels t self, Run machine s labels t ∧ Selecting t i self ∧ self.remoteNodeId = peer.nodeId ∧
      t.world i = ⟨if trusted then .trusted else .authenticatedUntrusted,
        if trusted then s.store.updateLastSeen peer.nodeId 0 else s.store, s.engine, s.disk⟩ ∧
      (trusted = false → ∀ label ∈ labels, ∀ n j, ¬ label.LetsIn n j) := by
  obtain ⟨events, self, runs, -, -, remote, state, unlisted, effect⟩ :=
    handshake_of_signed machine endpoint peer (w := s.world i) known
  let greeting : Member := .greeting .node (onSession "Handshake failed" (serverHandshake endpoint))
  have connected : Step machine s .silent (s.assign i greeting) :=
    .connect free ⟨endpoint, identity, directory, rfl⟩
  obtain ⟨t, greeted, there, world⟩ := run_along (F := .greeting .node) .greets (runs_onSession "Handshake failed" runs)
    (s.assign_member i greeting) (along_works effect)
  obtain ⟨u, entered, selecting, reached⟩ := run_round machine (runs_enterLoop self)
    (t.assign_member i (.active .node self (enterLoop self))) (along_entersLoop self (t.world i))
  refine ⟨_, u, self, ((connected.run.trans greeted).step (.serve there)).trans entered, selecting,
    remote, ?_, ?_⟩
  · rw [reached, world, state]
    cases trusted with
    | true => rfl
    | false => rfl
  · intro untrusted label member n j lets
    simp only [List.mem_append, List.mem_map, List.mem_singleton, List.map_map] at member
    rcases member with ((rfl | ⟨event, inside, rfl⟩) | rfl) | ⟨event, inside, rfl⟩ | rfl
    · exact lets
    · obtain ⟨-, key, same⟩ := lets
      obtain ⟨c, answer⟩ := event
      cases same
      exact unlisted untrusted n key inside
    · exact lets
    · obtain ⟨-, -, saved, rfl⟩ := lets
      simp [entersLoop] at inside
    · exact lets

/-- A trusted session's clipboard frame reaches the engine, whatever the store says. -/
theorem run_clipboard (machine : Machine σ) {self : ActiveSession} (here : Selecting s i self)
    (trusted : s.state i = .trusted) (payload : Bytes) :
    ∃ labels t result, Run machine s labels t ∧ Selecting t i self ∧
      Label.event i (some self.remoteNodeId)
        ⟨.session (.clipboardFrame ⟨channelClipboard, payload⟩), result⟩ ∈ labels ∧
      t.world i = { s.world i with engine := (s.engine.handleIncomingFrame machine.blake3 machine.backend
        ⟨channelClipboard, payload⟩).engine } := by
  let df : DataFrame := ⟨channelClipboard, payload⟩
  let outcome := s.engine.handleIncomingFrame machine.blake3 machine.backend df
  have other : channelClipboard ≠ channelPairing := by decide
  have runs : Runs (connectionRound (self, .select))
      [⟨.select, .inbound (.ok (some (.data df)))⟩, ⟨.session .readState, .trusted⟩,
        ⟨.session (.clipboardFrame df), outcome.result⟩] (.ok (.inl (self, .select))) := by
    rw [connectionRound_select]
    apply Runs.ask
    simp only [handleSelected, orFail_ok, ok_bind, handleInbound, df, other, if_false, if_true]
    exact .ask (.ask (.stop _))
  obtain ⟨t, run, selecting, world⟩ := run_round machine runs here
    ⟨_, rfl, _, ⟨trusted.symm, rfl⟩, _, ⟨rfl, rfl⟩, rfl⟩
  exact ⟨_, t, outcome.result, run, selecting, by simp [df], world⟩

/-- A clipboard frame for a trusted session's peer is sent, whatever the store says. -/
theorem run_outbound (machine : Machine σ) {self : ActiveSession} (here : Selecting s i self)
    (trusted : s.state i = .trusted) (df : DataFrame) :
    ∃ labels t, Run machine s labels t ∧ Selecting t i self ∧
      Label.event i (some self.remoteNodeId) ⟨.session (.send (.data df)), .ok ()⟩ ∈ labels ∧
      t.world i = s.world i := by
  have runs : Runs (connectionRound (self, .select))
      [⟨.select, .outbound df⟩, ⟨.session .readState, .trusted⟩, ⟨.session (.send (.data df)), .ok ()⟩]
      (.ok (.inl (self, .select))) := .ask (.ask (.ask (.stop _)))
  obtain ⟨t, run, selecting, world⟩ := run_round machine runs here
    ⟨_, rfl, _, ⟨trusted.symm, rfl⟩, _, rfl, rfl⟩
  exact ⟨_, t, run, selecting, by simp, world⟩

/-- A peer that was let in is revoked, and goes on as before. -/
theorem exists_unnoticed_revocation (machine : Machine σ) (endpoint : Endpoint) (peer : IdentityKey)
    (identity : endpoint.localIdentity = machine.localIdentity)
    (directory : endpoint.receiveDir = machine.receiveDir) (fresh : s.Fresh)
    (known : s.store.isTrusted peer.nodeId peer.publicKey = .ok true)
    (stored : ((s.store.updateLastSeen peer.nodeId 0).lookup peer.nodeId.toHex).isSome)
    (payload : Bytes) (df : DataFrame) :
    ∃ before t t' after u result, Run machine s before t ∧ Step machine t (.revoke peer.nodeId) t' ∧
      Run machine t' after u ∧
      Label.event 0 (some peer.nodeId)
        ⟨.session (.clipboardFrame ⟨channelClipboard, payload⟩), result⟩ ∈ after ∧
      Label.event 0 (some peer.nodeId) ⟨.session (.send (.data df)), .ok ()⟩ ∈ after ∧
      u.engine = (s.engine.handleIncomingFrame machine.blake3 machine.backend
        ⟨channelClipboard, payload⟩).engine := by
  obtain ⟨before, t, self, run, selecting, remote, world, -⟩ :=
    exists_selecting machine endpoint peer identity directory (fresh.absent 0) known
  simp only [if_true, System.world, World.mk.injEq] at world
  obtain ⟨state, store, engine, -⟩ := world
  have revokes : Step machine t (.revoke peer.nodeId) { t with store := t.store.revokePeer peer.nodeId } :=
    .revoke (by rw [store]; exact stored)
  obtain ⟨labels, v, result, heard, selecting', event, reached⟩ := run_clipboard machine
    (s := { t with store := t.store.revokePeer peer.nodeId }) selecting state payload
  have still : v.state 0 = .trusted := (congrArg World.state reached).trans state
  obtain ⟨labels', u, sent, -, event', reached'⟩ := run_outbound machine selecting' still df
  rw [remote] at event event'
  refine ⟨before, t, _, labels ++ labels', u, result, run, revokes, heard.trans sent,
    List.mem_append_left _ event, List.mem_append_right _ event', ?_⟩
  rw [← engine]
  exact (congrArg World.engine reached').trans (congrArg World.engine reached)

/-- A peer that is known but not trusted is revoked, and its frame is dropped as before. -/
theorem exists_outsider (machine : Machine σ) (endpoint : Endpoint) (peer : IdentityKey)
    (identity : endpoint.localIdentity = machine.localIdentity)
    (directory : endpoint.receiveDir = machine.receiveDir) (fresh : s.Fresh)
    (known : s.store.isTrusted peer.nodeId peer.publicKey = .ok false)
    (stored : (s.store.lookup peer.nodeId.toHex).isSome) (payload : Bytes) :
    ∃ before t t' after u, Run machine s before t ∧ Step machine t (.revoke peer.nodeId) t' ∧
      Run machine t' after u ∧
      (∀ label ∈ before, ∀ n j, ¬ label.LetsIn n j) ∧ (∀ label ∈ after, ¬ label.Pairs peer.nodeId) ∧
      Label.event 0 (some peer.nodeId) ⟨.select, .inbound (.ok (some
        (.data ⟨channelClipboard, payload⟩)))⟩ ∈ after := by
  obtain ⟨before, t, self, run, selecting, remote, world, outside⟩ :=
    exists_selecting machine endpoint peer identity directory (fresh.absent 0) known
  simp only [Bool.false_eq_true, if_false, System.world, World.mk.injEq] at world
  obtain ⟨state, store, -, -⟩ := world
  have revokes : Step machine t (.revoke peer.nodeId) { t with store := t.store.revokePeer peer.nodeId } :=
    .revoke (by rw [store]; exact stored)
  have other : channelClipboard ≠ channelPairing := by decide
  have runs : Runs (connectionRound (self, .select))
      [⟨.select, .inbound (.ok (some (.data ⟨channelClipboard, payload⟩)))⟩,
        ⟨.session .readState, .authenticatedUntrusted⟩] (.ok (.inl (self, .select))) := by
    rw [connectionRound_select]
    apply Runs.ask
    simp only [handleSelected, orFail_ok, ok_bind, handleInbound, other, if_false, if_true]
    exact .ask (.stop _)
  obtain ⟨u, dropped, -, -⟩ := run_round machine
    (s := { t with store := t.store.revokePeer peer.nodeId }) runs selecting
    ⟨_, rfl, _, ⟨state.symm, rfl⟩, rfl⟩
  rw [remote] at dropped
  refine ⟨before, t, _, _, u, run, revokes, dropped, outside rfl, ?_, by simp⟩
  intro label member pairs
  simp only [List.map_cons, List.map_nil, List.mem_append, List.mem_cons, List.not_mem_nil,
    or_false] at member
  rcases member with (rfl | rfl) | rfl
  · obtain ⟨saved, same, -⟩ := pairs
    cases same
  · obtain ⟨saved, same, -⟩ := pairs
    cases same
  · exact pairs

end Runs

end Systems

section Example

attribute [local instance] transparentCrypto

def examplePeer : IdentityKey := ⟨.fill 32 2⟩

/-- Nobody is connected, and the store has the peer in this state. -/
def exampleSystem (state : TrustState) : System (Option Clipboard.ClipboardContent) where
  store := TrustStore.savePeer ∅
    ⟨examplePeer.nodeId, examplePeer.publicKey, "laptop", .linux, 0, 0, state⟩
  engine := ⟨⟨.fill 32 1⟩, .new 256, .default, none⟩
  disk := .empty
  state _ := .handshaking
  member _ := .absent

theorem exampleSystem_fresh (state : TrustState) : (exampleSystem state).Fresh := ⟨fun _ => rfl, fun _ => rfl⟩

/-- The peer's text is applied and a frame is sent to it after it has been revoked. -/
theorem revoked_peer_goes_on :
    ∃ before s s' after t result, Run exampleMachine (exampleSystem .trusted) before s ∧
      Step exampleMachine s (.revoke examplePeer.nodeId) s' ∧ Run exampleMachine s' after t ∧
      Label.event 0 (some examplePeer.nodeId) ⟨.session (.clipboardFrame (Clipboard.ClipboardMessage.sync
        (.new exampleMachine.blake3 0 examplePeer.nodeId 1 (.text "x") false)).toDataFrame), result⟩ ∈ after ∧
      Label.event 0 (some examplePeer.nodeId)
        ⟨.session (.send (.data ⟨channelClipboard, []⟩)), .ok ()⟩ ∈ after ∧
      t.engine.clipboard = some (.text "x") := by
  have known : (exampleSystem .trusted).store.isTrusted examplePeer.nodeId examplePeer.publicKey =
      .ok true := TrustStore.isTrusted_savePeer_self ∅ rfl
  have message := Clipboard.ClipboardEntry.fromDataFrame_new exampleMachine.blake3 0 examplePeer.nodeId 1
    false (show (utf8 "x").length < 2 ^ 63 by decide)
  have intact := Clipboard.ClipboardEntry.validateIntegrity_new exampleMachine.blake3 0 examplePeer.nodeId 1
    false (show (utf8 "x").length < 2 ^ 63 by decide)
  have admits : Clipboard.ClipboardSyncEngine.Admits exampleMachine.blake3
      (exampleSystem .trusted).engine _ := ⟨by decide, intact, rfl, by decide, nofun⟩
  have applied := Clipboard.ClipboardSyncEngine.handleIncomingFrame_of_sync exampleMachine.blake3
    exampleMachine.backend message admits
  obtain ⟨before, s, s', after, t, result, run, revokes, rest, heard, sent, engine⟩ :=
    exists_unnoticed_revocation exampleMachine ⟨⟨.fill 32 1⟩, "node", .windows, true, none⟩ examplePeer
      rfl rfl (exampleSystem_fresh .trusted) known (by decide) _ ⟨channelClipboard, []⟩
  exact ⟨before, s, s', after, t, result, run, revokes, rest, heard, sent,
    congrArg Clipboard.ClipboardSyncEngine.clipboard (engine.trans applied)⟩

theorem outsider_is_cut_off :
    ∃ before s s' after t, Run exampleMachine (exampleSystem .pending) before s ∧
      Step exampleMachine s (.revoke examplePeer.nodeId) s' ∧ Run exampleMachine s' after t ∧
      Label.event 0 (some examplePeer.nodeId) ⟨.select, .inbound (.ok (some
        (.data ⟨channelClipboard, []⟩)))⟩ ∈ after ∧
      ∀ i event, Label.event i (some examplePeer.nodeId) event ∈ after → ¬ event.call.Touches := by
  have known : (exampleSystem .pending).store.isTrusted examplePeer.nodeId examplePeer.publicKey =
      .ok false := TrustStore.isTrusted_savePeer ∅ _
  obtain ⟨before, s, s', after, t, run, revokes, rest, outside, unpaired, arrived⟩ :=
    exists_outsider exampleMachine ⟨⟨.fill 32 1⟩, "node", .windows, true, none⟩ examplePeer rfl rfl
      (exampleSystem_fresh .pending) known (by decide) []
  exact ⟨before, s, s', after, t, run, revokes, rest, arrived,
    revoked_peer_is_cut_off (exampleSystem_fresh .pending) run revokes rest
      (fun i _ label member => outside label member _ i) unpaired⟩

end Example

end BridgeOS.Node
