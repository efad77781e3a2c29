import BridgeOS.Node.Revocation
import BridgeOS.Session.Binding
import BridgeOS.Session.Consultation

/-! # How long a revocation lasts

`revoke_peer` updates a row, so it does nothing for a peer that has none; and
`save_peer`, with which every pairing ends, writes over the row that is there. For
a stored peer that nobody pairs with again it lasts: every later handshake is told
that the peer is revoked, and can then only fail with that.
-/

namespace BridgeOS.Node

open BridgeOS.Session hiding recvFrame
open BridgeOS.Transfer Proc

section Durability

variable [Crypto] {σ : Type}

def NodeCall.Bound : NodeCall → Prop
  | .session c => c.Bound
  | _ => True

def Undecided (n : NodeId) : NodeEvent → Prop
  | ⟨.session c, answer⟩ => Session.Undecided n ⟨c, answer⟩
  | _ => True

def Refused (n : NodeId) : NodeEvent → Prop
  | ⟨.session c, answer⟩ => Session.Refused n ⟨c, answer⟩
  | _ => False

/-- The error of a handshake with a revoked peer. -/
def NodeError.Rejects (n : NodeId) : NodeError → Prop
  | .context _ (.session e) => e = .peerRevoked n.toHex
  | _ => False

/-- The peer is asked about under its own key, and a handshake in which it was found
    revoked can only fail with that error. -/
def Member.Proper (n : NodeId) : Member → Prop
  | .greeting _ p => p.AllCalls NodeCall.Bound ∧ p.FailsUpon (Refused n) (NodeError.Rejects n)
  | _ => True

/-- There is no session with the peer, and none can come about as long as the store
    gives no answer about it. -/
def Member.Strange (n : NodeId) : Member → Prop
  | .greeting _ p => p.Within (Undecided n) (fun _ => True) fun self => self.remoteNodeId ≠ n
  | .active _ self _ => self.remoteNodeId ≠ n
  | _ => True

/-- The handshake can only fail because the peer is revoked, unless it has gone away. -/
def Member.Rejected (n : NodeId) : Member → Prop
  | .greeting _ p => p.Fails (NodeError.Rejects n)
  | .gone => True
  | _ => False

/-- The store answered a handshake's question about the peer. -/
def Label.Decides (n : NodeId) (i : Nat) : Label → Prop
  | .event j none e => j = i ∧ ∃ key known, e = ⟨.session (.isTrusted n key), .ok known⟩
  | _ => False

def Label.Refuses (n : NodeId) (i : Nat) : Label → Prop
  | .event j none e => j = i ∧ ∃ key, e = ⟨.session (.isTrusted n key), .error (.peerRevoked n)⟩
  | _ => False

variable {machine : Machine σ} {n : NodeId} {s s' : System σ} {label : Label} {i : Nat} {w : World σ}
  {member member' : Member} {state : SessionState}
  {labels : List Label}

theorem Advance.proper (advance : Advance machine i w member label member' state) (proper : member.Proper n) :
    member'.Proper n := by
  cases advance with
  | stays elsewhere => exact proper
  | connects opens =>
      obtain ⟨text, signs, q, greeting, rfl⟩ := greeting_of_opens opens
      exact ⟨allCalls_lift (bound_of_greeting greeting),
        (failsUpon_of_greeting greeting).lift (fun _ same => same) fun _ _ happens => happens⟩
  | greets works => exact ⟨proper.1.2 _, (proper.2 _).2⟩
  | serves | owns | answers | rounds | calls | leaves => trivial

theorem Advance.strange (advance : Advance machine i w member label member' state) (strange : member.Strange n)
    (undecided : ¬ label.Decides n i) : member'.Strange n := by
  cases advance with
  | stays elsewhere => exact strange
  | connects opens =>
      obtain ⟨text, signs, q, greeting, rfl⟩ := greeting_of_opens opens
      exact within_lift (undecided_of_greeting greeting) fun _ _ still => still
  | @greets role c next answer w' works =>
      refine strange.2 answer ?_
      cases c with
      | session c =>
          cases c with
          | isTrusted nodeId key =>
              rintro rfl known rfl
              exact undecided ⟨rfl, key, known, rfl⟩
          | _ => trivial
      | _ => trivial
  | serves | owns | answers | rounds | calls => exact strange
  | leaves => trivial

theorem Advance.rejected (advance : Advance machine i w member label member' state)
    (rejected : member.Rejected n) : member'.Rejected n := by
  cases advance with
  | stays elsewhere => exact rejected
  | greets works => exact rejected _
  | leaves => trivial
  | connects | serves | owns | answers | rounds | calls => exact rejected.elim

theorem Label.Refuses.event (refuses : label.Refuses n i) : ∃ event, label = .event i none event := by
  match label with
  | .event j none event => exact ⟨event, by rw [refuses.1]⟩
  | .event _ (some _) _ => exact refuses.elim
  | .revoke _ => exact refuses.elim
  | .silent => exact refuses.elim

theorem Advance.rejected_of_refuses (advance : Advance machine i w member label member' state)
    (proper : member.Proper n)
    (refuses : label.Refuses n i) : member'.Rejected n := by
  cases advance with
  | greets works =>
      obtain ⟨-, key, same⟩ := refuses
      cases same
      exact (proper.2 _).1 ⟨rfl, rfl⟩
  | stays elsewhere =>
      obtain ⟨event, same⟩ := refuses.event
      exact absurd same (elsewhere none event)
  | connects | serves | owns | answers | rounds | calls | leaves => exact refuses.elim

/-- A revoked record stays as it is unless its peer is saved again. -/
theorem Step.withdrawn (taken : Step machine s label s') (withdrawn : s.store.Withdrawn n)
    (unsaved : ∀ saved, label.Saves saved → saved.nodeId ≠ n) : s'.store.Withdrawn n := by
  rcases taken.store with same | ⟨saved, saves, same⟩ | ⟨nodeId, timestamp, same⟩ | ⟨nodeId, same⟩
  · rw [same]
    exact withdrawn
  · rw [same]
    exact withdrawn.savePeer (unsaved saved saves)
  · rw [same]
    exact withdrawn.updateLastSeen nodeId timestamp
  · rw [same]
    exact withdrawn.revokePeer nodeId

/-- The answer to a handshake's question: what the store has, or a fault of the database. -/
theorem Step.consulted {key : PublicKey} {answer : Except IdentityError Bool}
    (taken : Step machine s (.event i none ⟨.session (.isTrusted n key), answer⟩) s')
    (withdrawn : s.store.Withdrawn n) (proper : (s.member i).Proper n) :
    answer = .error (.peerRevoked n) ∨ ∃ text, answer = .error (.database text) := by
  cases taken with
  | greets here works =>
      rw [here] at proper
      rcases works.1 with found | failed
      · exact .inl (found.trans (withdrawn.isTrusted_own proper.1.1))
      · exact .inr failed

/-- From the revocation on: the record stays revoked, every handshake that asks for
    the peer is told so, and can then only fail; and no session with it comes about. -/
structure Lasting (n : NodeId) (first : System σ) (labels : List Label) (s : System σ) : Prop where
  withdrawn : s.store.Withdrawn n
  proper : ∀ i, (s.member i).Proper n
  told : ∀ i key answer, Label.event i none ⟨.session (.isTrusted n key), answer⟩ ∈ labels →
    answer = .error (.peerRevoked n) ∨ ∃ text, answer = .error (.database text)
  rejected : ∀ i, ∀ label ∈ labels, label.Refuses n i → (s.member i).Rejected n
  strange : ∀ i, (first.member i).Strange n → (s.member i).Strange n

theorem Lasting.step {first : System σ} (lasting : Lasting n first labels s) (taken : Step machine s label s')
    (unsaved : ∀ saved, label.Saves saved → saved.nodeId ≠ n) :
    Lasting n first (labels ++ [label]) s' where
  withdrawn := taken.withdrawn lasting.withdrawn unsaved
  proper i := (taken.advance i).proper (lasting.proper i)
  told i key answer member := by
    rcases List.mem_append.mp member with old | new
    · exact lasting.told i key answer old
    · rw [← List.mem_singleton.mp new] at taken
      exact taken.consulted lasting.withdrawn (lasting.proper i)
  rejected i label' member refuses := by
    rcases List.mem_append.mp member with old | new
    · exact (taken.advance i).rejected (lasting.rejected i label' old refuses)
    · rw [List.mem_singleton.mp new] at refuses
      exact (taken.advance i).rejected_of_refuses (lasting.proper i) refuses
  strange i unknown := by
    refine (taken.advance i).strange (lasting.strange i unknown) fun decides => ?_
    match label with
    | .event j none e =>
        obtain ⟨rfl, key, known, rfl⟩ := decides
        rcases taken.consulted lasting.withdrawn (lasting.proper j) with answered | ⟨text, answered⟩
        · cases answered
        · cases answered
    | .event _ (some _) _ => exact decides
    | .revoke _ => exact decides
    | .silent => exact decides

theorem Run.lasting {first : System σ} (run : Run machine first labels s) (withdrawn : first.store.Withdrawn n)
    (proper : ∀ i, (first.member i).Proper n)
    (unsaved : ∀ label ∈ labels, ∀ saved, label.Saves saved → saved.nodeId ≠ n) :
    Lasting n first labels s := by
  induction run with
  | start =>
      exact ⟨withdrawn, proper, fun _ _ _ told => absurd told List.not_mem_nil,
        fun _ _ refused => absurd refused List.not_mem_nil, fun _ => id⟩
  | @step labels s s' label run taken ih =>
      have earlier := ih fun old member => unsaved old (List.mem_append_left _ member)
      exact earlier.step taken (unsaved label (List.mem_append_right _ List.mem_cons_self))

/-- Before the revocation: handshakes are handshakes, and without an answer about the
    peer there is no session with it. -/
theorem Run.proper_strange {first : System σ} (run : Run machine first labels s) (fresh : first.Fresh) (i : Nat) :
    (s.member i).Proper n ∧ ((∀ label ∈ labels, ¬ label.Decides n i) → (s.member i).Strange n) := by
  induction run with
  | start =>
      rw [fresh.absent]
      exact ⟨trivial, fun _ => trivial⟩
  | @step labels s s' label run taken ih =>
      refine ⟨(taken.advance i).proper ih.1, fun undecided => ?_⟩
      have earlier := ih.2 fun old member => undecided old (List.mem_append_left _ member)
      exact (taken.advance i).strange earlier (undecided label (List.mem_append_right _ List.mem_cons_self))

theorem revocation_is_durable {first t : System σ} {before after : List Label} (fresh : first.Fresh)
    (run : Run machine first before s) (stored : s.store.Holds n)
    (rest : Run machine { s with store := s.store.revokePeer n } after t)
    (unsaved : ∀ label ∈ after, ∀ saved, label.Saves saved → saved.nodeId ≠ n) :
    t.store.Withdrawn n ∧ (∀ key, t.store.isTrusted n key ≠ .ok true) ∧
      (∀ i key answer, Label.event i none ⟨.session (.isTrusted n key), answer⟩ ∈ after →
        answer = .error (.peerRevoked n) ∨ ∃ text, answer = .error (.database text)) ∧
      (∀ i, ∀ label ∈ after, label.Refuses n i → (t.member i).Rejected n) ∧
      ∀ i, (∀ label ∈ before, ¬ label.Decides n i) →
        ∀ role self p, t.member i = .active role self p → self.remoteNodeId ≠ n := by
  have earlier : ∀ i, _ := run.proper_strange (n := n) fresh
  have lasting := rest.lasting stored.withdrawn (fun i => (earlier i).1) unsaved
  refine ⟨lasting.withdrawn, lasting.withdrawn.not_isTrusted, lasting.told, lasting.rejected, ?_⟩
  intro i undecided role self p there
  have strange := lasting.strange i ((earlier i).2 undecided)
  rw [there] at strange
  exact strange

section Runs

/-- A revoked peer connects, signs the challenge and is turned away. -/
theorem exists_turned_away (machine : Machine σ) (endpoint : Endpoint) (peer : IdentityKey)
    (identity : endpoint.localIdentity = machine.localIdentity)
    (directory : endpoint.receiveDir = machine.receiveDir) (free : s.member i = .absent)
    (revoked : s.store.isTrusted peer.nodeId peer.publicKey = .error (.peerRevoked peer.nodeId)) :
    ∃ labels t, Run machine s labels t ∧ (∃ label ∈ labels, label.Refuses peer.nodeId i) ∧
      ∀ label ∈ labels, ∀ saved, ¬ label.Saves saved := by
  let hello : ClientHello := ⟨.current, peer.nodeId, "laptop", .fill 32 0, .all⟩
  let text := handshakeChallenge (.fill 32 0) (.fill 32 1)
  have verified := peer.verify_sign (Crypto.sha256 text).bytes
  have consulted : Runs (consultTrustStore peer.nodeId peer.publicKey)
      [⟨.isTrusted peer.nodeId peer.publicKey, .error (.peerRevoked peer.nodeId)⟩] _ := .ask (.stop _)
  let response : AuthResponse := ⟨peer.sign (Crypto.sha256 text).bytes⟩
  let events : List SessionEvent := [⟨.recv, .ok (some (.handshake (.clientHello hello)))⟩,
    ⟨.host .random, .fill 32 1⟩, ⟨.send (serverHelloFrame endpoint hello (.fill 32 1)), .ok ()⟩,
    ⟨.recv, .ok (some (.handshake (.authResponse response)))⟩,
    ⟨.host (.verify peer.publicKey text response.signature), .ok ()⟩,
    ⟨.send (.handshake (.authResult .accepted)), .ok ()⟩,
    ⟨.isTrusted peer.nodeId peer.publicKey, .error (.peerRevoked peer.nodeId)⟩]
  have runs : Runs (serverHandshake endpoint) events _ := runs_serverHandshake_of_consulted hello
    (.fill 32 1) response (PublicKey.fromBytes_eq_ok.mpr rfl) consulted
  let greeting : Member := .greeting .node (onSession "Handshake failed" (serverHandshake endpoint))
  have connected : Step machine s .silent (s.assign i greeting) :=
    .connect free ⟨endpoint, identity, directory, rfl⟩
  let w := s.world i
  have effect : machine.Effect w events w :=
    ⟨w, rfl, w, ⟨trivial, rfl⟩, w, rfl, w, rfl, w, ⟨verified.symm, rfl⟩, w, rfl, w,
      ⟨.inl revoked.symm, rfl⟩, rfl⟩
  obtain ⟨t, greeted, -, -⟩ := run_along (F := .greeting .node) .greets (runs_onSession "Handshake failed" runs)
    (s.assign_member i greeting) (along_works effect)
  refine ⟨_, t, connected.run.trans greeted,
    ⟨.event i none ⟨.session (.isTrusted peer.nodeId peer.publicKey), .error (.peerRevoked peer.nodeId)⟩,
      by simp [events, sessionEvent], rfl, _, rfl⟩, ?_⟩
  intro label member saved saves
  simp only [events, List.map_cons, List.map_nil, List.mem_append, List.mem_cons, List.not_mem_nil,
    or_false] at member
  rcases member with rfl | rfl | rfl | rfl | rfl | rfl | rfl | rfl
  all_goals cases saves

/-- A peer that was let in before it was revoked pairs again on the session it has. -/
theorem exists_paired_again (machine : Machine σ) (endpoint : Endpoint) (peer : IdentityKey)
    (identity : endpoint.localIdentity = machine.localIdentity)
    (directory : endpoint.receiveDir = machine.receiveDir) (free : s.member i = .absent)
    (known : s.store.isTrusted peer.nodeId peer.publicKey = .ok true) :
    ∃ before t after u, Run machine s before t ∧
      Run machine { t with store := t.store.revokePeer peer.nodeId } after u ∧
      u.store.isTrusted peer.nodeId peer.publicKey = .ok true := by
  obtain ⟨events, self, runs, -, own, -, -, -, effect⟩ :=
    handshake_of_signed machine endpoint peer (w := s.world i) known
  let greeting : Member := .greeting .owner (onSession "Handshake failed" (serverHandshake endpoint))
  have connected : Step machine s .silent (s.assign i greeting) :=
    .connect free ⟨endpoint, identity, directory, _, .inl rfl⟩
  obtain ⟨t, greeted, there, -⟩ := run_along (F := .greeting .owner) .greets (runs_onSession "Handshake failed" runs)
    (s.assign_member i greeting) (along_works effect)
  let entered := { t.world i with state := self.state }
  let owned := t.replace i entered (.active .owner self (.ok (.inr ())))
  have before := (connected.run.trans greeted).step (.own there)
  let revoked : System σ := { owned with store := owned.store.revokePeer peer.nodeId }
  have called : Step machine revoked .silent
      (revoked.assign i (.active .owner self (callTask self (.pairing false)))) :=
    .call (.pairing false) (t.replace_member i entered _)
  obtain ⟨ceremony, sas, w, paired, changed, presented⟩ := exists_pairing_as machine self peer
    (revoked.world i) (identity.symm.trans own.symm)
  have task : Runs (callTask self (.pairing false)) (ceremony.map sessionEvent) (.ok (.inr ())) :=
    (runs_lift_session id paired.attempt).bind _
  obtain ⟨u, answered, -, world⟩ := run_along (F := .active _ _) .answers task (revoked.assign_member i _)
    (along_works changed)
  refine ⟨_, owned, _, u, before, called.run.trans answered, ?_⟩
  rw [show u.store = w.store from congrArg World.store world]
  exact isTrusted_of_paired paired changed presented

end Runs

end Durability

section Example

attribute [local instance] transparentCrypto

/-- Neither a stored peer that pairs again nor a peer without a record is kept out. -/
theorem revocation_is_undone :
    (∃ before s after t, Run exampleMachine (exampleSystem .trusted) before s ∧
      Run exampleMachine { s with store := s.store.revokePeer examplePeer.nodeId } after t ∧
      t.store.isTrusted examplePeer.nodeId examplePeer.publicKey = .ok true) ∧
    ∃ labels t self, Run exampleMachine
        { exampleSystem .trusted with store := TrustStore.revokePeer ∅ examplePeer.nodeId } labels t ∧
      Selecting t 0 self ∧ self.remoteNodeId = examplePeer.nodeId := by
  let endpoint : Endpoint := ⟨⟨.fill 32 1⟩, "node", .windows, true, none⟩
  constructor
  · exact exists_paired_again exampleMachine endpoint examplePeer rfl rfl (i := 0) rfl
      (TrustStore.isTrusted_savePeer_self ∅ rfl)
  · obtain ⟨labels, t, self, run, selecting, remote, -, -⟩ := exists_selecting exampleMachine endpoint
      examplePeer rfl rfl (i := 0)
      (s := { exampleSystem .trusted with store := TrustStore.revokePeer ∅ examplePeer.nodeId })
      rfl (rfl : _ = Except.ok false)
    exact ⟨labels, t, self, run, selecting, remote⟩

theorem stored_peer_is_turned_away :
    ∃ after t, Run exampleMachine { exampleSystem .trusted with
        store := (exampleSystem .trusted).store.revokePeer examplePeer.nodeId } after t ∧
      (∃ label ∈ after, label.Refuses examplePeer.nodeId 0) ∧
      (t.member 0).Rejected examplePeer.nodeId := by
  have stored : (exampleSystem .trusted).store.Holds examplePeer.nodeId := by
    obtain ⟨_, found⟩ := TrustStore.getPeer_savePeer_self ∅
      ⟨examplePeer.nodeId, examplePeer.publicKey, "laptop", .linux, 0, 0, .trusted⟩
    exact ⟨_, found, rfl⟩
  obtain ⟨after, t, run, ⟨label, member, refuses⟩, unsaved⟩ := exists_turned_away exampleMachine
    ⟨⟨.fill 32 1⟩, "node", .windows, true, none⟩ examplePeer rfl rfl (i := 0)
    (s := { exampleSystem .trusted with
      store := (exampleSystem .trusted).store.revokePeer examplePeer.nodeId })
    rfl (stored.withdrawn.isTrusted_own rfl)
  obtain ⟨-, -, -, rejected, -⟩ := revocation_is_durable (exampleSystem_fresh .trusted) .start stored run
    fun label member saved saves => absurd saves (unsaved label member saved)
  exact ⟨after, t, run, ⟨label, member, refuses⟩, rejected 0 label member refuses⟩

end Example

end BridgeOS.Node
