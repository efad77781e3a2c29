import BridgeOS.Identity.TrustMap
import BridgeOS.Node.Revocation

/-! # One key for each identifier

A ceremony saves a peer only under the identifier of the key it presents, and a
handshake asks about a peer under the key its identifier stands for. A store that
nobody else saves to has no record in which the two differ, so the question of a
handshake is never answered with a mismatch of keys.
-/

namespace BridgeOS

variable [Crypto]

namespace TrustStore

/-- The column of the public key repeats the primary key. -/
def Keyed (store : TrustStore) : Prop := ∀ hex row, store.lookup hex = some row → row.publicKey = hex

omit [Crypto] in
theorem keyed_empty : Keyed ∅ := nofun

variable {store : TrustStore}

omit [Crypto] in
theorem Keyed.insert (keyed : store.Keyed) {hex : String} {row : PeerRow} (same : row.publicKey = hex) :
    Keyed (store.insert hex row) := by
  intro other found lookup
  by_cases own : other = hex
  · subst own
    rw [AList.lookup_insert] at lookup
    cases lookup
    exact same
  · rw [AList.lookup_insert_ne own] at lookup
    exact keyed other found lookup

omit [Crypto] in
theorem Keyed.modify (keyed : store.Keyed) {hex : String} {change : PeerRow → PeerRow}
    (keeps : ∀ row, (change row).publicKey = row.publicKey) : Keyed (store.modify hex change) := by
  unfold AList.modify
  cases found : store.lookup hex with
  | none => exact keyed
  | some row => exact keyed.insert ((keeps row).trans (keyed hex row found))

/-- The key a saved peer must have. -/
def Write.Keyed : Write → Prop
  | .savePeer peer => peer.publicKey.nodeId = peer.nodeId
  | _ => True

theorem Keyed.perform (keyed : store.Keyed) {w : Write} (own : w.Keyed) :
    Keyed (w.perform store) := by
  cases w with
  | savePeer peer =>
      have same : peer.toRow.publicKey = peer.nodeId.toHex := congrArg NodeId.toHex own
      unfold Write.perform savePeer
      dsimp only
      cases store.lookup peer.nodeId.toHex with
      | none => exact keyed.insert same
      | some old => exact keyed.insert same
  | updateLastSeen n timestamp =>
      rw [Write.perform, updateLastSeen_eq]
      exact keyed.modify fun _ => rfl
  | setTrustState n state =>
      rw [Write.perform, setTrustState_eq]
      exact keyed.modify fun _ => rfl
  | revokePeer n =>
      rw [Write.perform, revokePeer, setTrustState_eq]
      exact keyed.modify fun _ => rfl
  | deletePeer n =>
      intro hex row found
      by_cases gone : hex = n.toHex
      · rw [gone, Write.perform, deletePeer, AList.lookup_erase] at found
        cases found
      · rw [Write.perform, deletePeer, AList.lookup_erase_ne gone] at found
        exact keyed hex row found

theorem rowToPeer_eq_error {hex : String} {row : PeerRow} {e : IdentityError}
    (unread : rowToPeer hex row = .error e) : ∃ text, e = .database text := by
  unfold rowToPeer at unread
  split at unread
  · split at unread
    · split at unread
      · split at unread
        · cases unread
          exact ⟨_, rfl⟩
        · cases unread
      · cases unread
        exact ⟨_, rfl⟩
    · cases unread
      exact ⟨_, rfl⟩
  · cases unread
    exact ⟨_, rfl⟩

theorem Keyed.own (keyed : store.Keyed) {hex : String} {row : PeerRow} {peer : TrustedPeer}
    (found : store.lookup hex = some row) (read : rowToPeer hex row = .ok peer) :
    peer.publicKey.nodeId = peer.nodeId := by
  obtain ⟨id, key, -⟩ := rowToPeer_eq_ok read
  rw [keyed hex row found, id] at key
  exact (Option.some.inj key).symm

/-- The key an identifier stands for is the only one that can be stored under it. -/
theorem Keyed.not_keyMismatch (keyed : store.Keyed) {n : NodeId} {key : PublicKey} (own : key.nodeId = n)
    (nodeId : NodeId) (expected presented : String) :
    store.isTrusted n key ≠ .error (.keyMismatch nodeId expected presented) := by
  unfold isTrusted getPeer
  cases found : store.lookup n.toHex with
  | none => simp [bind, Except.bind]
  | some row =>
      dsimp only
      cases read : rowToPeer n.toHex row with
      | error e =>
          obtain ⟨text, rfl⟩ := rowToPeer_eq_error read
          simp [Except.map, bind, Except.bind]
      | ok peer =>
          have id : peer.nodeId = n := by
            have parsed := (rowToPeer_eq_ok read).1
            rw [NodeId.fromHex_toHex] at parsed
            exact (Option.some.inj parsed).symm
          have same : peer.publicKey = key :=
            PublicKey.nodeId_injective ((keyed.own found read).trans (id.trans own.symm))
          cases state : peer.trustState <;> simp [Except.map, bind, Except.bind, same, state]

end TrustStore

namespace Session

open Proc

/-- Saves a peer and asks about a peer only under the identifier of its key. -/
def Call.Keyed : Call → Prop
  | .savePeer peer => peer.publicKey.nodeId = peer.nodeId
  | .isTrusted nodeId key => key.nodeId = nodeId
  | _ => True

theorem Call.OfHandshake.keyed {signs : Bytes → Prop} (c : Call) (asked : c.OfHandshake signs) : c.Keyed := by
  cases c with
  | isTrusted nodeId key => exact asked
  | savePeer peer => exact asked.elim
  | _ => trivial

theorem Call.Pairs.keyed (c : Call) (pairs : c.Pairs) : c.Keyed := by
  cases c with
  | isTrusted nodeId key => exact pairs.elim
  | savePeer peer => exact pairs.elim
  | _ => trivial

theorem Call.Serves.keyed {self : ActiveSession} (c : Call) (serves : c.Serves self True) : c.Keyed := by
  cases c with
  | isTrusted nodeId key => exact serves.elim
  | savePeer peer => exact serves.elim
  | _ => trivial

theorem executePairing_keyed {self : ActiveSession} (isInitiator : Bool) :
    (executePairing self isInitiator).AllCalls Call.Keyed :=
  (executePairing_within (R := fun _ => True) isInitiator Call.Pairs.keyed fun _ own =>
    ⟨own, fun _ => ⟨trivial, fun _ => trivial⟩⟩).allCalls

end Session

namespace Node

open BridgeOS.Session hiding recvFrame
open BridgeOS.Transfer Proc

variable {σ : Type} {machine : Machine σ} {s s' : System σ} {label : Label} {i : Nat}

def NodeCall.Keyed : NodeCall → Prop
  | .session c => c.Keyed
  | _ => True

theorem NodeCall.Routine.keyed (c : NodeCall) (routine : c.Routine True) : c.Keyed := by
  cases c with
  | session c =>
      cases c with
      | isTrusted nodeId key => exact routine.elim
      | savePeer peer => exact routine.elim
      | _ => trivial
  | _ => trivial

/-- Every question that is still to come is of that kind. -/
def Member.Keyed : Member → Prop
  | .greeting _ p => p.AllCalls NodeCall.Keyed
  | .active _ _ p => p.AllCalls NodeCall.Keyed
  | _ => True

theorem keyed_of_opens {role : Role} {p : NodeProc ActiveSession} (opens : role.Opens machine p) :
    p.AllCalls NodeCall.Keyed := by
  obtain ⟨text, signs, q, greeting, rfl⟩ := greeting_of_opens opens
  exact allCalls_lift ((allCalls_of_greeting greeting).mono Call.OfHandshake.keyed)

theorem enterLoop_keyed (self : ActiveSession) : (enterLoop self).AllCalls NodeCall.Keyed := by
  refine allCalls_bind (allCalls_request trivial) fun _ => ?_
  split
  · exact allCalls_bind (allCalls_request trivial) fun _ => allCalls_pure _
  · exact allCalls_pure _

theorem callTask_keyed (self : ActiveSession) (operation : Operation) :
    (callTask self operation).AllCalls NodeCall.Keyed := by
  have attempted : ∀ {α : Type} {p : SessionProc α}, p.AllCalls Call.Keyed →
      (attemptSession p).AllCalls NodeCall.Keyed := by
    intro α p all
    have within : (attemptSession p).Within (fun _ => True) NodeCall.Keyed fun outcome =>
        ∀ a, outcome = .ok a → True := attemptSession_within all.within
    exact within.allCalls
  cases operation with
  | nextFrame =>
      have served : (processNextFrame self).AllCalls Call.Keyed :=
        (processNextFrame_serves fun _ => True).allCalls.mono Call.Serves.keyed
      exact allCalls_bind (attempted served) fun _ => allCalls_pure _
  | pairing isInitiator =>
      exact allCalls_bind (attempted (executePairing_keyed isInitiator)) fun _ => allCalls_pure _

theorem connectionRound_keyed (self : ActiveSession) (phase : Phase) :
    (connectionRound (self, phase)).AllCalls NodeCall.Keyed :=
  (connectionRound_within (fun _ => True) NodeCall.Keyed
    ((executePairing_keyed false).within.weaken fun _ _ => trivial) NodeCall.Routine.keyed phase).allCalls

/-- A step of the sessions, or a call on the store by anyone else; nobody else saves. -/
inductive Act (machine : Machine σ) : System σ → Label → System σ → Prop where
  | step {s s' : System σ} {label : Label} (taken : Step machine s label s') : Act machine s label s'
  | write {s : System σ} (write : TrustStore.Write) (unsaved : ∀ peer, write ≠ .savePeer peer) :
      Act machine s .silent { s with store := write.perform s.store }

inductive Acts (machine : Machine σ) (first : System σ) : List Label → System σ → Prop where
  | start : Acts machine first [] first
  | act {labels : List Label} {s s' : System σ} {label : Label} (acts : Acts machine first labels s)
      (taken : Act machine s label s') : Acts machine first (labels ++ [label]) s'

/-- Sessions that ask such questions, over a store in which the keys match. -/
structure System.Keyed (s : System σ) : Prop where
  store : s.store.Keyed
  members : ∀ i, (s.member i).Keyed

theorem Advance.keyed {w : World σ} {before after : Member} {state : SessionState}
    (advance : Advance machine i w before label after state) (keyed : before.Keyed) : after.Keyed := by
  cases advance with
  | stays elsewhere => exact keyed
  | connects opens => exact keyed_of_opens opens
  | greets works => exact keyed.2 _
  | serves => exact enterLoop_keyed _
  | owns => trivial
  | answers works => exact keyed.2 _
  | rounds => exact connectionRound_keyed _ _
  | calls operation => exact callTask_keyed _ operation
  | leaves => trivial

/-- What is asked in a step is a keyed question. -/
theorem Step.keyed_event {peer : Option NodeId} {event : NodeEvent}
    (taken : Step machine s (.event i peer event) s') (keyed : ∀ i, (s.member i).Keyed) :
    event.call.Keyed := by
  cases taken with
  | greets here works =>
      have all := keyed i
      rw [here] at all
      exact all.1
  | answers here works =>
      have all := keyed i
      rw [here] at all
      exact all.1

theorem Act.keyed (taken : Act machine s label s') (keyed : s.Keyed) : s'.Keyed := by
  cases taken with
  | step taken =>
      refine ⟨?_, fun i => (taken.advance i).keyed (keyed.members i)⟩
      rcases taken.store with same | ⟨saved, saves, same⟩ | ⟨nodeId, timestamp, same⟩ | ⟨nodeId, same⟩
      · rw [same]
        exact keyed.store
      · rw [same]
        cases label with
        | event i peer event =>
            have own := taken.keyed_event keyed.members
            rw [saves] at own
            exact keyed.store.perform (w := .savePeer saved) own
        | revoke nodeId => exact saves.elim
        | silent => exact saves.elim
      · rw [same]
        exact keyed.store.perform (w := .updateLastSeen nodeId timestamp) trivial
      · rw [same]
        exact keyed.store.perform (w := .revokePeer nodeId) trivial
  | write write unsaved =>
      refine ⟨keyed.store.perform ?_, keyed.members⟩
      cases write with
      | savePeer peer => exact absurd rfl (unsaved peer)
      | _ => trivial

/-- The answer to a question about trust is the store's, and it is not a mismatch. -/
theorem Act.not_keyMismatch {peer : Option NodeId} {n : NodeId} {key : PublicKey}
    {answer : Except IdentityError Bool}
    (taken : Act machine s (.event i peer ⟨.session (.isTrusted n key), answer⟩) s') (keyed : s.Keyed)
    (nodeId : NodeId) (expected presented : String) :
    answer ≠ .error (.keyMismatch nodeId expected presented) := by
  cases taken with
  | step taken =>
      have own : key.nodeId = n := taken.keyed_event keyed.members
      have answered : answer = s.store.isTrusted n key ∨ ∃ text, answer = .error (.database text) := by
        cases taken with
        | greets here works => exact works.1
        | answers here works => exact works.1
      rcases answered with rfl | ⟨text, rfl⟩
      · exact keyed.store.not_keyMismatch own nodeId expected presented
      · nofun

theorem Acts.keyed {first : System σ} {labels : List Label} (acts : Acts machine first labels s)
    (keyed : first.Keyed) : s.Keyed := by
  induction acts with
  | start => exact keyed
  | act acts taken ih => exact taken.keyed ih

/-- However sessions, ceremonies and other calls on the store interleave: the key of a
    record is its identifier, and no handshake meets a mismatch. -/
theorem one_key_per_node {first : System σ} {labels : List Label} (fresh : first.Fresh)
    (keyed : first.store.Keyed) (acts : Acts machine first labels s) :
    (∀ hex row peer, s.store.lookup hex = some row → TrustStore.rowToPeer hex row = .ok peer →
        peer.publicKey.bytes = peer.nodeId.bytes) ∧
      ∀ i peer n key answer, Label.event i peer ⟨.session (.isTrusted n key), answer⟩ ∈ labels →
        ∀ nodeId expected presented, answer ≠ .error (.keyMismatch nodeId expected presented) := by
  have start : first.Keyed := by
    refine ⟨keyed, fun i => ?_⟩
    rw [fresh.absent]
    trivial
  constructor
  · intro hex row peer found read
    exact congrArg NodeId.bytes ((acts.keyed start).store.own found read)
  · induction acts with
    | start =>
        intro i peer n key answer member
        exact absurd member List.not_mem_nil
    | act acts taken ih =>
        intro i peer n key answer member
        rcases List.mem_append.mp member with old | new
        · exact ih i peer n key answer old
        · rw [← List.mem_singleton.mp new] at taken
          exact taken.not_keyMismatch (acts.keyed start)

theorem Acts.of_run {first : System σ} {labels : List Label} (run : Run machine first labels s) :
    Acts machine first labels s := by
  induction run with
  | start => exact .start
  | step run taken ih => exact ih.act (.step taken)

end Node

end BridgeOS

namespace BridgeOS.Node

open BridgeOS.Session hiding recvFrame

section Example

attribute [local instance] transparentCrypto

/-- A stored peer connects, and its record is deleted while the session goes on. -/
theorem one_key_per_node_for_a_visitor :
    ∃ labels s self, Acts exampleMachine (exampleSystem .trusted) labels s ∧ Selecting s 0 self ∧
      self.remoteNodeId = examplePeer.nodeId ∧
      ∀ i peer n key answer, Label.event i peer ⟨.session (.isTrusted n key), answer⟩ ∈ labels →
        ∀ nodeId expected presented, answer ≠ .error (.keyMismatch nodeId expected presented) := by
  have known : (exampleSystem .trusted).store.isTrusted examplePeer.nodeId examplePeer.publicKey =
      .ok true := TrustStore.isTrusted_savePeer_self ∅ rfl
  obtain ⟨labels, t, self, run, selecting, remote, -, -⟩ := exists_selecting exampleMachine
    ⟨⟨.fill 32 1⟩, "node", .windows, true, none⟩ examplePeer rfl rfl
    ((exampleSystem_fresh .trusted).absent 0) known
  have acts := (Acts.of_run run).act (.write (.deletePeer examplePeer.nodeId) nofun)
  have keyed : (exampleSystem .trusted).store.Keyed :=
    TrustStore.keyed_empty.perform (w := .savePeer _) rfl
  exact ⟨_, _, self, acts, selecting, remote,
    (one_key_per_node (exampleSystem_fresh .trusted) keyed acts).2⟩

end Example

end BridgeOS.Node
