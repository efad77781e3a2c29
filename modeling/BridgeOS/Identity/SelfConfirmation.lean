import BridgeOS.Identity.Pairing

/-! # A session and its own confirmation

A confirmation names its sender and signs a text that is the same on both sides.
Nothing in it says which of the two sides it is for, so what keeps a session from
taking its own confirmation for the peer's is the name alone.
-/

namespace BridgeOS

open Proc

variable [Crypto]

/-- On the machine that holds the key, the step can end with this result. -/
def Produces {α : Type} (key : IdentityKey) (p : HostProc IdentityError α) (a : α) : Prop :=
  ∃ events, Runs p events (.ok a) ∧ ∀ event ∈ events, event.call.Honest key event.answer

theorem produces_ok {α : Type} {key : IdentityKey} {a b : α} : Produces key (.ok a) b ↔ a = b := by
  constructor
  · rintro ⟨events, run, -⟩
    cases run
    rfl
  · rintro rfl
    exact ⟨[], .stop _, List.forall_mem_nil _⟩

theorem not_produces_error {α : Type} {key : IdentityKey} {e : IdentityError} {a : α} :
    ¬ Produces key (.error e) a := by
  rintro ⟨events, run, -⟩
  cases run

theorem produces_ask {α : Type} {key : IdentityKey} {c : HostCall}
    {next : c.Answer → HostProc IdentityError α} {a : α} :
    Produces key (.ask c next) a ↔ ∃ answer, c.Honest key answer ∧ Produces key (next answer) a := by
  constructor
  · rintro ⟨events, run, honest⟩
    obtain ⟨answer, rest, rfl, further⟩ := runs_ask_ok.mp run
    rw [List.forall_mem_cons] at honest
    exact ⟨answer, honest.1, rest, further, honest.2⟩
  · rintro ⟨answer, honest, rest, run, later⟩
    exact ⟨⟨c, answer⟩ :: rest, .ask run, List.forall_mem_cons.mpr ⟨honest, later⟩⟩

namespace PairingSession

variable {key : IdentityKey} {s : PairingSession}

/-- The confirmation a session signs. -/
theorem produces_confirm_iff {confirmation : PairingConfirm} :
    Produces key s.confirm confirmation ↔ ∃ sas, s.sas = some sas ∧ confirmation =
      ⟨s.localKey.nodeId, true, (key.sign (Crypto.sha256 (s.confirmationText sas)).bytes).bytes⟩ := by
  unfold confirm
  cases derived : s.sas with
  | none => simp [not_produces_error]
  | some sas =>
      simp only [request_bind, pure_eq, produces_ask, produces_ok, HostCall.Honest, exists_eq_left,
        Option.some.injEq, exists_eq_left']
      exact eq_comm

/-- What `finalize` accepts. -/
theorem produces_finalize_iff {confirmation : PairingConfirm} {peer : TrustedPeer} :
    Produces key (s.finalize confirmation) peer ↔ ∃ sas remote signature,
      s.Acceptable confirmation sas remote signature ∧
      remote.publicKey.verify (Crypto.sha256 (s.confirmationText sas)).bytes signature = .ok () ∧
      peer = { remote with trustState := .trusted } := by
  constructor
  · intro produced
    rcases s.finalize_fails_or confirmation with ⟨e, failed⟩ | ⟨sas, remote, signature, acceptable⟩
    · rw [failed] at produced
      exact absurd produced not_produces_error
    · rw [acceptable.finalize_eq, produces_ask] at produced
      obtain ⟨verified, honest, produced⟩ := produced
      cases verified with
      | error e => exact absurd produced not_produces_error
      | ok u => exact ⟨sas, remote, signature, acceptable, honest.symm, (produces_ok.mp produced).symm⟩
  · rintro ⟨sas, remote, signature, acceptable, verified, rfl⟩
    rw [acceptable.finalize_eq, produces_ask]
    exact ⟨.ok (), verified.symm, produces_ok.mpr rfl⟩

/-- A session in either role with the confirmations it has signed so far, whatever
    messages came in between. -/
inductive Life (key : IdentityKey) : PairingSession → List PairingConfirm → Prop where
  | initiator {name : String} {kind : DeviceType} {s : PairingSession} {request : PairingRequest}
      (started : Produces key (newInitiator key name kind) (s, request)) : Life key s []
  | responder {name : String} {kind : DeviceType} {request : PairingRequest} {s : PairingSession}
      {response : PairingResponse} {sas : SasVerification}
      (started : Produces key (newResponder key name kind request) (s, response, sas)) : Life key s []
  | response {s s' : PairingSession} {confirms : List PairingConfirm} {response : PairingResponse}
      {sas : SasVerification} (life : Life key s confirms)
      (received : Produces key (s.initiatorReceiveResponse response) (s', sas)) : Life key s' confirms
  | confirmed {s : PairingSession} {confirms : List PairingConfirm} {confirmation : PairingConfirm}
      (life : Life key s confirms) (made : Produces key s.confirm confirmation) :
      Life key s (confirms ++ [confirmation])
  | finalized {s : PairingSession} {confirms : List PairingConfirm} {confirmation : PairingConfirm}
      {peer : TrustedPeer} (life : Life key s confirms)
      (accepted : Produces key (s.finalize confirmation) peer) :
      Life key { s with remotePeer := some peer } confirms

/-- What holds all along: the session signs with its own key, and has a number to confirm
    as soon as it has a peer, whose key is the one it is named after. -/
structure Consistent (key : IdentityKey) (s : PairingSession) (confirms : List PairingConfirm) :
    Prop where
  own : s.localKey = key
  named : ∀ confirmation ∈ confirms, confirmation.nodeId = key.nodeId
  derived : ∀ remote ∈ s.remotePeer, ∃ sas, s.sas = some sas
  presented : ∀ remote ∈ s.remotePeer, remote.publicKey.nodeId = remote.nodeId

theorem consistent_newInitiator {name : String} {kind : DeviceType} {request : PairingRequest}
    (started : Produces key (newInitiator key name kind) (s, request)) : Consistent key s [] := by
  simp only [newInitiator, request_bind, pure_eq, produces_ask, produces_ok, HostCall.Honest, true_and,
    Prod.mk.injEq] at started
  obtain ⟨nonce, now, rfl, -⟩ := started
  exact ⟨rfl, List.forall_mem_nil _, by simp, by simp⟩

variable {sas : SasVerification} {confirms : List PairingConfirm}

theorem consistent_newResponder {name : String} {kind : DeviceType} {request : PairingRequest}
    {response : PairingResponse} (started : Produces key (newResponder key name kind request) (s, response, sas)) :
    Consistent key s [] := by
  unfold newResponder at started
  cases checked : checkIdentity request.nodeId request.publicKey with
  | error e => exact absurd started (by simp [checked, not_produces_error])
  | ok remote =>
      simp only [checked, orFail_ok, ok_bind, request_bind, pure_eq, produces_ask, produces_ok,
        HostCall.Honest, true_and, Prod.mk.injEq] at started
      obtain ⟨nonce, now, rfl, -⟩ := started
      exact ⟨rfl, List.forall_mem_nil _, by simp, by simpa using (checkIdentity_eq_ok.mp checked).2⟩

theorem Consistent.response {s' : PairingSession} {response : PairingResponse}
    (consistent : Consistent key s confirms)
    (received : Produces key (s.initiatorReceiveResponse response) (s', sas)) :
    Consistent key s' confirms := by
  unfold initiatorReceiveResponse at received
  cases checked : checkIdentity response.nodeId response.publicKey with
  | error e => exact absurd received (by simp [checked, not_produces_error])
  | ok remote =>
      simp only [checked, orFail_ok, ok_bind, request_bind, pure_eq, produces_ask, produces_ok,
        HostCall.Honest, true_and, Prod.mk.injEq] at received
      obtain ⟨now, rfl, -⟩ := received
      exact ⟨consistent.own, consistent.named, by simp, by simpa using (checkIdentity_eq_ok.mp checked).2⟩

theorem Life.consistent (life : Life key s confirms) :
    Consistent key s confirms := by
  induction life with
  | initiator started => exact consistent_newInitiator started
  | responder started => exact consistent_newResponder started
  | response life received ih => exact ih.response received
  | confirmed life made ih =>
      refine ⟨ih.own, ?_, ih.derived, ih.presented⟩
      intro confirmation member
      rcases List.mem_append.mp member with earlier | last
      · exact ih.named confirmation earlier
      · obtain ⟨sas, -, rfl⟩ := produces_confirm_iff.mp made
        rw [List.mem_singleton.mp last, ih.own]
  | finalized life accepted ih =>
      obtain ⟨sas, remote, signature, acceptable, -, rfl⟩ := produces_finalize_iff.mp accepted
      refine ⟨ih.own, ih.named, fun _ _ => ⟨sas, acceptable.derived⟩, ?_⟩
      intro peer same
      cases same
      exact ih.presented remote acceptable.present

/-- To a session whose peer has the local name its own confirmation is as good as any. -/
theorem Consistent.finalize_own {remote : TrustedPeer} (consistent : Consistent key s confirms)
    (derived : s.sas = some sas) (present : s.remotePeer = some remote) (reflected : remote.nodeId = key.nodeId) :
    Produces key (s.finalize
      ⟨s.localKey.nodeId, true, (key.sign (Crypto.sha256 (s.confirmationText sas)).bytes).bytes⟩)
      { remote with trustState := .trusted } := by
  have sameKey : remote.publicKey = key.publicKey :=
    PublicKey.nodeId_injective ((consistent.presented remote present).trans reflected)
  refine produces_finalize_iff.mpr
    ⟨sas, remote, _, ⟨derived, present, rfl, ?_, FixedBytes.ofBytes?_bytes _⟩, ?_, rfl⟩
  · rw [consistent.own, reflected]
  · rw [sameKey]
    exact key.verify_sign _

/-- No confirmation the session has signed or could sign now is taken for the peer's,
    exactly as long as the peer is not named like the local node. -/
theorem own_confirmation_refused_iff {confirms : List PairingConfirm} (life : Life key s confirms) :
    (∀ confirmation, confirmation ∈ confirms ∨ Produces key s.confirm confirmation →
      ∀ peer, ¬ Produces key (s.finalize confirmation) peer) ↔
    ∀ remote ∈ s.remotePeer, remote.nodeId ≠ key.nodeId := by
  have consistent := life.consistent
  constructor
  · intro refused remote present reflected
    obtain ⟨sas, derived⟩ := consistent.derived remote present
    exact refused _ (.inr (produces_confirm_iff.mpr ⟨sas, derived, rfl⟩)) _
      (consistent.finalize_own derived present reflected)
  · intro others confirmation own peer accepted
    obtain ⟨_, remote, _, acceptable, -⟩ := produces_finalize_iff.mp accepted
    refine others remote acceptable.present (acceptable.named.symm.trans ?_)
    rcases own with earlier | now
    · exact consistent.named confirmation earlier
    · obtain ⟨sas, -, rfl⟩ := produces_confirm_iff.mp now
      exact congrArg IdentityKey.nodeId consistent.own

end PairingSession

end BridgeOS

namespace BridgeOS.PairingSession

section Example

attribute [local instance] transparentCrypto

def exampleKey : IdentityKey := ⟨.fill 32 5⟩

/-- A request under the name and the key of a node. -/
def exampleRequest (node : UInt8) : PairingRequest :=
  ⟨⟨.fill 32 node⟩, .fill 32 node, "phone", .android, .fill 32 1, 0⟩

theorem exists_responder (node : UInt8) :
    ∃ s response sas remote, Produces exampleKey
        (newResponder exampleKey "laptop" .linux (exampleRequest node)) (s, response, sas) ∧
      s.remotePeer = some remote ∧ remote.nodeId = ⟨.fill 32 node⟩ := by
  have checked : checkIdentity (exampleRequest node).nodeId (exampleRequest node).publicKey =
      .ok ⟨.fill 32 node, rfl⟩ := checkIdentity_eq_ok.mpr ⟨rfl, rfl⟩
  simp only [newResponder, checked, Proc.orFail_ok, Proc.ok_bind, Proc.request_bind, Proc.pure_eq,
    produces_ask, produces_ok, HostCall.Honest, true_and]
  exact ⟨_, _, _, _, ⟨.fill 32 2, 0, rfl⟩, rfl, rfl⟩

/-- A peer with a name of its own. -/
theorem own_confirmation_refused :
    ∃ s : PairingSession, s.remotePeer.isSome = true ∧ ∀ confirmation,
      Produces exampleKey s.confirm confirmation →
        ∀ peer, ¬ Produces exampleKey (s.finalize confirmation) peer := by
  obtain ⟨s, response, sas, remote, started, present, named⟩ := exists_responder 9
  refine ⟨s, by rw [present]; rfl, fun confirmation made => ?_⟩
  refine (own_confirmation_refused_iff (.responder started)).mpr ?_ confirmation (.inr made)
  intro other same
  rw [present, Option.mem_some_iff] at same
  rw [← same, named]
  decide

/-- A request that carries the name and the key of the node it is sent to. -/
theorem reflected_confirmation_accepted :
    ∃ s response sas confirmation peer,
      Produces exampleKey (newResponder exampleKey "laptop" .linux (exampleRequest 5)) (s, response, sas) ∧
      Produces exampleKey s.confirm confirmation ∧
      Produces exampleKey (s.finalize confirmation) peer := by
  obtain ⟨s, response, sas, remote, started, present, named⟩ := exists_responder 5
  have consistent := consistent_newResponder started
  obtain ⟨sas', derived⟩ := consistent.derived remote present
  have reflected : remote.nodeId = exampleKey.nodeId := named
  exact ⟨s, response, sas, _, _, started, produces_confirm_iff.mpr ⟨sas', derived, rfl⟩,
    consistent.finalize_own derived present reflected⟩

end Example

end BridgeOS.PairingSession
