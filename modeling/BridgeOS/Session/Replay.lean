import BridgeOS.Session.Agreement
import Mathlib.Data.Set.Function

/-! # A recorded handshake is of no use

Each handshake that a server accepts in a client's name has a signing call of
that client to itself: the challenge holds the server's nonce, and a server that
never repeats a nonce never sets the same challenge twice.
-/

namespace BridgeOS.Session

open Proc

section Replay

variable [Crypto]

namespace NetworkRun

variable (run : NetworkRun)

/-- A connection of this server got this greeting and drew this nonce for it. -/
def Challenges (server : IdentityKey) (id : Nat) (hello : ClientHello) (nonce : FixedBytes 32) : Prop :=
  ∃ endpoint rest, run.program id = .server endpoint ∧ endpoint.localIdentity = server ∧
    run.history.project id = ⟨.recv, .ok (some (.handshake (.clientHello hello)))⟩ ::
      ⟨.host .random, nonce⟩ :: rest

/-- A handshake of this server returned with the holder of the key as its peer. -/
def Admits (server : IdentityKey) (peer : PublicKey) (id : Nat) : Prop :=
  ∃ endpoint opening session, run.Accepted id endpoint opening session ∧
    endpoint.localIdentity = server ∧ session.remoteNodeId = peer.nodeId

/-- At this place of the history the connection signed the text. -/
def SignsAt (place client : Nat) (text : Bytes) : Prop :=
  ∃ signature, run.history[place]? = some (client, (⟨.host (.sign text), signature⟩ : SessionEvent))

def DistinctNonces (server : IdentityKey) : Prop :=
  ∀ id id' hello hello' nonce, run.Challenges server id hello nonce →
    run.Challenges server id' hello' nonce → id = id'

variable {run} {server : IdentityKey} {peer : PublicKey} {id : Nat}

/-- The signing call behind an accepted handshake, by its place in the history. -/
theorem Admits.signed (secure : run.Secure {peer}) (admitted : run.Admits server peer id) :
    ∃ place hello serverNonce client, run.Challenges server id hello serverNonce ∧
      run.SignsAt place client (handshakeChallenge hello.clientNonce serverNonce) ∧
      (run.program client).identity.publicKey = peer := by
  obtain ⟨endpoint, opening, session, accepted, own, named⟩ := admitted
  obtain ⟨hello, serverNonce, rest, rfl, client, signature, owner, signed⟩ :=
    challenge_signed secure accepted rfl named
  obtain ⟨later, begun⟩ := accepted.begun
  obtain ⟨place, found⟩ := List.mem_iff_getElem?.mp signed
  exact ⟨place, hello, serverNonce, client, ⟨endpoint, _, accepted.program, own, begun.symm⟩,
    ⟨signature, found⟩, owner⟩

theorem SignsAt.text_unique {place client client' : Nat} {text text' : Bytes}
    (signs : run.SignsAt place client text) (signs' : run.SignsAt place client' text') : text = text' := by
  obtain ⟨signature, found⟩ := signs
  obtain ⟨signature', found'⟩ := signs'
  rw [found] at found'
  injection found' with entry
  injection entry with _ event
  exact HostCall.sign.inj (Call.host.inj (congrArg Proc.Event.call event))

end NetworkRun

variable {run : NetworkRun} {server : IdentityKey} {peer : PublicKey}

theorem accepted_handshakes_inject (secure : run.Secure {peer}) (distinct : run.DistinctNonces server) :
    ∃ call : Nat → Nat, Set.InjOn call {id | run.Admits server peer id} ∧
      ∀ id, run.Admits server peer id → ∃ hello serverNonce client greeting,
        run.Challenges server id hello serverNonce ∧
        run.SignsAt (call id) client (handshakeChallenge hello.clientNonce serverNonce) ∧
        (run.program client).identity.publicKey = peer ∧
        (run.program client).Answers (run.history.project client) hello.clientNonce greeting ∧
        greeting.serverNonce = serverNonce ∧
        ∀ signer pairing sas confirmation,
          (signer, ⟨.host (.sign (PairingSession.confirmationText pairing sas)), confirmation⟩) ∈ run.history →
          Crypto.sha256 (PairingSession.confirmationText pairing sas) ≠
            Crypto.sha256 (handshakeChallenge hello.clientNonce serverNonce) := by
  classical
  let call : Nat → Nat := fun id =>
    if admitted : run.Admits server peer id then (admitted.signed secure).choose else 0
  have matched : ∀ id, run.Admits server peer id → ∃ hello serverNonce client,
      run.Challenges server id hello serverNonce ∧
      run.SignsAt (call id) client (handshakeChallenge hello.clientNonce serverNonce) ∧
      (run.program client).identity.publicKey = peer := by
    intro id admitted
    have spec := (admitted.signed secure).choose_spec
    rwa [show call id = (admitted.signed secure).choose from dif_pos admitted]
  refine ⟨call, ?_, ?_⟩
  · -- one call signed one challenge, and the challenge holds the server's nonce
    intro id admitted id' admitted' same
    obtain ⟨hello, nonce, client, challenged, signs, -⟩ := matched id admitted
    obtain ⟨hello', nonce', client', challenged', signs', -⟩ := matched id' admitted'
    rw [same] at signs
    obtain ⟨-, rfl⟩ := handshakeChallenge_injective (signs.text_unique signs')
    exact distinct id id' hello hello' _ challenged challenged'
  · intro id admitted
    obtain ⟨hello, nonce, client, challenged, ⟨signature, found⟩, owner⟩ := matched id admitted
    have signed := List.mem_of_getElem? found
    obtain ⟨greeting, answers, serverNonce⟩ := (run.follows client).answers (History.mem_project.mpr signed)
    refine ⟨hello, nonce, client, greeting, challenged, ⟨signature, found⟩, owner, answers, serverNonce, ?_⟩
    intro signer pairing sas confirmation confirmed digest
    have texts := secure.collisionFree _ _ (.inl ⟨signer, confirmation, confirmed⟩)
      (.inl ⟨client, signature, signed⟩) digest
    exact confirmationText_ne_challenge pairing sas _ _ texts

end Replay

section Example

attribute [local instance] transparentCrypto

/-- In the relayed run B draws one nonce. -/
theorem relayedExample_distinct : relayedExample.DistinctNonces ⟨.fill 32 2⟩ := by
  have first : ∀ id hello nonce, relayedExample.Challenges ⟨.fill 32 2⟩ id hello nonce → id = 1 := by
    rintro id hello nonce ⟨endpoint, rest, program, -, project⟩
    match id with
    | 0 => cases program
    | 1 => rfl
    | _ + 2 => cases project
  intro id id' hello hello' nonce challenges challenges'
  exact (first id hello nonce challenges).trans (first id' hello' nonce challenges').symm

theorem relayed_handshake_has_its_call :
    relayedExample.Admits ⟨.fill 32 2⟩ (IdentityKey.publicKey ⟨.fill 32 1⟩) 1 ∧
      ∃ place hello serverNonce client, relayedExample.Challenges ⟨.fill 32 2⟩ 1 hello serverNonce ∧
        relayedExample.SignsAt place client (handshakeChallenge hello.clientNonce serverNonce) := by
  obtain ⟨session, accepted, named⟩ := relayedRun_accepted ⟨⟨.fill 32 1⟩, "a", .linux, true, none⟩
    ⟨⟨.fill 32 2⟩, "b", .linux, true, none⟩ (IdentityKey.publicKey ⟨.fill 32 3⟩)
  have admitted : relayedExample.Admits ⟨.fill 32 2⟩ (IdentityKey.publicKey ⟨.fill 32 1⟩) 1 :=
    ⟨_, _, session, accepted, rfl, named⟩
  obtain ⟨call, -, matched⟩ := accepted_handshakes_inject (relayedRun_ideal _ _ _ _).toSecure
    relayedExample_distinct
  obtain ⟨hello, serverNonce, client, -, challenges, signs, -⟩ := matched 1 admitted
  exact ⟨admitted, call 1, hello, serverNonce, client, challenges, signs⟩

end Example

end BridgeOS.Session
