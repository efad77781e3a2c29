import BridgeOS.Session.Network

/-! # What the server's handshake proves

It agrees with the client on both nonces and on nothing else: the challenge does
not name the server, so a greeting can be relayed under another name.
-/

namespace BridgeOS.Session

open Proc

section Agreement

variable [Crypto]

namespace NetworkRun

variable (run : NetworkRun)

/-- A connection of a server got through its handshake. -/
structure Accepted (id : Nat) (endpoint : Endpoint) (opening : List SessionEvent)
    (session : ActiveSession) : Prop where
  program : run.program id = .server endpoint
  begun : opening <+: run.history.project id
  handshake : Runs (serverHandshake endpoint) opening (.ok session)

end NetworkRun

variable {run : NetworkRun} {honest : Set PublicKey} {id : Nat} {endpoint : Endpoint}
  {opening : List SessionEvent} {session : ActiveSession} {key : PublicKey}

theorem mem_history_of_begun {event : SessionEvent} (begun : opening <+: run.history.project id)
    (member : event ∈ opening) : (id, event) ∈ run.history :=
  History.mem_project.mp (begun.subset member)

/-- Whom the server accepts signed the server's challenge before. -/
theorem challenge_signed (secure : run.Secure honest) (accepted : run.Accepted id endpoint opening session)
    (guarded : key ∈ honest) (named : session.remoteNodeId = key.nodeId) :
    ∃ hello serverNonce rest, opening = ⟨.recv, .ok (some (.handshake (.clientHello hello)))⟩ ::
        ⟨.host .random, serverNonce⟩ :: ⟨.send (serverHelloFrame endpoint hello serverNonce), .ok ()⟩ :: rest ∧
      run.Signed key (handshakeChallenge hello.clientNonce serverNonce) run.history := by
  obtain ⟨hello, presented, nonce, response, trust, state, rfl, made, -, rfl⟩ :=
    runs_serverHandshake_ok.mp accepted.handshake
  have same : presented = key :=
    PublicKey.nodeId_injective ((PublicKey.nodeId_of_fromBytes made).trans named)
  subst same
  have checked := mem_history_of_begun accepted.begun (.tail _ (.tail _ (.tail _ (.tail _ (.head _)))))
  obtain ⟨before, after, split⟩ := List.append_of_mem checked
  obtain ⟨signed, digest, signer, signature, owner, earlier⟩ :=
    secure.unforgeable before id presented _ _ after guarded split
  have inHistory : (signer, ⟨.host (.sign signed), signature⟩) ∈ run.history := by
    rw [split]
    exact List.mem_append_left _ earlier
  have text : signed = handshakeChallenge hello.clientNonce nonce :=
    secure.collisionFree _ _ (.inl ⟨signer, signature, inHistory⟩) (.inr ⟨id, _, _, _, checked⟩) digest
  subst text
  exact ⟨hello, nonce, _, rfl, signer, signature, owner, inHistory⟩

theorem server_agrees_on_nonces (ideal : run.Ideal honest)
    (accepted : run.Accepted id endpoint opening session) (guarded : key ∈ honest)
    (named : session.remoteNodeId = key.nodeId) :
    ∃ hello serverNonce client greeting,
      ⟨.recv, .ok (some (.handshake (.clientHello hello)))⟩ ∈ opening ∧
      ⟨.send (serverHelloFrame endpoint hello serverNonce), .ok ()⟩ ∈ opening ∧
      (run.program client).identity.publicKey = key ∧
      (run.program client).Answers (run.history.project client) hello.clientNonce greeting ∧
      greeting.serverNonce = serverNonce := by
  obtain ⟨hello, serverNonce, rest, rfl, client, signature, owner, signed⟩ :=
    challenge_signed ideal.toSecure accepted guarded named
  obtain ⟨greeting, answers, server⟩ := (run.follows client).answers (History.mem_project.mpr signed)
  exact ⟨hello, serverNonce, client, greeting, .head _, .tail _ (.tail _ (.head _)), owner, answers, server⟩

section Relay

variable (a b : Endpoint) (mallory : PublicKey)

/-- The challenge of the relayed handshakes and A's answer to it. -/
def relayedChallenge : Bytes := handshakeChallenge (.fill 32 0) (.fill 32 1)

def relayedSignature : FixedBytes 64 := a.localIdentity.sign (Crypto.sha256 relayedChallenge).bytes

/-- A greets, meaning to talk to Mallory, who passes everything on to B and back. -/
def relayedOpening : History Nat SessionEvent :=
  let greeting : ServerHello := ⟨.current, mallory.nodeId, "", .fill 32 1, .all⟩
  let hello : ClientHello := ⟨.current, a.localIdentity.nodeId, a.localName, .fill 32 0, .all⟩
  [(0, ⟨.host .random, .fill 32 0⟩),
    (0, ⟨.send (.handshake (.clientHello hello)), .ok ()⟩),
    (1, ⟨.recv, .ok (some (.handshake (.clientHello hello)))⟩),
    (1, ⟨.host .random, .fill 32 1⟩),
    (1, ⟨.send (serverHelloFrame b hello (.fill 32 1)), .ok ()⟩),
    (0, ⟨.recv, .ok (some (.handshake (.serverHello greeting)))⟩),
    (0, ⟨.host (.sign relayedChallenge), relayedSignature a⟩),
    (0, ⟨.send (.handshake (.authResponse ⟨relayedSignature a⟩)), .ok ()⟩),
    (1, ⟨.recv, .ok (some (.handshake (.authResponse ⟨relayedSignature a⟩)))⟩)]

def relayedClosing : History Nat SessionEvent :=
  [(1, ⟨.send (.handshake (.authResult .accepted)), .ok ()⟩),
    (1, ⟨.isTrusted a.localIdentity.nodeId a.localIdentity.publicKey, .ok false⟩),
    (0, ⟨.recv, .ok (some (.handshake (.authResult .accepted)))⟩),
    (0, ⟨.isTrusted mallory.nodeId mallory, .ok false⟩)]

def relayedHistory : History Nat SessionEvent :=
  relayedOpening a b mallory ++
    (1, ⟨.host (.verify a.localIdentity.publicKey relayedChallenge (relayedSignature a)), .ok ()⟩) ::
      relayedClosing a mallory

theorem relayed_connects : ∃ session, Runs (clientHandshake a)
    ((relayedHistory a b mallory).project 0) (.ok session) :=
  ⟨_, runs_clientHandshake_ok.mpr ⟨.fill 32 0, ⟨.current, mallory.nodeId, "", .fill 32 1, .all⟩,
    mallory, _, .accepted, _, _, rfl, PublicKey.fromBytes_eq_ok.mpr rfl, rfl,
    runs_consultTrustStore_ok.mpr (.inr ⟨rfl, rfl⟩), rfl⟩⟩

theorem relayed_accepts : ∃ session, Runs (serverHandshake b)
      ((relayedHistory a b mallory).project 1) (.ok session) ∧
    session.remoteNodeId = a.localIdentity.nodeId :=
  ⟨_, runs_serverHandshake_ok.mpr
    ⟨⟨.current, a.localIdentity.nodeId, a.localName, .fill 32 0, .all⟩, a.localIdentity.publicKey,
      .fill 32 1, _, _, _, rfl, PublicKey.fromBytes_eq_ok.mpr rfl,
      runs_consultTrustStore_ok.mpr (.inr ⟨rfl, rfl⟩), rfl⟩, rfl⟩

def relayedRun : NetworkRun where
  program id := if id = 0 then .client a else .server b
  store _ := ∅
  history := relayedHistory a b mallory
  follows id := by
    match id with
    | 0 => exact .inl ⟨_, (relayed_connects a b mallory).choose_spec⟩
    | 1 => exact .inl ⟨_, (relayed_accepts a b mallory).choose_spec.1⟩
    | _ + 2 => exact Program.follows_nil (.server b)
  truthful id event member := by
    simp only [relayedHistory, relayedOpening, relayedClosing, List.mem_append, List.mem_cons,
      Prod.mk.injEq, List.not_mem_nil, or_false] at member
    rcases member with (⟨rfl, rfl⟩ | ⟨rfl, rfl⟩ | ⟨rfl, rfl⟩ | ⟨rfl, rfl⟩ | ⟨rfl, rfl⟩ | ⟨rfl, rfl⟩ |
      ⟨rfl, rfl⟩ | ⟨rfl, rfl⟩ | ⟨rfl, rfl⟩) | ⟨rfl, rfl⟩ | ⟨rfl, rfl⟩ | ⟨rfl, rfl⟩ | ⟨rfl, rfl⟩ | ⟨rfl, rfl⟩
    case inr.inl => exact (a.localIdentity.verify_sign _).symm
    case inr.inr.inr.inl => exact .inl rfl
    case inr.inr.inr.inr.inr => exact .inl rfl
    all_goals trivial

theorem relayedRun_ideal (honest : Set PublicKey) : (relayedRun a b mallory).Ideal honest := by
  refine .of_one_text relayedChallenge ?_ ?_ ?_
  · rintro hashed (⟨id, signature, member⟩ | ⟨id, key, signature, result, member⟩)
    · simp only [relayedRun, relayedHistory, relayedOpening, relayedClosing] at member
      simp at member
      exact member.2.1
    · simp only [relayedRun, relayedHistory, relayedOpening, relayedClosing] at member
      simp at member
      exact member.2.1.2.1
  · intro before id key hashed signature after split
    -- B's check is the only one, so `before` is all that came before it
    obtain ⟨rfl, same, rfl⟩ := (List.append_cons_inj_of_notMem (by simp [relayedOpening])
      (by simp [relayedClosing])).mp split
    cases same
    exact ⟨0, relayedSignature a, rfl, by simp [relayedOpening]⟩
  · have differ : FixedBytes.fill 32 0 ≠ FixedBytes.fill 32 1 := by decide
    exact List.nodup_cons.mpr ⟨List.mem_singleton.not.mpr differ, List.nodup_singleton _⟩

theorem relayedRun_accepted : ∃ session,
    (relayedRun a b mallory).Accepted 1 b ((relayedHistory a b mallory).project 1) session ∧
      session.remoteNodeId = a.localIdentity.nodeId := by
  obtain ⟨session, accepts, named⟩ := relayed_accepts a b mallory
  exact ⟨session, ⟨rfl, List.prefix_rfl, accepts⟩, named⟩

/-- The greeting A answered was Mallory's. -/
theorem relayedRun_answers {client : Nat} {clientNonce : FixedBytes 32} {greeting : ServerHello}
    (answers : ((relayedRun a b mallory).program client).Answers
      ((relayedRun a b mallory).history.project client) clientNonce greeting) :
    greeting.nodeId = mallory.nodeId := by
  obtain ⟨isClient, signature, rest, same⟩ := answers
  cases client with
  | zero =>
      have third : some (⟨.recv, .ok (some (.handshake (.serverHello
            ⟨.current, mallory.nodeId, "", .fill 32 1, .all⟩)))⟩ : SessionEvent) =
          some ⟨.recv, .ok (some (.handshake (.serverHello greeting)))⟩ := congrArg (·[2]?) same
      cases third
      rfl
  | succ n => exact (isClient b rfl).elim

end Relay

end Agreement

section Example

attribute [local instance] transparentCrypto

def relayedExample : NetworkRun :=
  relayedRun ⟨⟨.fill 32 1⟩, "a", .linux, true, none⟩ ⟨⟨.fill 32 2⟩, "b", .linux, true, none⟩
    (IdentityKey.publicKey ⟨.fill 32 3⟩)

theorem relayed_run_agrees :
    let b : Endpoint := ⟨⟨.fill 32 2⟩, "b", .linux, true, none⟩
    ∃ (session : ActiveSession) (opening : List SessionEvent) (hello : ClientHello)
      (serverNonce : FixedBytes 32) (client : Nat) (greeting : ServerHello),
      relayedExample.Accepted 1 b opening session ∧
      ⟨.recv, .ok (some (.handshake (.clientHello hello)))⟩ ∈ opening ∧
      ⟨.send (serverHelloFrame b hello serverNonce), .ok ()⟩ ∈ opening ∧
      (relayedExample.program client).identity.publicKey = IdentityKey.publicKey ⟨.fill 32 1⟩ ∧
      (relayedExample.program client).Answers (relayedExample.history.project client)
        hello.clientNonce greeting ∧
      greeting.serverNonce = serverNonce := by
  intro b
  obtain ⟨session, accepted, named⟩ := relayedRun_accepted ⟨⟨.fill 32 1⟩, "a", .linux, true, none⟩ b
    (IdentityKey.publicKey ⟨.fill 32 3⟩)
  obtain ⟨hello, serverNonce, client, greeting, found⟩ :=
    server_agrees_on_nonces (relayedRun_ideal _ _ _ Set.univ) accepted (Set.mem_univ _) named
  exact ⟨session, _, hello, serverNonce, client, greeting, accepted, found⟩

/-- B accepts A although no connection of A answered a greeting that names B. -/
theorem relayed_greeting_names_mallory :
    let a : Endpoint := ⟨⟨.fill 32 1⟩, "a", .linux, true, none⟩
    let b : Endpoint := ⟨⟨.fill 32 2⟩, "b", .linux, true, none⟩
    ∃ (run : NetworkRun) (opening : List SessionEvent) (session : ActiveSession),
      (∀ honest, run.Ideal honest) ∧ run.Accepted 1 b opening session ∧
      session.remoteNodeId = a.localIdentity.nodeId ∧
      ¬ ∃ client clientNonce greeting,
        (run.program client).identity.publicKey = a.localIdentity.publicKey ∧
        (run.program client).Answers (run.history.project client) clientNonce greeting ∧
        greeting.nodeId = b.localIdentity.nodeId := by
  intro a b
  let mallory : PublicKey := IdentityKey.publicKey ⟨.fill 32 3⟩
  obtain ⟨session, accepted, named⟩ := relayedRun_accepted a b mallory
  refine ⟨relayedRun a b mallory, _, session, relayedRun_ideal a b mallory, accepted, named, ?_⟩
  rintro ⟨client, clientNonce, greeting, -, answers, meant⟩
  exact absurd ((relayedRun_answers a b mallory answers).symm.trans meant) (by decide)

end Example

end BridgeOS.Session
