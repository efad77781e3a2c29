import BridgeOS.Session.Agreement

/-! # What the client's handshake proves

Nothing about the server: the client asks for no signature, so anyone can answer
in the name of any key that the client's trust store does not refuse.
-/

namespace BridgeOS.Session

open Proc

section Impersonation

variable [Crypto]

/-- A connection of a client got through its handshake. -/
structure NetworkRun.Connected (run : NetworkRun) (id : Nat) (endpoint : Endpoint) (opening : List SessionEvent)
    (session : ActiveSession) : Prop where
  program : run.program id = .client endpoint
  begun : opening <+: run.history.project id
  handshake : Runs (clientHandshake endpoint) opening (.ok session)

variable {run : NetworkRun} {honest : Set PublicKey} {id : Nat} {endpoint : Endpoint}
  {opening : List SessionEvent} {session : ActiveSession} {key : PublicKey}

/-- Every run in which this client, with this trust store, ends up connected to the
    key has a signature by the key that contains the nonce the client sent. -/
def AuthenticatesServer (endpoint : Endpoint) (store : TrustStore) (key : PublicKey) : Prop :=
  ∀ (run : NetworkRun) (honest : Set PublicKey) (id : Nat) (opening : List SessionEvent)
    (session : ActiveSession) (clientNonce : FixedBytes 32), run.Ideal honest → key ∈ honest →
    run.store id = store → run.Connected id endpoint opening session →
    session.remoteNodeId = key.nodeId →
    ⟨.send (clientHelloFrame endpoint.localIdentity endpoint.localName clientNonce), .ok ()⟩ ∈ opening →
    ∃ text, run.Signed key text run.history ∧ clientNonce.bytes <:+: text

/-- What the client learns about the server: that its trust store does not refuse it. -/
theorem not_refused_of_connected (connected : run.Connected id endpoint opening session)
    (named : session.remoteNodeId = key.nodeId) : ¬ (run.store id).Refuses key := by
  rw [TrustStore.refuses_iff]
  obtain ⟨nonce, hello, presented, signature, result, trust, state, rfl, made, -, consulted, rfl⟩ :=
    runs_clientHandshake_ok.mp connected.handshake
  have same : presented = key :=
    PublicKey.nodeId_injective ((PublicKey.nodeId_of_fromBytes made).trans named)
  subst same
  have id' : hello.nodeId = presented.nodeId := named
  obtain ⟨trusted, asked⟩ : ∃ trusted, ⟨.isTrusted hello.nodeId presented, .ok trusted⟩ ∈ trust := by
    rcases runs_consultTrustStore_ok.mp consulted with ⟨_, _, rfl, -⟩ | ⟨rfl, -⟩
    · exact ⟨true, .head _⟩
    · exact ⟨false, .head _⟩
  have answered := run.truthful _ _ (mem_history_of_begun connected.begun
    (.tail _ (.tail _ (.tail _ (.tail _ (.tail _ (.tail _ asked)))))))
  rcases answered with found | ⟨text, fault⟩
  · intro refused
    exact refused trusted (id' ▸ found.symm)
  · cases fault

/-- The client signs its own nonce. -/
theorem own_signature (connected : run.Connected id endpoint opening session)
    {clientNonce : FixedBytes 32}
    (sent : ⟨.send (clientHelloFrame endpoint.localIdentity endpoint.localName clientNonce), .ok ()⟩ ∈
      opening) :
    ∃ text, run.Signed endpoint.localIdentity.publicKey text run.history ∧ clientNonce.bytes <:+: text := by
  obtain ⟨nonce, hello, presented, signature, result, trust, state, rfl, -, -, consulted, -⟩ :=
    runs_clientHandshake_ok.mp connected.handshake
  have drawn : clientNonce = nonce := by
    have unsent : ∀ frame, ⟨.send frame, .ok ()⟩ ∉ trust := by
      intro frame
      rcases runs_consultTrustStore_ok.mp consulted with ⟨_, _, rfl, -⟩ | ⟨rfl, -⟩ <;> simp
    simpa [unsent, clientHelloFrame] using sent
  subst drawn
  refine ⟨handshakeChallenge clientNonce hello.serverNonce, ⟨id, signature, ?_, ?_⟩, ?_⟩
  · rw [connected.program]
    rfl
  · exact mem_history_of_begun connected.begun (.tail _ (.tail _ (.tail _ (.head _))))
  · exact ⟨utf8 "BridgeOS-Handshake-v1", hello.serverNonce.bytes, rfl⟩

/-- The questions of a consultation involve no key and no random number. -/
theorem consultation_unkeyed {store : TrustStore} {trusted : Bool} (identity : IdentityKey)
    (answer : store.isTrusted key.nodeId key = .ok trusted) : ∃ trust state,
      Runs (consultTrustStore key.nodeId key) trust (.ok state) ∧ (trusted = true → state = .trusted) ∧
      ∀ event ∈ trust, Truthful identity store event ∧ ∀ c, event.call = .host c → c = .now := by
  cases trusted with
  | true =>
      refine ⟨_, _, runs_consultTrustStore_ok.mpr (.inl ⟨0, .ok (), rfl, rfl⟩), fun _ => rfl, ?_⟩
      simp [Truthful, answer, HostCall.Honest]
  | false =>
      refine ⟨_, _, runs_consultTrustStore_ok.mpr (.inr ⟨rfl, rfl⟩), nofun, ?_⟩
      simp [Truthful, answer]

/-- What a client sees that is accepted by whoever answered with the greeting. -/
def clientTranscript (endpoint : Endpoint) (clientNonce : FixedBytes 32) (greeting : ServerHello)
    (trust : List SessionEvent) : List SessionEvent :=
  let text := handshakeChallenge clientNonce greeting.serverNonce
  let signature := endpoint.localIdentity.sign (Crypto.sha256 text).bytes
  ⟨.host .random, clientNonce⟩ ::
    ⟨.send (clientHelloFrame endpoint.localIdentity endpoint.localName clientNonce), .ok ()⟩ ::
    ⟨.recv, .ok (some (.handshake (.serverHello greeting)))⟩ ::
    ⟨.host (.sign text), signature⟩ :: ⟨.send (.handshake (.authResponse ⟨signature⟩)), .ok ()⟩ ::
    ⟨.recv, .ok (some (.handshake (.authResult .accepted)))⟩ :: trust

theorem clientTranscript_hashes (endpoint : Endpoint) (clientNonce : FixedBytes 32)
    (greeting : ServerHello) {trust : List SessionEvent}
    (unkeyed : ∀ event ∈ trust, ∀ c, event.call = .host c → c = .now) :
    let events := clientTranscript endpoint clientNonce greeting trust
    (∀ text signature, ⟨.host (.sign text), signature⟩ ∈ events →
      text = handshakeChallenge clientNonce greeting.serverNonce) ∧
    (∀ presented text signature result,
      ⟨.host (.verify presented text signature), result⟩ ∉ events) ∧
    events.filterMap drawn = [clientNonce] := by
  refine ⟨?_, ?_, ?_⟩
  · intro text signature member
    simp only [clientTranscript, List.mem_cons, Event.mk.injEq, reduceCtorEq, false_and, false_or,
      Call.host.injEq, HostCall.sign.injEq] at member
    rcases member with ⟨same, -⟩ | later
    · exact same
    · cases unkeyed _ later _ rfl
  · intro presented text signature result member
    simp only [clientTranscript, List.mem_cons, Event.mk.injEq, reduceCtorEq, false_and, false_or,
      Call.host.injEq] at member
    cases unkeyed _ member _ rfl
  · have rest : trust.filterMap drawn = [] := by
      rw [List.filterMap_eq_nil_iff]
      rintro ⟨call, answer⟩ member
      cases call with
      | host c =>
          cases unkeyed _ member c rfl
          rfl
      | _ => rfl
    simp only [clientTranscript, List.filterMap_cons, rest, drawn]

/-- The only connection: anyone answers it in the name of the key. -/
theorem exists_forged_greeting (endpoint : Endpoint) {store : TrustStore} {trusted : Bool}
    (answer : store.isTrusted key.nodeId key = .ok trusted) :
    ∃ run : NetworkRun, (∀ id, run.program id = .client endpoint) ∧ (∀ id, run.store id = store) ∧
      (∀ honest, run.Ideal honest) ∧ ∃ opening session clientNonce,
        run.Connected 0 endpoint opening session ∧ session.remoteNodeId = key.nodeId ∧
        (trusted = true → session.state = .trusted) ∧
        ⟨.send (clientHelloFrame endpoint.localIdentity endpoint.localName clientNonce), .ok ()⟩ ∈
          opening := by
  let greeting : ServerHello := ⟨.current, key.nodeId, "", .fill 32 1, .all⟩
  obtain ⟨trust, state, consulted, granted, unkeyed⟩ := consultation_unkeyed endpoint.localIdentity answer
  let events := clientTranscript endpoint (.fill 32 0) greeting trust
  have connects : Runs (clientHandshake endpoint) events (.ok (clientSession endpoint greeting key state)) :=
    runs_clientHandshake_ok.mpr ⟨.fill 32 0, greeting, key, _, .accepted, trust, state, rfl,
      PublicKey.fromBytes_eq_ok.mpr rfl, rfl, consulted, rfl⟩
  have truthful : ∀ event ∈ events, Truthful endpoint.localIdentity store event := by
    intro event member
    simp only [events, clientTranscript, List.mem_cons] at member
    rcases member with rfl | rfl | rfl | rfl | rfl | rfl | later
    · trivial
    · trivial
    · trivial
    · exact rfl
    · trivial
    · trivial
    · exact (unkeyed event later).1
  obtain ⟨signs, checks, nonces⟩ := clientTranscript_hashes endpoint (.fill 32 0) greeting
    fun event member => (unkeyed event member).2
  have fresh : (events.filterMap drawn).Nodup := nonces ▸ List.nodup_singleton _
  have follows : Program.Follows (.client endpoint) events := .inl ⟨_, connects⟩
  refine ⟨.alone (.client endpoint) store events follows truthful, fun _ => rfl, fun _ => rfl,
    NetworkRun.alone_ideal signs checks fresh, events, _, .fill 32 0, ⟨rfl, ?_, connects⟩, rfl, granted,
    .tail _ (.head _)⟩
  exact ⟨[], (List.append_nil _).trans NetworkRun.project_alone.symm⟩

/-- The client's handshake shows that the server has its key only where it cannot
    return for that key, or where the key is the client's own. -/
theorem authenticatesServer_iff (endpoint : Endpoint) (store : TrustStore) (key : PublicKey) :
    AuthenticatesServer endpoint store key ↔
      store.Refuses key ∨ endpoint.localIdentity.publicKey = key := by
  constructor
  · intro authenticates
    by_contra neither
    rw [not_or, TrustStore.refuses_iff] at neither
    obtain ⟨accepts, other⟩ := neither
    push Not at accepts
    obtain ⟨trusted, answer⟩ := accepts
    obtain ⟨run, programs, stores, ideal, opening, session, clientNonce, connected, named, -, sent⟩ :=
      exists_forged_greeting endpoint answer
    obtain ⟨text, ⟨id, signature, owner, -⟩, -⟩ := authenticates run {key} 0 opening session clientNonce
      (ideal _) rfl (stores 0) connected named sent
    rw [programs] at owner
    exact other owner
  · rintro (refused | rfl) run honest id opening session clientNonce - - rfl connected named sent
    · exact (not_refused_of_connected connected named refused).elim
    · exact own_signature connected sent

end Impersonation

section Example

attribute [local instance] transparentCrypto

/-- A client that knows and trusts a peer takes whoever answers in the peer's name
    for it, although the peer has signed nothing. -/
theorem impostor_is_trusted :
    let endpoint : Endpoint := ⟨⟨.fill 32 1⟩, "client", .linux, true, none⟩
    let key : PublicKey := IdentityKey.publicKey ⟨.fill 32 2⟩
    let store := TrustStore.savePeer ∅ ⟨key.nodeId, key, "peer", .linux, 0, 0, .trusted⟩
    ∃ (run : NetworkRun) (opening : List SessionEvent) (session : ActiveSession),
      (∀ honest, run.Ideal honest) ∧ run.store 0 = store ∧
      run.Connected 0 endpoint opening session ∧ session.remoteNodeId = key.nodeId ∧
      session.state = .trusted ∧ ∀ text, ¬ run.Signed key text run.history := by
  intro endpoint key store
  have known : store.isTrusted key.nodeId key = .ok true := TrustStore.isTrusted_savePeer_self ∅ rfl
  obtain ⟨run, programs, stores, ideal, opening, session, -, connected, named, granted, -⟩ :=
    exists_forged_greeting endpoint known
  refine ⟨run, opening, session, ideal, stores 0, connected, named, granted rfl, ?_⟩
  rintro text ⟨id, signature, owner, -⟩
  rw [programs] at owner
  exact absurd owner (by decide)

end Example

end BridgeOS.Session
