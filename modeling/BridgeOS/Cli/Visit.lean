import BridgeOS.Cli.Connect
import BridgeOS.Session.Transcripts

/-! # The command's handshake against the session's

A client meets a server that sends some frames and closes the stream. Both
handshakes of a client put the same questions up to the server's verdict; the
session's own then makes a key of the server's identifier and asks the trust
store, and the command's does not.
-/

namespace BridgeOS.Cli

open Session Proc

section Visits

variable [Crypto]

/-- What a client brings and what it meets: the random number it draws, which of its
    frames go out, and the frames that come in before the stream ends. -/
structure Visit where
  endpoint : Endpoint
  store : TrustStore
  nonce : FixedBytes 32
  sent : Frame → Except BridgeError Unit
  frames : List Frame

namespace Visit

variable (visit : Visit)

/-- One question with its answer, and the frames still to come. -/
def Answers (inbox : List Frame) : SessionEvent → List Frame → Prop
  | ⟨.host .random, nonce⟩, inbox' => nonce = visit.nonce ∧ inbox' = inbox
  | ⟨.host c, answer⟩, inbox' => c.Honest visit.endpoint.localIdentity answer ∧ inbox' = inbox
  | ⟨.send frame, answer⟩, inbox' => answer = visit.sent frame ∧ inbox' = inbox
  | ⟨.recv, answer⟩, inbox' => answer = .ok inbox.head? ∧ inbox' = inbox.tail
  | ⟨.isTrusted nodeId key, answer⟩, inbox' => answer = visit.store.isTrusted nodeId key ∧ inbox' = inbox
  | _, inbox' => inbox' = inbox

/-- The program returns `Ok` on this visit. -/
def Returns {ε α : Type} (p : Proc Call Call.Answer ε α) : Prop :=
  ∃ a events inbox, Runs p events (.ok a) ∧ Along visit.Answers visit.frames events inbox

def Connects : Prop :=
  visit.Returns (connectAndHandshake visit.endpoint.localIdentity visit.endpoint.localName)

def challenge (hello : ServerHello) : Bytes := handshakeChallenge visit.nonce hello.serverNonce

def signature (hello : ServerHello) : FixedBytes 64 :=
  visit.endpoint.localIdentity.sign (Crypto.sha256 (visit.challenge hello)).bytes

/-- Both messages go out, and the server greets and says that it accepts. -/
def Accepted (hello : ServerHello) : Prop :=
  visit.sent (clientHelloFrame visit.endpoint.localIdentity visit.endpoint.localName visit.nonce) = .ok () ∧
  visit.sent (.handshake (.authResponse ⟨visit.signature hello⟩)) = .ok () ∧
  ∃ result rest, result.success = true ∧
    visit.frames = .handshake (.serverHello hello) :: .handshake (.authResult result) :: rest

/-- The identifier is a public key, and the trust store does not refuse it. -/
def Admits (nodeId : NodeId) : Prop :=
  ∃ key, PublicKey.fromBytes nodeId.bytes = .ok key ∧ ¬ visit.store.Refuses key

variable {visit} {events : List SessionEvent}

theorem runs_awaitVerdict {hello greeted : ServerHello} {signature : FixedBytes 64} :
    Runs (awaitVerdict hello signature) events (.ok greeted) ↔
      ∃ result, events = [⟨.send (.handshake (.authResponse ⟨signature⟩)), .ok ()⟩,
        ⟨.recv, .ok (some (.handshake (.authResult result)))⟩] ∧
      result.success = true ∧ greeted = hello := by
  simp only [awaitVerdict, request_bind, runs_ask_ok]
  constructor
  · rintro ⟨sent, _, rfl, run⟩
    cases sent with
    | error e => simp at run
    | ok =>
        simp only [orFail_ok, ok_bind, runs_ask_ok] at run
        obtain ⟨received, _, rfl, run⟩ := run
        rcases received with e | _ | ((_ | _ | _ | result) | _ | _) <;> try simp at run
        split at run
        · rename_i accepted
          obtain ⟨rfl, same⟩ := runs_ok.mp run
          cases same
          exact ⟨result, rfl, accepted, rfl⟩
        · simp at run
  · rintro ⟨result, rfl, accepted, rfl⟩
    refine ⟨_, _, rfl, .ask ?_⟩
    simp only [orFail_ok, ok_bind, accepted, if_true]
    exact .stop _

theorem runs_connectAndHandshake {identity : IdentityKey} {name : String} {greeted : ServerHello} :
    Runs (connectAndHandshake identity name) events (.ok greeted) ↔
      ∃ nonce signature result, events = [⟨.host .random, nonce⟩,
        ⟨.send (clientHelloFrame identity name nonce), .ok ()⟩,
        ⟨.recv, .ok (some (.handshake (.serverHello greeted)))⟩,
        ⟨.host (.sign (handshakeChallenge nonce greeted.serverNonce)), signature⟩,
        ⟨.send (.handshake (.authResponse ⟨signature⟩)), .ok ()⟩,
        ⟨.recv, .ok (some (.handshake (.authResult result)))⟩] ∧ result.success = true := by
  constructor
  · intro whole
    obtain ⟨⟨nonce, hello⟩, _, _, rfl, exchanged, run⟩ := runs_bind_ok.mp whole
    obtain rfl := runs_exchangeHellos_ok.mp exchanged
    simp only [signHandshakeChallenge, lift_request, ask_bind, ok_bind, runs_ask_ok,
      runs_awaitVerdict] at run
    obtain ⟨signature, _, rfl, result, rfl, accepted, rfl⟩ := run
    exact ⟨nonce, signature, result, rfl, accepted⟩
  · rintro ⟨nonce, signature, result, rfl, accepted⟩
    refine runs_bind_ok.mpr ⟨(nonce, greeted), [_, _, _], _, rfl, runs_exchangeHellos_ok.mpr rfl, ?_⟩
    simp only [signHandshakeChallenge, lift_request, ask_bind, ok_bind]
    exact .ask (runs_awaitVerdict.mpr ⟨result, rfl, accepted, rfl⟩)

/-- What both handshakes ask up to the verdict. -/
def exchange (endpoint : Endpoint) (nonce : FixedBytes 32) (hello : ServerHello) (signature : FixedBytes 64)
    (result : AuthResult) : List SessionEvent :=
  [⟨.host .random, nonce⟩, ⟨.send (clientHelloFrame endpoint.localIdentity endpoint.localName nonce), .ok ()⟩,
    ⟨.recv, .ok (some (.handshake (.serverHello hello)))⟩,
    ⟨.host (.sign (handshakeChallenge nonce hello.serverNonce)), signature⟩,
    ⟨.send (.handshake (.authResponse ⟨signature⟩)), .ok ()⟩,
    ⟨.recv, .ok (some (.handshake (.authResult result)))⟩]

/-- The server accepts exactly when these questions are answered as they are. -/
theorem accepted_iff {hello : ServerHello} : visit.Accepted hello ↔ ∃ nonce signature result rest,
    Along visit.Answers visit.frames (exchange visit.endpoint nonce hello signature result) rest ∧
      result.success = true := by
  constructor
  · rintro ⟨greeting, response, result, rest, accepted, frames⟩
    refine ⟨visit.nonce, visit.signature hello, result, rest, ?_, accepted⟩
    rw [frames]
    exact ⟨_, ⟨rfl, rfl⟩, _, ⟨greeting.symm, rfl⟩, _, ⟨rfl, rfl⟩, _, ⟨rfl, rfl⟩, _, ⟨response.symm, rfl⟩, _,
      ⟨rfl, rfl⟩, rfl⟩
  · rintro ⟨nonce, signature, result, rest, along, accepted⟩
    obtain ⟨_, ⟨rfl, rfl⟩, _, ⟨greeting, rfl⟩, _, ⟨greeted, rfl⟩, _, ⟨rfl, rfl⟩, _, ⟨response, rfl⟩, _,
      ⟨verdict, rfl⟩, -⟩ := along
    refine ⟨greeting.symm, response.symm, result, visit.frames.tail.tail, accepted, ?_⟩
    obtain ⟨later, frames⟩ := List.head?_eq_some_iff.mp (Except.ok.inj greeted).symm
    rw [frames, List.tail_cons] at verdict ⊢
    obtain ⟨rest, frames'⟩ := List.head?_eq_some_iff.mp (Except.ok.inj verdict).symm
    rw [frames', List.tail_cons]

theorem connects_iff : visit.Connects ↔ ∃ hello, visit.Accepted hello := by
  constructor
  · rintro ⟨hello, events, inbox, run, along⟩
    obtain ⟨nonce, signature, result, rfl, accepted⟩ := runs_connectAndHandshake.mp run
    exact ⟨hello, accepted_iff.mpr ⟨nonce, signature, result, inbox, along, accepted⟩⟩
  · rintro ⟨hello, accepted⟩
    obtain ⟨nonce, signature, result, rest, along, success⟩ := accepted_iff.mp accepted
    exact ⟨hello, _, rest, runs_connectAndHandshake.mpr ⟨nonce, signature, result, rfl, success⟩, along⟩

/-- The trust store is asked last, and its word is the result. -/
theorem consults_iff {key : PublicKey} {inbox : List Frame} :
    (∃ state trust rest, Runs (consultTrustStore key.nodeId key) trust (.ok state) ∧
      Along visit.Answers inbox trust rest) ↔ ¬ visit.store.Refuses key := by
  rw [TrustStore.refuses_iff]
  constructor
  · rintro ⟨state, trust, rest, run, along⟩ refused
    rcases runs_consultTrustStore_ok.mp run with ⟨_, _, rfl, -⟩ | ⟨rfl, -⟩
    · obtain ⟨_, ⟨found, -⟩, -⟩ := along
      exact refused true found.symm
    · obtain ⟨_, ⟨found, -⟩, -⟩ := along
      exact refused false found.symm
  · intro admitted
    push Not at admitted
    obtain ⟨trusted, found⟩ := admitted
    cases trusted with
    | true =>
        exact ⟨_, _, inbox, runs_consultTrustStore_ok.mpr (.inl ⟨0, .ok (), rfl, rfl⟩),
          _, ⟨found.symm, rfl⟩, _, ⟨trivial, rfl⟩, _, rfl, rfl⟩
    | false =>
        exact ⟨_, _, inbox, runs_consultTrustStore_ok.mpr (.inr ⟨rfl, rfl⟩), _, ⟨found.symm, rfl⟩, rfl⟩

theorem returns_clientHandshake_iff : visit.Returns (clientHandshake visit.endpoint) ↔
    ∃ hello, visit.Accepted hello ∧ visit.Admits hello.nodeId := by
  constructor
  · rintro ⟨session, events, inbox, run, along⟩
    obtain ⟨nonce, hello, key, signature, result, trust, state, rfl, made, success, consulted, -⟩ :=
      runs_clientHandshake_ok.mp run
    obtain ⟨rest, asked, trusting⟩ := along_append.mp
      (show Along visit.Answers visit.frames (exchange visit.endpoint nonce hello signature result ++ trust) inbox
        from along)
    rw [← PublicKey.nodeId_of_fromBytes made] at consulted
    exact ⟨hello, accepted_iff.mpr ⟨nonce, signature, result, rest, asked, success⟩, key, made,
      consults_iff.mp ⟨state, trust, inbox, consulted, trusting⟩⟩
  · rintro ⟨hello, accepted, key, made, admitted⟩
    obtain ⟨nonce, signature, result, rest, asked, success⟩ := accepted_iff.mp accepted
    obtain ⟨state, trust, inbox, consulted, trusting⟩ := consults_iff.mpr admitted
    rw [PublicKey.nodeId_of_fromBytes made] at consulted
    exact ⟨_, exchange visit.endpoint nonce hello signature result ++ trust, inbox,
      runs_clientHandshake_ok.mpr ⟨nonce, hello, key, signature, result, trust, state, rfl, made, success,
        consulted, rfl⟩, along_append.mpr ⟨rest, asked, trusting⟩⟩

/-- The command accepts only what the session would accept exactly where the server
    that accepts it has a valid key that the trust store does not refuse. -/
theorem handshakes_agree_iff (visit : Visit) :
    (visit.Connects → visit.Returns (clientHandshake visit.endpoint)) ↔
      ∀ hello, visit.Accepted hello → visit.Admits hello.nodeId := by
  rw [connects_iff, returns_clientHandshake_iff]
  constructor
  · rintro agree hello accepted
    obtain ⟨greeted, again, admitted⟩ := agree ⟨hello, accepted⟩
    -- the greeting is the first frame, so there is only one
    obtain ⟨-, -, _, _, -, frames⟩ := accepted
    obtain ⟨-, -, _, _, -, frames'⟩ := again
    rw [frames] at frames'
    cases frames'
    exact admitted
  · rintro admitted ⟨hello, accepted⟩
    exact ⟨hello, accepted, admitted hello accepted⟩

/-- A server that the client's store has as revoked, and that accepts everyone. -/
theorem exists_refused_server (endpoint : Endpoint) (server : PublicKey) (store : TrustStore)
    (refused : store.Refuses server) :
    ∃ visit : Visit, visit.endpoint = endpoint ∧ visit.store = store ∧ visit.Connects ∧
      ¬ visit.Returns (clientHandshake visit.endpoint) := by
  let hello : ServerHello := ⟨.current, server.nodeId, "server", .fill 32 1, .all⟩
  let visit : Visit := ⟨endpoint, store, .fill 32 0, fun _ => .ok (),
    [.handshake (.serverHello hello), .handshake (.authResult .accepted)]⟩
  have accepted : visit.Accepted hello := ⟨rfl, rfl, .accepted, [], rfl, rfl⟩
  refine ⟨visit, rfl, rfl, connects_iff.mpr ⟨hello, accepted⟩, ?_⟩
  rw [returns_clientHandshake_iff]
  rintro ⟨greeted, again, key, made, admitted⟩
  obtain ⟨-, -, _, _, -, frames⟩ := again
  cases frames
  have same : key = server := PublicKey.nodeId_injective (PublicKey.nodeId_of_fromBytes made)
  exact admitted (same ▸ refused)

end Visit

end Visits

section Example

attribute [local instance] transparentCrypto

/-- The client has revoked the server; `bridge send` goes on to its file. -/
theorem revoked_server_is_connected :
    let server : PublicKey := IdentityKey.publicKey ⟨.fill 32 2⟩
    let store := TrustStore.savePeer ∅ ⟨server.nodeId, server, "server", .linux, 0, 0, .revoked⟩
    ∃ visit : Visit, visit.store = store ∧ visit.Connects ∧
      ¬ visit.Returns (clientHandshake visit.endpoint) := by
  intro server store
  have refused : store.Refuses server := by
    rw [TrustStore.refuses_iff]
    have answer : store.isTrusted server.nodeId server = .error (.peerRevoked server.nodeId) :=
      TrustStore.isTrusted_savePeer ∅ _
    rw [answer]
    nofun
  obtain ⟨visit, -, same, connected, rejected⟩ :=
    Visit.exists_refused_server ⟨⟨.fill 32 1⟩, "client", .linux, true, none⟩ server store refused
  exact ⟨visit, same, connected, rejected⟩

end Example

end BridgeOS.Cli
