import BridgeOS.Cli.Connect
import BridgeOS.Lib.Interleaving
import BridgeOS.Session.Gating

/-! # Honest nodes on a hostile network

Any number of connections of honest nodes, interleaved in any way. The network
is the attacker: what a connection receives is unrestricted, so the attacker may
relay, alter and invent frames, and be a client or a server with keys of its own.
What it cannot do is stated apart: sign for a key it does not hold, find a
collision, or repeat a random number.
-/

namespace BridgeOS.Session

open Proc
open Cli (CliProc connectAndHandshake)

variable [Crypto]

/-- What a connection of an honest node runs. -/
inductive Program where
  | server (endpoint : Endpoint)
  | client (endpoint : Endpoint)
  | connect (clientKey : IdentityKey) (deviceName : String)

namespace Program

def identity : Program → IdentityKey
  | .server endpoint => endpoint.localIdentity
  | .client endpoint => endpoint.localIdentity
  | .connect clientKey _ => clientKey

def name : Program → String
  | .server endpoint => endpoint.localName
  | .client endpoint => endpoint.localName
  | .connect _ deviceName => deviceName

end Program

/-- What can follow a handshake: calls on the session, and the frames the node's
    own loop and commands handle, which sign nothing. -/
inductive Operations (self : ActiveSession) : List SessionEvent → Prop where
  | done : Operations self []
  | call {operation : Operation} {events rest} (asks : operation.Asks self events)
      (later : Operations self rest) : Operations self (events ++ rest)
  | other {event rest} (unsigned : ∀ text, event.call ≠ .host (.sign text))
      (later : Operations self rest) : Operations self (event :: rest)

/-- Still in the handshake, or past it. -/
def Continues {ε α : Type} (handshake : Proc Call Call.Answer ε α) (Later : α → List SessionEvent → Prop)
    (events : List SessionEvent) : Prop :=
  (∃ q, Runs handshake events q) ∨
    ∃ result opening later, events = opening ++ later ∧ Runs handshake opening (.ok result) ∧
      Later result later

def Program.Follows : Program → List SessionEvent → Prop
  | .server endpoint => Continues (serverHandshake endpoint) Operations
  | .client endpoint => Continues (clientHandshake endpoint) Operations
  | .connect clientKey deviceName => Continues (connectAndHandshake clientKey deviceName)
      fun _ later => ∀ event ∈ later, ∀ text, event.call ≠ .host (.sign text)

/-- The machine and the trust store answer as they are. -/
def Truthful (key : IdentityKey) (store : TrustStore) : SessionEvent → Prop
  | ⟨.host c, answer⟩ => c.Honest key answer
  | ⟨.isTrusted nodeId presented, answer⟩ =>
      answer = store.isTrusted nodeId presented ∨ ∃ text, answer = .error (.database text)
  | _ => True

/-- The random number an event brought. -/
def drawn : SessionEvent → Option (FixedBytes 32)
  | ⟨.host .random, nonce⟩ => some nonce
  | _ => none

/-- `store` is what a connection's trust store holds when its handshake asks. -/
structure NetworkRun where
  program : Nat → Program
  store : Nat → TrustStore
  history : History Nat SessionEvent
  follows : ∀ id, (program id).Follows (history.project id)
  truthful : ∀ id event, (id, event) ∈ history → Truthful (program id).identity (store id) event

namespace NetworkRun

variable (run : NetworkRun)

/-- Some connection of the key's holder signed the text. -/
def Signed (key : PublicKey) (text : Bytes) (history : History Nat SessionEvent) : Prop :=
  ∃ id signature, (run.program id).identity.publicKey = key ∧
    (id, ⟨.host (.sign text), signature⟩) ∈ history

/-- A text somebody signed or checked. -/
def Hashed (text : Bytes) : Prop :=
  (∃ id signature, (id, ⟨.host (.sign text), signature⟩) ∈ run.history) ∨
    ∃ id key signature result, (id, ⟨.host (.verify key text signature), result⟩) ∈ run.history

def nonces : List (FixedBytes 32) := run.history.filterMap fun entry => drawn entry.2

/-- What signatures and hashes promise about the keys the attacker does not hold. -/
structure Secure (honest : Set PublicKey) : Prop where
  unforgeable : ∀ before id key text signature after, key ∈ honest →
    run.history = before ++ (id, ⟨.host (.verify key text signature), .ok ()⟩) :: after →
    ∃ signed, Crypto.sha256 signed = Crypto.sha256 text ∧ run.Signed key signed before
  collisionFree : ∀ text text', run.Hashed text → run.Hashed text' →
    Crypto.sha256 text = Crypto.sha256 text' → text = text'

/-- What cryptography promises: the random numbers differ too. -/
structure Ideal (honest : Set PublicKey) : Prop extends run.Secure honest where
  fresh : run.nonces.Nodup

variable {run}

theorem Ideal.of_one_text {honest : Set PublicKey} (text : Bytes)
    (only : ∀ hashed, run.Hashed hashed → hashed = text)
    (signedBefore : ∀ before id key hashed signature after,
      run.history = before ++ (id, ⟨.host (.verify key hashed signature), .ok ()⟩) :: after →
      run.Signed key hashed before)
    (fresh : run.nonces.Nodup) : run.Ideal honest where
  unforgeable before id key hashed signature after _ split :=
    ⟨hashed, rfl, signedBefore before id key hashed signature after split⟩
  collisionFree _ _ first second _ := (only _ first).trans (only _ second).symm
  fresh := fresh

end NetworkRun

theorem Program.follows_nil (program : Program) : program.Follows [] := by
  cases program with
  | server endpoint => exact .inl ⟨_, .stop _⟩
  | client endpoint => exact .inl ⟨_, .stop _⟩
  | connect clientKey deviceName => exact .inl ⟨_, .stop _⟩

namespace NetworkRun

/-- The run with one connection. -/
def alone (program : Program) (store : TrustStore) (events : List SessionEvent)
    (follows : program.Follows events)
    (truthful : ∀ event ∈ events, Truthful program.identity store event) : NetworkRun where
  program _ := program
  store _ := store
  history := events.map (Prod.mk 0)
  follows id := by
    by_cases first : id = 0
    · simpa [History.project, List.filterMap_map, Function.comp_def, first] using follows
    · simpa [History.project, List.filterMap_map, Function.comp_def, Ne.symm first] using
        program.follows_nil
  truthful := by
    rintro id event member
    obtain ⟨_, found, same⟩ := List.mem_map.mp member
    cases same
    exact truthful event found

theorem project_alone {program : Program} {store : TrustStore} {events : List SessionEvent}
    {follows : program.Follows events}
    {truthful : ∀ event ∈ events, Truthful program.identity store event} :
    (alone program store events follows truthful).history.project 0 = events := by
  simp [alone, History.project, List.filterMap_map]

/-- One connection that signs one text and checks nothing is beyond reproach. -/
theorem alone_ideal {program : Program} {store : TrustStore} {events : List SessionEvent}
    {follows : program.Follows events}
    {truthful : ∀ event ∈ events, Truthful program.identity store event} {text : Bytes}
    (signs : ∀ signed signature, ⟨.host (.sign signed), signature⟩ ∈ events → signed = text)
    (checks : ∀ key signed signature result, ⟨.host (.verify key signed signature), result⟩ ∉ events)
    (fresh : (events.filterMap drawn).Nodup) (honest : Set PublicKey) :
    (alone program store events follows truthful).Ideal honest := by
  let run := alone program store events follows truthful
  have inEvents : ∀ {id event}, (id, event) ∈ run.history → event ∈ events := by
    intro id event member
    obtain ⟨_, found, same⟩ := List.mem_map.mp member
    cases same
    exact found
  have hashed : ∀ {signed}, run.Hashed signed → signed = text := by
    rintro signed (⟨id, signature, member⟩ | ⟨id, key, signature, result, member⟩)
    · exact signs signed signature (inEvents member)
    · exact (checks _ _ _ _ (inEvents member)).elim
  have distinct : run.nonces.Nodup := by
    simpa [run, nonces, alone, List.filterMap_map, Function.comp_def] using fresh
  refine .of_one_text text (fun _ => hashed) ?_ distinct
  intro before id key signed signature after split
  have member : (id, ⟨.host (.verify key signed signature), .ok ()⟩) ∈ run.history := by
    rw [split]
    exact List.mem_append_right _ (.head _)
  exact (checks _ _ _ _ (inEvents member)).elim

end NetworkRun

/-- The connection drew the nonce, greeted with it and answered this server's greeting. -/
def Program.Answers (program : Program) (events : List SessionEvent) (clientNonce : FixedBytes 32)
    (greeting : ServerHello) : Prop :=
  (∀ endpoint, program ≠ .server endpoint) ∧ ∃ signature rest, events =
    ⟨.host .random, clientNonce⟩ ::
    ⟨.send (clientHelloFrame program.identity program.name clientNonce), .ok ()⟩ ::
    ⟨.recv, .ok (some (.handshake (.serverHello greeting)))⟩ ::
    ⟨.host (.sign (handshakeChallenge clientNonce greeting.serverNonce)), signature⟩ :: rest

section Signing

variable {endpoint : Endpoint} {self : ActiveSession} {events : List SessionEvent}
  {clientNonce serverNonce : FixedBytes 32} {signature : FixedBytes 64}

theorem noChallenge_of_greeting {ε α : Type} {p : Proc Call Call.Answer ε α}
    (greeting : Greeting (fun _ => False) (∃ a, · = .ok a) p) : p.AllCalls Call.NoChallenge := by
  refine Within.allCalls (R := fun _ => True) (greeting.within ?_ ?_)
  · exact fun _ greets => greets.ofHandshake.noChallenge
  · rintro _ ⟨a, rfl⟩
    trivial

theorem exchangeHellos_noChallenge {ε : Type} {identity : IdentityKey} {name : String}
    {sending receiving : BridgeError → ε} {ended : ε} {unexpected : Frame → ε} :
    (exchangeHellos identity name sending receiving ended unexpected).AllCalls Call.NoChallenge :=
  noChallenge_of_greeting (exchangeHellos_greeting _)

/-- A client signs its challenge first thing after the greetings, and no other one. -/
theorem challenge_of_greeting {ε α : Type} {identity : IdentityKey} {name : String}
    {sending receiving : BridgeError → ε} {ended : ε} {unexpected : Frame → ε}
    {next : FixedBytes 32 × ServerHello → Proc Call Call.Answer ε α} {q : Proc Call Call.Answer ε α}
    (run : Runs (exchangeHellos identity name sending receiving ended unexpected >>= next) events q)
    (signs : ⟨.host (.sign (handshakeChallenge clientNonce serverNonce)), signature⟩ ∈ events)
    (answers : ∀ nonce greeting later, Runs (next (nonce, greeting)) later q → later = [] ∨
      ∃ own rest, later = ⟨.host (.sign (handshakeChallenge nonce greeting.serverNonce)), own⟩ :: rest ∧
        ∀ event ∈ rest, event.call.NoChallenge) :
    ∃ greeting own rest, events = ⟨.host .random, clientNonce⟩ ::
        ⟨.send (clientHelloFrame identity name clientNonce), .ok ()⟩ ::
        ⟨.recv, .ok (some (.handshake (.serverHello greeting)))⟩ ::
        ⟨.host (.sign (handshakeChallenge clientNonce greeting.serverNonce)), own⟩ :: rest ∧
      greeting.serverNonce = serverNonce := by
  rcases runs_bind run with ⟨_, greeting, -⟩ | ⟨⟨nonce, greeting⟩, first, later, rfl, greeted, answering⟩
  · exact ((greeting.allCalls exchangeHellos_noChallenge).1 _ signs _ _ rfl).elim
  have unsigned := (greeted.allCalls exchangeHellos_noChallenge).1
  rcases List.mem_append.mp signs with early | late
  · exact (unsigned _ early _ _ rfl).elim
  obtain rfl := runs_exchangeHellos_ok.mp greeted
  rcases answers nonce greeting later answering with rfl | ⟨own, rest, rfl, unsigned⟩
  · cases late
  · rcases List.mem_cons.mp late with same | inRest
    · simp only [Event.mk.injEq, Call.host.injEq, HostCall.sign.injEq] at same
      obtain ⟨rfl, server⟩ := handshakeChallenge_injective same.1
      exact ⟨greeting, own, rest, rfl, server.symm⟩
    · exact (unsigned _ inRest _ _ rfl).elim

theorem clientHandshake_signs {q : SessionProc ActiveSession}
    (run : Runs (clientHandshake endpoint) events q)
    (signs : ⟨.host (.sign (handshakeChallenge clientNonce serverNonce)), signature⟩ ∈ events) :
    ∃ greeting, (Program.client endpoint).Answers events clientNonce greeting ∧
      greeting.serverNonce = serverNonce := by
  obtain ⟨greeting, own, rest, same, server⟩ := challenge_of_greeting run signs (by
    intro nonce greeting later answering
    cases made : PublicKey.fromBytes greeting.nodeId.bytes with
    | error e =>
        simp only [made, orFail_error, error_bind] at answering
        exact .inl (runs_error.mp answering).1
    | ok key =>
        simp only [made, orFail_ok, ok_bind, onHost, signHandshakeChallenge, lift_request,
          ask_bind] at answering
        rcases runs_ask.mp answering with ⟨rfl, -⟩ | ⟨own, rest, rfl, waiting⟩
        · exact .inl rfl
        · have calls : (awaitVerdict endpoint greeting key own).AllCalls
              (Call.OfHandshake fun _ => False) :=
            allCalls_of_greeting (awaitVerdict_greeting (PublicKey.nodeId_of_fromBytes made) _ own)
          have asked := (waiting.allCalls calls).1
          exact .inr ⟨own, rest, rfl, fun event member => (asked event member).noChallenge⟩)
  exact ⟨greeting, ⟨by simp, own, rest, same⟩, server⟩

theorem connectAndHandshake_signs {clientKey : IdentityKey} {deviceName : String}
    {q : CliProc ServerHello} (run : Runs (connectAndHandshake clientKey deviceName) events q)
    (signs : ⟨.host (.sign (handshakeChallenge clientNonce serverNonce)), signature⟩ ∈ events) :
    ∃ greeting, (Program.connect clientKey deviceName).Answers events clientNonce greeting ∧
      greeting.serverNonce = serverNonce := by
  obtain ⟨greeting, own, rest, same, server⟩ := challenge_of_greeting run signs (by
    intro nonce greeting later answering
    simp only [signHandshakeChallenge, lift_request, ask_bind, ok_bind] at answering
    rcases runs_ask.mp answering with ⟨rfl, -⟩ | ⟨own, rest, rfl, waiting⟩
    · exact .inl rfl
    · have unsigned := noChallenge_of_greeting (cliAwaitVerdict_greeting (fun _ => False) greeting own)
      exact .inr ⟨own, rest, rfl, (waiting.allCalls unsigned).1⟩)
  exact ⟨greeting, ⟨by simp, own, rest, same⟩, server⟩

theorem processNextFrame_noChallenge : (processNextFrame self).AllCalls Call.NoChallenge := by
  refine (processNextFrame_serves fun _ => True).allCalls.mono ?_
  rintro _ serves clientNonce serverNonce rfl
  exact serves

theorem executePairing_noChallenge {isInitiator : Bool} :
    (executePairing self isInitiator).AllCalls Call.NoChallenge :=
  (executePairing_within (R := fun _ => True) isInitiator (fun _ pairs => pairs.plain.2) fun _ _ =>
    ⟨by simp [Call.NoChallenge], fun _ => ⟨by simp [Call.NoChallenge], fun _ => trivial⟩⟩).allCalls

theorem operations_noChallenge (later : Operations self events) :
    ∀ event ∈ events, event.call.NoChallenge := by
  induction later with
  | done => simp
  | call asks later ih =>
      intro event member
      rcases List.mem_append.mp member with asked | inRest
      · rename_i operation _ _
        cases operation with
        | nextFrame => exact (asks.choose_spec.allCalls processNextFrame_noChallenge).1 event asked
        | pairing isInitiator => exact (asks.choose_spec.allCalls executePairing_noChallenge).1 event asked
      · exact ih event inRest
  | other unsigned later ih =>
      exact List.forall_mem_cons.mpr ⟨fun _ _ => unsigned _, ih⟩

/-- Only a connection that greeted as a client signs a challenge: the one over its
    own nonce and the nonce of the greeting it answered. -/
theorem Program.Follows.answers {program : Program} (follows : program.Follows events)
    (signs : ⟨.host (.sign (handshakeChallenge clientNonce serverNonce)), signature⟩ ∈ events) :
    ∃ greeting, program.Answers events clientNonce greeting ∧ greeting.serverNonce = serverNonce := by
  have extend : ∀ {opening later greeting}, program.Answers opening clientNonce greeting →
      program.Answers (opening ++ later) clientNonce greeting := by
    rintro opening later greeting ⟨client, own, rest, rfl⟩
    exact ⟨client, own, rest ++ later, rfl⟩
  cases program with
  | server endpoint =>
      rcases follows with ⟨q, run⟩ | ⟨self, opening, later, rfl, run, operations⟩
      · exact (((run.allCalls serverHandshake_plain).1 _ signs).2 _ _ rfl).elim
      · rcases List.mem_append.mp signs with early | late
        · exact (((run.allCalls serverHandshake_plain).1 _ early).2 _ _ rfl).elim
        · exact (operations_noChallenge operations _ late _ _ rfl).elim
  | client endpoint =>
      rcases follows with ⟨q, run⟩ | ⟨self, opening, later, rfl, run, operations⟩
      · exact clientHandshake_signs run signs
      · rcases List.mem_append.mp signs with early | late
        · obtain ⟨greeting, answers, server⟩ := clientHandshake_signs run early
          exact ⟨greeting, extend answers, server⟩
        · exact (operations_noChallenge operations _ late _ _ rfl).elim
  | connect clientKey deviceName =>
      rcases follows with ⟨q, run⟩ | ⟨hello, opening, later, rfl, run, unsigned⟩
      · exact connectAndHandshake_signs run signs
      · rcases List.mem_append.mp signs with early | late
        · obtain ⟨greeting, answers, server⟩ := connectAndHandshake_signs run early
          exact ⟨greeting, extend answers, server⟩
        · exact (unsigned _ late _ rfl).elim

end Signing

end BridgeOS.Session
