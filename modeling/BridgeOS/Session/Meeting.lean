import BridgeOS.Session.Player

/-! # Two handshakes meet

One device calls `client_handshake` and the other `server_handshake`, over a stream that
delivers every frame once and in order. The server tells the client that it is accepted before
it asks its own trust store, and the client asks its own. So what becomes of either call is up
to the store on its own side.
-/

namespace BridgeOS.Session

open BridgeOS.Transport Proc

section Admission

variable [Crypto] {σ : Type}

/-- What a handshake makes of the answer of the trust store. -/
def admission (store : TrustStore) (nodeId : NodeId) (key : PublicKey) : SessionProc SessionState :=
  match store.isTrusted nodeId key with
  | .ok true => .ok .trusted
  | .ok false => .ok .authenticatedUntrusted
  | .error (.keyMismatch nodeId expected presented) => .error (.keyMismatch nodeId.toHex expected presented)
  | .error (.peerRevoked id) => .error (.peerRevoked id.toHex)
  | .error e => .error (.identity e)

/-- The store after that: a peer that is trusted has been seen. -/
def consulted (store : TrustStore) (nodeId : NodeId) (key : PublicKey) (now : UInt64) : TrustStore :=
  match store.isTrusted nodeId key with
  | .ok true => store.updateLastSeen nodeId now
  | _ => store

theorem finished_admission {α : Type} (store : TrustStore) (nodeId : NodeId) (key : PublicKey)
    (f : SessionState → α) : Finished (admission store nodeId key >>= fun state => .ok (f state)) := by
  unfold admission
  split <;> trivial

omit [Crypto] in
theorem exists_encode_disconnect (reason : DisconnectReason) :
    ∃ bytes, encodeFrame (.control (.disconnect reason)) = .ok bytes := by
  cases reason <;> exact ⟨_, rfl⟩

/-- A peer that is turned away is told so. -/
theorem Player.consults (player : Player σ) (nodeId : NodeId) (key : PublicKey)
    (next : SessionState → SessionProc ActiveSession) (seat : Seat σ) :
    ∃ sent seat', player.desk.party.Goes (consultTrustStore nodeId key >>= next, seat) sent
        (admission seat.world.store nodeId key >>= next, seat') ∧
      seat'.world.store = consulted seat.world.store nodeId key (player.clock seat.ticks) := by
  have asked : player.desk.reply seat (.isTrusted nodeId key) =
      some (.answer (seat.world.store.isTrusted nodeId key) seat []) := rfl
  obtain ⟨bytes, encoded⟩ := exists_encode_disconnect .authenticationFailed
  unfold admission consulted
  cases answer : seat.world.store.isTrusted nodeId key with
  | ok trusted =>
      rw [answer] at asked
      cases trusted with
      | false =>
          have run : Runs (consultTrustStore nodeId key) [⟨.isTrusted nodeId key, .ok false⟩]
              (.ok .authenticatedUntrusted) := .ask (.stop _)
          exact ⟨_, _, Desk.Serves.goes (.quiet asked .nil) (run.bind next), rfl⟩
      | true =>
          have run : Runs (consultTrustStore nodeId key) [⟨.isTrusted nodeId key, .ok true⟩,
              ⟨.host .now, player.clock seat.ticks⟩,
              ⟨.updateLastSeen nodeId (player.clock seat.ticks), .ok ()⟩] (.ok .trusted) :=
            .ask (.ask (.ask (.stop _)))
          exact ⟨_, _, Desk.Serves.goes (.quiet asked (.quiet rfl (.quiet rfl .nil))) (run.bind next), rfl⟩
  | error e =>
      rw [answer] at asked
      cases e with
      | keyMismatch n expected presented =>
          have run : Runs (consultTrustStore nodeId key)
              [⟨.isTrusted nodeId key, .error (.keyMismatch n expected presented)⟩,
                ⟨.send (.control (.disconnect .authenticationFailed)), .ok ()⟩]
              (.error (.keyMismatch n.toHex expected presented)) := .ask (.ask (.stop _))
          exact ⟨_, _, Desk.Serves.goes (.quiet asked (.sends (reply_send encoded) .nil)) (run.bind next), rfl⟩
      | peerRevoked id =>
          have run : Runs (consultTrustStore nodeId key) [⟨.isTrusted nodeId key, .error (.peerRevoked id)⟩,
                ⟨.send (.control (.disconnect .authenticationFailed)), .ok ()⟩]
              (.error (.peerRevoked id.toHex)) := .ask (.ask (.stop _))
          exact ⟨_, _, Desk.Serves.goes (.quiet asked (.sends (reply_send encoded) .nil)) (run.bind next), rfl⟩
      | _ =>
          exact ⟨_, _, Desk.Serves.goes (.quiet asked .nil)
            ((Runs.ask (.stop _) : Runs (consultTrustStore nodeId key) _ _).bind next), rfl⟩

end Admission

section Meetings

variable [Crypto] {σ : Type}

/-- A machine that takes part in handshakes, with what its random numbers and its clock will
    read and what its user will answer. -/
structure Device (σ : Type) where
  endpoint : Endpoint
  blake3 : Bytes → FixedBytes 32
  backend : Clipboard.ClipboardBackend σ
  user : Bool
  random : Nat → FixedBytes 32
  clock : Nat → UInt64

def Device.player (device : Device σ) (self : ActiveSession) : Player σ :=
  ⟨self, device.blake3, device.backend, device.user, device.random, device.clock⟩

/-- Two devices, and the worlds their calls begin in. -/
structure Meeting (σ : Type) where
  guest : Device σ
  host : Device σ
  guestWorld : World σ
  hostWorld : World σ

namespace Meeting

variable (meeting : Meeting σ)

def clientHello : ClientHello :=
  ⟨.current, meeting.guest.endpoint.localIdentity.nodeId, meeting.guest.endpoint.localName,
    meeting.guest.random 0, .all⟩

def serverHello : ServerHello :=
  ⟨.current, meeting.host.endpoint.localIdentity.nodeId, meeting.host.endpoint.localName,
    meeting.host.random 0, Capabilities.intersect .all .all⟩

/-- The session of the client, if its store says so. -/
def guestSession (state : SessionState) : ActiveSession :=
  clientSession meeting.guest.endpoint meeting.serverHello meeting.host.endpoint.localIdentity.publicKey state

def hostSession (state : SessionState) : ActiveSession :=
  serverSession meeting.host.endpoint meeting.clientHello meeting.guest.endpoint.localIdentity.publicKey state

/-- Before there is a session, what a desk answers does not depend on one. -/
def guestPlayer : Player σ := meeting.guest.player (meeting.guestSession .handshaking)

def hostPlayer : Player σ := meeting.host.player (meeting.hostSession .handshaking)

/-- What is left of either call, and the seat it is made from. -/
abbrev State (σ : Type) := (SessionProc ActiveSession × Seat σ) × (SessionProc ActiveSession × Seat σ)

def start : State σ :=
  ((clientHandshake meeting.guest.endpoint, ⟨meeting.guestWorld, [], 0, 0⟩),
    (serverHandshake meeting.host.endpoint, ⟨meeting.hostWorld, [], 0, 0⟩))

abbrev Step : State σ → State σ → Prop :=
  Dialogue.Step meeting.guestPlayer.desk.party meeting.hostPlayer.desk.party

def Reachable (s : State σ) : Prop := Relation.ReflTransGen meeting.Step meeting.start s

def Final (s : State σ) : Prop := Finished s.1.1 ∧ Finished s.2.1

/-- Each call returns what the store of its own side says of the other side, and that store
    has changed at most in when the other side was seen. -/
structure Met (s : State σ) : Prop where
  guest : s.1.1 = admission meeting.guestWorld.store meeting.host.endpoint.localIdentity.nodeId
    meeting.host.endpoint.localIdentity.publicKey >>= fun state => .ok (meeting.guestSession state)
  host : s.2.1 = admission meeting.hostWorld.store meeting.guest.endpoint.localIdentity.nodeId
    meeting.guest.endpoint.localIdentity.publicKey >>= fun state => .ok (meeting.hostSession state)
  guestStore : s.1.2.world.store = consulted meeting.guestWorld.store
    meeting.host.endpoint.localIdentity.nodeId meeting.host.endpoint.localIdentity.publicKey (meeting.guest.clock 0)
  hostStore : s.2.2.world.store = consulted meeting.hostWorld.store
    meeting.guest.endpoint.localIdentity.nodeId meeting.guest.endpoint.localIdentity.publicKey (meeting.host.clock 0)

variable {meeting}

theorem runs_clientHandshake_to_store {endpoint : Endpoint} (nonce : FixedBytes 32) (hello : ServerHello)
    {key : PublicKey} (signature : FixedBytes 64) (made : PublicKey.fromBytes hello.nodeId.bytes = .ok key) :
    Runs (clientHandshake endpoint)
      ([⟨.host .random, nonce⟩,
        ⟨.send (clientHelloFrame endpoint.localIdentity endpoint.localName nonce), .ok ()⟩] ++
      ([⟨.recv, .ok (some (.handshake (.serverHello hello)))⟩,
        ⟨.host (.sign (handshakeChallenge nonce hello.serverNonce)), signature⟩,
        ⟨.send (.handshake (.authResponse ⟨signature⟩)), .ok ()⟩] ++
      [⟨.recv, .ok (some (.handshake (.authResult .accepted)))⟩]))
      (consultTrustStore hello.nodeId key >>= fun state => .ok (clientSession endpoint hello key state)) := by
  have hellos : Runs (exchangeHellos endpoint.localIdentity endpoint.localName SessionError.transport
      SessionError.transport (.closed "Server disconnected before ServerHello")
      (SessionError.expectedFrame "ServerHello"))
      [⟨.host .random, nonce⟩,
        ⟨.send (clientHelloFrame endpoint.localIdentity endpoint.localName nonce), .ok ()⟩,
        ⟨.recv, .ok (some (.handshake (.serverHello hello)))⟩] (.ok (nonce, hello)) :=
    runs_exchangeHellos_ok.mpr rfl
  refine (hellos.bind _).append ?_
  simp only [ok_bind, made, orFail_ok, onHost, signHandshakeChallenge, lift_request, ask_bind]
  refine .ask ?_
  simp only [awaitVerdict, sendFrame, recvFrame, request_bind, ask_bind]
  exact .ask (.ask (.stop _))

theorem runs_serverHandshake_to_store {endpoint : Endpoint} (hello : ClientHello) (nonce : FixedBytes 32)
    {key : PublicKey} (response : AuthResponse) (made : PublicKey.fromBytes hello.nodeId.bytes = .ok key) :
    Runs (serverHandshake endpoint)
      ([⟨.recv, .ok (some (.handshake (.clientHello hello)))⟩, ⟨.host .random, nonce⟩,
        ⟨.send (serverHelloFrame endpoint hello nonce), .ok ()⟩] ++
      [⟨.recv, .ok (some (.handshake (.authResponse response)))⟩,
        ⟨.host (.verify key (handshakeChallenge hello.clientNonce nonce) response.signature), .ok ()⟩,
        ⟨.send (.handshake (.authResult .accepted)), .ok ()⟩])
      (consultTrustStore hello.nodeId key >>= fun state => .ok (serverSession endpoint hello key state)) :=
  runs_serverHandshake_of_consulted hello nonce response made (.stop _)

theorem exists_met {bytes bytes' : Bytes}
    (greets : encodeFrame (.handshake (.clientHello meeting.clientHello)) = .ok bytes)
    (answers : encodeFrame (.handshake (.serverHello meeting.serverHello)) = .ok bytes') :
    ∃ s, meeting.Reachable s ∧ Final s ∧ meeting.Met s := by
  let left : Party (SessionProc ActiveSession × Seat σ) Frame := meeting.guestPlayer.desk.party
  let right : Party (SessionProc ActiveSession × Seat σ) Frame := meeting.hostPlayer.desk.party
  let signature := meeting.guest.endpoint.localIdentity.sign
    (Crypto.sha256 (handshakeChallenge (meeting.guest.random 0) (meeting.host.random 0))).bytes
  have clientKey : PublicKey.fromBytes meeting.clientHello.nodeId.bytes =
      .ok meeting.guest.endpoint.localIdentity.publicKey := PublicKey.fromBytes_eq_ok.mpr rfl
  have serverKey : PublicKey.fromBytes meeting.serverHello.nodeId.bytes =
      .ok meeting.host.endpoint.localIdentity.publicKey := PublicKey.fromBytes_eq_ok.mpr rfl
  have verified := meeting.guest.endpoint.localIdentity.verify_sign
    (Crypto.sha256 (handshakeChallenge (meeting.guest.random 0) (meeting.host.random 0))).bytes
  have visiting : Runs (clientHandshake meeting.guest.endpoint) _ _ :=
    runs_clientHandshake_to_store (meeting.guest.random 0) meeting.serverHello signature serverKey
  have serving : Runs (serverHandshake meeting.host.endpoint) _ _ :=
    runs_serverHandshake_to_store meeting.clientHello (meeting.host.random 0) ⟨signature⟩ clientKey
  obtain ⟨p, greeting, later⟩ := visiting.split
  obtain ⟨q, proving, hearing⟩ := later.split
  obtain ⟨r, answering, accepting⟩ := serving.split
  have greeted : left.Goes (clientHandshake meeting.guest.endpoint, ⟨meeting.guestWorld, [], 0, 0⟩)
      [.handshake (.clientHello meeting.clientHello)] (p, ⟨meeting.guestWorld, [], 1, 0⟩) :=
    Desk.Serves.goes (.quiet rfl (.sends (Player.reply_send greets) .nil)) greeting
  have answered : right.Goes (serverHandshake meeting.host.endpoint,
      ⟨meeting.hostWorld, [.handshake (.clientHello meeting.clientHello)], 0, 0⟩)
      [.handshake (.serverHello meeting.serverHello)] (r, ⟨meeting.hostWorld, [], 1, 0⟩) :=
    Desk.Serves.goes (.quiet rfl (.quiet rfl (.sends (Player.reply_send answers) .nil))) answering
  obtain ⟨_, proofFits⟩ : ∃ bytes, encodeFrame (.handshake (.authResponse ⟨signature⟩)) = .ok bytes :=
    exists_encodeFrame (le_trans (length_encode_authResponse _) (by decide))
  have proved : left.Goes (p, ⟨meeting.guestWorld, [.handshake (.serverHello meeting.serverHello)], 1, 0⟩)
      [.handshake (.authResponse ⟨signature⟩)] (q, ⟨meeting.guestWorld, [], 1, 0⟩) :=
    Desk.Serves.goes (.quiet rfl (.quiet rfl (.sends (Player.reply_send proofFits) .nil))) proving
  have checked : meeting.hostPlayer.desk.reply ⟨meeting.hostWorld, [], 1, 0⟩
      (.host (.verify meeting.guest.endpoint.localIdentity.publicKey
        (handshakeChallenge (meeting.guest.random 0) (meeting.host.random 0)) signature)) =
      some (.answer (.ok ()) ⟨meeting.hostWorld, [], 1, 0⟩ []) := by
    rw [← verified]
    rfl
  have accepted : right.Goes (r, ⟨meeting.hostWorld, [.handshake (.authResponse ⟨signature⟩)], 1, 0⟩)
      [.handshake (.authResult .accepted)] (_, ⟨meeting.hostWorld, [], 1, 0⟩) :=
    Desk.Serves.goes (.quiet rfl (.quiet checked (.sends (Player.reply_send rfl) .nil))) accepting
  have heard : left.Goes (q, ⟨meeting.guestWorld, [.handshake (.authResult .accepted)], 1, 0⟩)
      [] (_, ⟨meeting.guestWorld, [], 1, 0⟩) := Desk.Serves.goes (.quiet rfl .nil) hearing
  -- the client asks its store first
  obtain ⟨goodbye, a, admitted, storeA⟩ := meeting.guestPlayer.consults _ _ _ _
  obtain ⟨_, b, letIn, storeB⟩ := meeting.hostPlayer.consults _ _ _ ⟨meeting.hostWorld, goodbye, 1, 0⟩
  have first := Dialogue.steps_left right greeted
    (serverHandshake meeting.host.endpoint, ⟨meeting.hostWorld, [], 0, 0⟩)
  have second := first.trans (Dialogue.steps_right left answered _)
  have third := second.trans (Dialogue.steps_left right proved _)
  have fourth := third.trans (Dialogue.steps_right left accepted _)
  have fifth := fourth.trans (Dialogue.steps_left right heard _)
  have sixth := fifth.trans (Dialogue.steps_left right admitted _)
  have last := sixth.trans (Dialogue.steps_right left letIn _)
  exact ⟨_, last, ⟨finished_admission _ _ _ _, finished_admission _ _ _ _⟩, rfl, rfl, storeA, storeB⟩

theorem not_step_of_final {s : State σ} (final : Final s) (s' : State σ) : ¬ meeting.Step s s' := by
  obtain ⟨⟨p, a⟩, q, b⟩ := s
  intro step
  cases step with
  | left moved =>
      cases p with
      | ok self => cases moved
      | error e => cases moved
      | ask c next => exact final.1
  | right moved =>
      cases q with
      | ok self => cases moved
      | error e => cases moved
      | ask c next => exact final.2

/-- Whatever order the two sides take turns in, neither is stuck before both calls have returned,
    there is a way to that, and then each side has been let in or turned away by its own
    store, whatever the other store says. -/
theorem handshakes_meet (meeting : Meeting σ)
    (greets : ∃ bytes, encodeFrame (.handshake (.clientHello meeting.clientHello)) = .ok bytes)
    (answers : ∃ bytes, encodeFrame (.handshake (.serverHello meeting.serverHello)) = .ok bytes)
    (s : State σ) (reached : meeting.Reachable s) :
    (¬ Final s → ∃ s', meeting.Step s s') ∧ (∃ s', Relation.ReflTransGen meeting.Step s s' ∧ Final s') ∧
      (Final s → meeting.Met s) := by
  obtain ⟨_, greets⟩ := greets
  obtain ⟨_, answers⟩ := answers
  obtain ⟨last, ends, final, met⟩ := exists_met greets answers
  refine ⟨?_, ⟨last, Dialogue.steps_to_end reached ends (not_step_of_final final), final⟩, ?_⟩
  · intro waits
    rcases Dialogue.eq_end_or_step reached ends (not_step_of_final final) with rfl | onward
    · exact absurd final waits
    · exact onward
  · intro finished
    rcases Dialogue.eq_end_or_step reached ends (not_step_of_final final) with rfl | ⟨s', step⟩
    · exact met
    · exact absurd step (not_step_of_final finished s')

end Meeting

end Meetings

section Example

attribute [local instance] transparentCrypto

/-- A laptop visits a tower, and neither has the other in its store. -/
def exampleMeeting (laptop tower : TrustStore) : Meeting (Option Clipboard.ClipboardContent) :=
  let device (key : IdentityKey) (name : String) (nonce : UInt8) : Device (Option Clipboard.ClipboardContent) :=
    ⟨⟨key, name, .linux, false, none⟩, fun _ => .fill 32 0, Clipboard.memoryBackend, true, fun _ => .fill 32 nonce,
      fun _ => 0⟩
  let world (key : IdentityKey) (store : TrustStore) : World (Option Clipboard.ClipboardContent) :=
    ⟨.handshaking, store, ⟨key.nodeId, .new 256, .default, none⟩, .empty⟩
  ⟨device ⟨.fill 32 1⟩ "laptop" 3, device ⟨.fill 32 2⟩ "tower" 4, world ⟨.fill 32 1⟩ laptop, world ⟨.fill 32 2⟩ tower⟩

theorem exampleMeeting_greets (laptop tower : TrustStore) :
    ∃ bytes, encodeFrame (.handshake (.clientHello (exampleMeeting laptop tower).clientHello)) = .ok bytes :=
  ⟨_, rfl⟩

theorem exampleMeeting_answers (laptop tower : TrustStore) :
    ∃ bytes, encodeFrame (.handshake (.serverHello (exampleMeeting laptop tower).serverHello)) = .ok bytes :=
  ⟨_, rfl⟩

theorem strangers_meet : ∃ s, (exampleMeeting ∅ ∅).Reachable s ∧ Meeting.Final s ∧ (exampleMeeting ∅ ∅).Met s := by
  have meet := Meeting.handshakes_meet (exampleMeeting ∅ ∅) (exampleMeeting_greets ∅ ∅) (exampleMeeting_answers ∅ ∅)
  obtain ⟨s, reached, final⟩ := (meet _ .refl).2.1
  exact ⟨s, reached, final, (meet s reached).2.2 final⟩

end Example

end BridgeOS.Session
