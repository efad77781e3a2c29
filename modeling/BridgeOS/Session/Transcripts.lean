import BridgeOS.Session.Ceremony

/-! # What successful runs look like

For each program of a session: the questions and answers of exactly those runs
that end with a result. Everything later argues from these lists.
-/

namespace BridgeOS.Session

open Proc PairingSession

variable [Crypto]

section Steps

variable {events : List SessionEvent}

theorem runs_sendFrame_ok {frame : Frame} {u : Unit} :
    Runs (sendFrame frame) events (.ok u) ↔ events = [⟨.send frame, .ok ()⟩] := by
  simp only [sendFrame, request_bind, runs_ask_ok]
  constructor
  · rintro ⟨sent, rest, rfl, run⟩
    cases sent with
    | error e => simp at run
    | ok v =>
        obtain ⟨rfl, -⟩ := runs_ok.mp run
        rfl
  · rintro rfl
    exact ⟨_, _, rfl, runs_ok.mpr ⟨rfl, rfl⟩⟩

theorem runs_recvFrame_ok {ended : String} {frame : Frame} :
    Runs (recvFrame ended) events (.ok frame) ↔ events = [⟨.recv, .ok (some frame)⟩] := by
  simp only [recvFrame, request_bind, runs_ask_ok]
  constructor
  · rintro ⟨received, rest, rfl, run⟩
    rcases received with e | _ | got
    · simp at run
    · simp at run
    · simp only [pure_eq, runs_ok, Proc.ok.injEq] at run
      obtain ⟨rfl, rfl⟩ := run
      rfl
  · rintro rfl
    exact ⟨_, _, rfl, runs_ok.mpr ⟨rfl, rfl⟩⟩

theorem runs_consultTrustStore_ok {nodeId : NodeId} {key : PublicKey} {state : SessionState} :
    Runs (consultTrustStore nodeId key) events (.ok state) ↔
      (∃ timestamp updated, events = [⟨.isTrusted nodeId key, .ok true⟩, ⟨.host .now, timestamp⟩,
          ⟨.updateLastSeen nodeId timestamp, updated⟩] ∧ state = .trusted) ∨
        events = [⟨.isTrusted nodeId key, .ok false⟩] ∧ state = .authenticatedUntrusted := by
  simp only [consultTrustStore, request_bind, runs_ask_ok]
  constructor
  · rintro ⟨answer, rest, rfl, run⟩
    rcases answer with e | _ | _
    · cases e <;> simp [runs_ask_ok] at run
    · simp only [pure_eq, runs_ok, Proc.ok.injEq] at run
      obtain ⟨rfl, rfl⟩ := run
      exact .inr ⟨rfl, rfl⟩
    · simp only [runs_ask_ok, pure_eq, runs_ok, Proc.ok.injEq] at run
      obtain ⟨timestamp, _, rfl, updated, _, rfl, rfl, rfl⟩ := run
      exact .inl ⟨timestamp, updated, rfl, rfl⟩
  · rintro (⟨timestamp, updated, rfl, rfl⟩ | ⟨rfl, rfl⟩)
    · exact ⟨_, _, rfl, .ask (.ask (.stop _))⟩
    · exact ⟨_, _, rfl, .stop _⟩

end Steps

section Handshakes

variable {endpoint : Endpoint} {events : List SessionEvent} {session : ActiveSession}

/-- The client's first message. -/
def clientHelloFrame (identity : IdentityKey) (name : String) (clientNonce : FixedBytes 32) : Frame :=
  .handshake (.clientHello
    { version := .current
      nodeId := identity.nodeId
      deviceName := name
      clientNonce
      capabilities := .all })

theorem runs_exchangeHellos_ok {ε : Type} {identity : IdentityKey} {name : String}
    {sending receiving : BridgeError → ε} {ended : ε} {unexpected : Frame → ε}
    {result : FixedBytes 32 × ServerHello} :
    Runs (exchangeHellos identity name sending receiving ended unexpected) events (.ok result) ↔
      events = [⟨.host .random, result.1⟩, ⟨.send (clientHelloFrame identity name result.1), .ok ()⟩,
        ⟨.recv, .ok (some (.handshake (.serverHello result.2)))⟩] := by
  simp only [exchangeHellos, request_bind, runs_ask_ok]
  constructor
  · rintro ⟨nonce, _, rfl, sent, _, rfl, run⟩
    cases sent with
    | error e => simp at run
    | ok =>
        simp only [orFail_ok, ok_bind, runs_ask_ok] at run
        obtain ⟨received, _, rfl, run⟩ := run
        rcases received with e | _ | ((_ | hello | _ | _) | _ | _) <;> try simp at run
        obtain ⟨rfl, rfl⟩ := run
        rfl
  · rintro rfl
    exact ⟨_, _, rfl, _, _, rfl, .ask (.stop _)⟩

/-- The session a client ends up with is made from the server's greeting alone. -/
def clientSession (endpoint : Endpoint) (hello : ServerHello) (remotePubkey : PublicKey)
    (state : SessionState) : ActiveSession :=
  { localIdentity := endpoint.localIdentity
    localName := endpoint.localName
    localDeviceType := .unknown
    remoteNodeId := hello.nodeId
    remotePubkey
    remoteName := hello.deviceName
    remoteDeviceType := .unknown
    state
    clipboardEngine := endpoint.clipboardEngine
    receiveDir := endpoint.receiveDir }

theorem runs_awaitVerdict_ok {hello : ServerHello} {key : PublicKey} {signature : FixedBytes 64} :
    Runs (awaitVerdict endpoint hello key signature) events (.ok session) ↔
      ∃ result trust state,
        events = ⟨.send (.handshake (.authResponse ⟨signature⟩)), .ok ()⟩ ::
          ⟨.recv, .ok (some (.handshake (.authResult result)))⟩ :: trust ∧
        result.success = true ∧ Runs (consultTrustStore hello.nodeId key) trust (.ok state) ∧
        session = clientSession endpoint hello key state := by
  constructor
  · intro run
    simp only [awaitVerdict, runs_bind_ok, runs_sendFrame_ok, runs_recvFrame_ok] at run
    obtain ⟨-, _, _, rfl, rfl, frame, _, _, rfl, rfl, run⟩ := run
    rcases frame with (_ | _ | _ | result) | _ | _ <;> try simp at run
    split at run
    · simp at run
    · rename_i accepted
      obtain ⟨state, trust, _, rfl, consulted, ended⟩ := runs_bind_ok.mp run
      simp only [runs_ok, Proc.ok.injEq] at ended
      obtain ⟨rfl, rfl⟩ := ended
      simp only [List.append_nil]
      exact ⟨result, trust, state, rfl, by simpa using accepted, consulted, rfl⟩
  · rintro ⟨result, trust, state, rfl, accepted, consulted, rfl⟩
    simp only [awaitVerdict, sendFrame, recvFrame, request_bind, ask_bind]
    refine .ask (.ask ?_)
    simp only [pure_eq, ok_bind, accepted, Bool.not_true, Bool.false_eq_true, if_false]
    exact runs_bind_ok.mpr ⟨state, trust, [], (List.append_nil _).symm, consulted, .stop _⟩

theorem runs_clientHandshake_ok : Runs (clientHandshake endpoint) events (.ok session) ↔
    ∃ nonce hello key signature result trust state,
      events = ⟨.host .random, nonce⟩ ::
        ⟨.send (clientHelloFrame endpoint.localIdentity endpoint.localName nonce), .ok ()⟩ ::
        ⟨.recv, .ok (some (.handshake (.serverHello hello)))⟩ ::
        ⟨.host (.sign (handshakeChallenge nonce hello.serverNonce)), signature⟩ ::
        ⟨.send (.handshake (.authResponse ⟨signature⟩)), .ok ()⟩ ::
        ⟨.recv, .ok (some (.handshake (.authResult result)))⟩ :: trust ∧
      PublicKey.fromBytes hello.nodeId.bytes = .ok key ∧ result.success = true ∧
      Runs (consultTrustStore hello.nodeId key) trust (.ok state) ∧
      session = clientSession endpoint hello key state := by
  constructor
  · intro whole
    obtain ⟨⟨nonce, hello⟩, _, _, rfl, greeted, run⟩ := runs_bind_ok.mp whole
    obtain rfl := runs_exchangeHellos_ok.mp greeted
    cases made : PublicKey.fromBytes hello.nodeId.bytes with
    | error e => simp [made] at run
    | ok key =>
        simp only [made, orFail_ok, ok_bind, onHost, signHandshakeChallenge, lift_request, ask_bind,
          runs_ask_ok, runs_awaitVerdict_ok] at run
        obtain ⟨signature, _, rfl, result, trust, state, rfl, accepted, consulted, rfl⟩ := run
        exact ⟨nonce, hello, key, signature, result, trust, state, rfl, made, accepted, consulted, rfl⟩
  · rintro ⟨nonce, hello, key, signature, result, trust, state, rfl, made, accepted, consulted, rfl⟩
    refine runs_bind_ok.mpr ⟨(nonce, hello), [_, _, _], _, rfl, runs_exchangeHellos_ok.mpr rfl, ?_⟩
    simp only [made, orFail_ok, ok_bind, onHost, signHandshakeChallenge, lift_request, ask_bind]
    exact .ask (runs_awaitVerdict_ok.mpr ⟨result, trust, state, rfl, accepted, consulted, rfl⟩)

/-- The server's greeting. -/
def serverHelloFrame (endpoint : Endpoint) (hello : ClientHello) (serverNonce : FixedBytes 32) : Frame :=
  .handshake (.serverHello
    { agreedVersion := .current
      nodeId := endpoint.localIdentity.nodeId
      deviceName := endpoint.localName
      serverNonce
      negotiatedCapabilities := hello.capabilities.intersect .all })

def serverSession (endpoint : Endpoint) (hello : ClientHello) (remotePubkey : PublicKey)
    (state : SessionState) : ActiveSession :=
  { localIdentity := endpoint.localIdentity
    localName := endpoint.localName
    localDeviceType := endpoint.localDeviceType
    remoteNodeId := hello.nodeId
    remotePubkey
    remoteName := hello.deviceName
    remoteDeviceType := .unknown
    state
    clipboardEngine := endpoint.clipboardEngine
    receiveDir := endpoint.receiveDir }

/-- A server that is answered well gets to ask the trust store. -/
theorem runs_serverHandshake_of_consulted {key : PublicKey} {trust : List SessionEvent}
    {q : SessionProc SessionState} (hello : ClientHello) (nonce : FixedBytes 32) (response : AuthResponse)
    (made : PublicKey.fromBytes hello.nodeId.bytes = .ok key)
    (consulted : Runs (consultTrustStore hello.nodeId key) trust q) :
    Runs (serverHandshake endpoint)
      (⟨.recv, .ok (some (.handshake (.clientHello hello)))⟩ :: ⟨.host .random, nonce⟩ ::
        ⟨.send (serverHelloFrame endpoint hello nonce), .ok ()⟩ ::
        ⟨.recv, .ok (some (.handshake (.authResponse response)))⟩ ::
        ⟨.host (.verify key (handshakeChallenge hello.clientNonce nonce) response.signature), .ok ()⟩ ::
        ⟨.send (.handshake (.authResult .accepted)), .ok ()⟩ :: trust)
      (q >>= fun state => .ok (serverSession endpoint hello key state)) := by
  simp only [serverHandshake, sendFrame, recvFrame, request_bind, ask_bind]
  refine .ask ?_
  simp only [pure_eq, ok_bind, made, orFail_ok]
  refine .ask (.ask (.ask ?_))
  simp only [ok_bind, onHost, verifyHandshakeChallenge, lift_request, ask_bind]
  refine .ask (.ask ?_)
  simp only [orFail_ok, ok_bind]
  exact consulted.bind _

theorem runs_serverHandshake_ok : Runs (serverHandshake endpoint) events (.ok session) ↔
    ∃ hello key nonce response trust state,
      events = ⟨.recv, .ok (some (.handshake (.clientHello hello)))⟩ :: ⟨.host .random, nonce⟩ ::
        ⟨.send (serverHelloFrame endpoint hello nonce), .ok ()⟩ ::
        ⟨.recv, .ok (some (.handshake (.authResponse response)))⟩ ::
        ⟨.host (.verify key (handshakeChallenge hello.clientNonce nonce) response.signature), .ok ()⟩ ::
        ⟨.send (.handshake (.authResult .accepted)), .ok ()⟩ :: trust ∧
      PublicKey.fromBytes hello.nodeId.bytes = .ok key ∧
      Runs (consultTrustStore hello.nodeId key) trust (.ok state) ∧
      session = serverSession endpoint hello key state := by
  constructor
  · intro run
    simp only [serverHandshake, runs_bind_ok, runs_recvFrame_ok] at run
    obtain ⟨frame, _, _, rfl, rfl, run⟩ := run
    rcases frame with (hello | _ | _ | _) | _ | _ <;> try simp at run
    cases made : PublicKey.fromBytes hello.nodeId.bytes with
    | error e => simp [made] at run
    | ok key =>
        simp only [made, orFail_ok, ok_bind, runs_ask_ok, runs_bind_ok, runs_sendFrame_ok,
          runs_recvFrame_ok] at run
        obtain ⟨nonce, _, rfl, -, _, _, rfl, rfl, frame, _, _, rfl, rfl, run⟩ := run
        rcases frame with (_ | _ | response | _) | _ | _ <;> try simp at run
        simp only [onHost, verifyHandshakeChallenge, lift_request, ask_bind, ok_bind,
          runs_ask_ok] at run
        obtain ⟨verified, _, rfl, run⟩ := run
        cases verified with
        | error e => simp [runs_ask_ok] at run
        | ok v =>
            simp only [runs_bind_ok, runs_sendFrame_ok, runs_ok, Proc.ok.injEq] at run
            obtain ⟨-, _, _, rfl, rfl, state, trust, _, rfl, consulted, rfl, rfl⟩ := run
            simp only [List.append_nil]
            exact ⟨hello, key, nonce, response, trust, state, rfl, made, consulted, rfl⟩
  · rintro ⟨hello, key, nonce, response, trust, state, rfl, made, consulted, rfl⟩
    exact runs_serverHandshake_of_consulted hello nonce response made consulted

end Handshakes

section Pairing

variable {self : ActiveSession} {events : List SessionEvent} {sas result : SasVerification}

theorem runs_recvPairingMessage_ok {message : PairingMessage} :
    Runs recvPairingMessage events (.ok message) ↔
      ∃ frame, events = [⟨.recvData DataFrame.channelPairing, .ok frame⟩] ∧
        PairingMessage.fromDataFrame frame = .ok message := by
  simp only [recvPairingMessage, request_bind, runs_ask_ok]
  constructor
  · rintro ⟨received, rest, rfl, run⟩
    cases received with
    | error e => simp at run
    | ok frame =>
        cases decoded : PairingMessage.fromDataFrame frame with
        | error e => simp [decoded] at run
        | ok found =>
            simp only [orFail_ok, ok_bind, decoded, runs_ok, Proc.ok.injEq] at run
            obtain ⟨rfl, rfl⟩ := run
            exact ⟨frame, rfl, decoded⟩
  · rintro ⟨frame, rfl, decoded⟩
    refine ⟨_, _, rfl, ?_⟩
    simp only [orFail_ok, ok_bind, decoded]
    exact .stop _

theorem runs_sendPairingMessage_ok {message : PairingMessage} {u : Unit} :
    Runs (sendPairingMessage message) events (.ok u) ↔
      events = [⟨.send (.data message.toDataFrame), .ok ()⟩] := runs_sendFrame_ok

theorem runs_finalize_ok {session : PairingSession} {remote peer : TrustedPeer}
    {confirmation : PairingConfirm} (derived : session.sas = some sas)
    (present : session.remotePeer = some remote) :
    Runs (onHost (session.finalize confirmation)) events (.ok peer) ↔
      ∃ signature,
        events = [⟨.host (.verify remote.publicKey (session.confirmationText sas) signature),
          .ok ()⟩] ∧
        confirmation.confirmed = true ∧ confirmation.nodeId = remote.nodeId ∧
        FixedBytes.ofBytes? 64 confirmation.signature = some signature ∧
        peer = { remote with trustState := .trusted } := by
  constructor
  · intro run
    rw [onHost] at run
    rcases session.finalize_fails_or confirmation with ⟨e, failed⟩ | ⟨_, _, signature, acceptable⟩
    · rw [failed] at run
      cases run
    · cases derived.symm.trans acceptable.derived
      cases present.symm.trans acceptable.present
      rw [acceptable.finalize_eq, lift_ask, runs_ask_ok] at run
      obtain ⟨verified, rest, rfl, run⟩ := run
      cases verified with
      | error e => cases run
      | ok u =>
          cases run
          exact ⟨signature, rfl, acceptable.confirmed, acceptable.named, acceptable.sized, rfl⟩
  · rintro ⟨signature, rfl, confirmed, named, sized, rfl⟩
    rw [onHost, PairingSession.Acceptable.finalize_eq ⟨derived, present, confirmed, named, sized⟩]
    exact .ask (.stop _)

/-- The peer's confirmation has to be for the identity it presented, over the text
    both sides derived, under the key it presented. -/
theorem runs_concludePairing_ok {session : PairingSession} {remote : TrustedPeer} {u : Unit}
    (derived : session.sas = some sas) (present : session.remotePeer = some remote) :
    Runs (concludePairing self session sas) events (.ok u) ↔
      ∃ own frame confirmation signature,
        events = [⟨.confirm sas self.remoteName, true⟩,
          ⟨.host (.sign (session.confirmationText sas)), own⟩,
          ⟨.send (.data (PairingMessage.confirm
            ⟨session.localKey.nodeId, true, own.bytes⟩).toDataFrame), .ok ()⟩,
          ⟨.recvData DataFrame.channelPairing, .ok frame⟩,
          ⟨.host (.verify remote.publicKey (session.confirmationText sas) signature), .ok ()⟩,
          ⟨.savePeer { remote with trustState := .trusted }, .ok ()⟩] ∧
        PairingMessage.fromDataFrame frame = .ok (.confirm confirmation) ∧
        confirmation.confirmed = true ∧ confirmation.nodeId = remote.nodeId ∧
        FixedBytes.ofBytes? 64 confirmation.signature = some signature := by
  constructor
  · intro run
    simp only [concludePairing, request_bind, runs_ask_ok] at run
    obtain ⟨answer, _, rfl, run⟩ := run
    cases answer with
    | false => simp [runs_ask_ok] at run
    | true =>
        simp only [Bool.not_true, Bool.false_eq_true, if_false, onHost, PairingSession.confirm, derived,
          request_bind, lift_ask, pure_eq, lift_ok, ask_bind, ok_bind, runs_ask_ok, runs_bind_ok,
          runs_sendPairingMessage_ok, runs_recvPairingMessage_ok] at run
        obtain ⟨own, _, rfl, -, _, _, rfl, rfl, message, _, _, rfl, ⟨frame, rfl, decoded⟩, run⟩ := run
        cases message with
        | request r => simp at run
        | response r => simp at run
        | failed reason => simp at run
        | confirm confirmation =>
            simp only [runs_bind_ok] at run
            obtain ⟨peer, _, _, rfl, finalized, run⟩ := run
            obtain ⟨signature, rfl, confirmed, named, sized, rfl⟩ :=
              (runs_finalize_ok derived present).mp finalized
            simp only [runs_ask_ok] at run
            obtain ⟨saved, _, rfl, run⟩ := run
            cases saved with
            | error e => simp at run
            | ok u =>
                obtain ⟨rfl, -⟩ := runs_ok.mp run
                exact ⟨own, frame, confirmation, signature, rfl, decoded, confirmed, named, sized⟩
  · rintro ⟨own, frame, confirmation, signature, rfl, decoded, confirmed, named, sized⟩
    have finalized := (runs_finalize_ok derived present).mpr
      ⟨signature, rfl, confirmed, named, sized, rfl⟩
    have received := runs_recvPairingMessage_ok.mpr ⟨frame, rfl, decoded⟩
    simp only [concludePairing, request_bind, onHost, PairingSession.confirm, derived, pure_eq,
      lift_ask, lift_ok, ask_bind, ok_bind, sendPairingMessage, sendFrame]
    refine .ask (.ask (.ask ?_))
    simp only [orFail_ok, ok_bind]
    refine runs_bind_ok.mpr ⟨_, _, _, (List.singleton_append).symm, received, ?_⟩
    refine runs_bind_ok.mpr ⟨_, _, _, (List.singleton_append).symm, finalized, ?_⟩
    exact .ask (.stop _)

/-- The session object of an initiator that has the response, and of a responder. -/
def pairingOpened (self : ActiveSession) (localNonce : FixedBytes 32) (remote : TrustedPeer)
    (remoteNonce : FixedBytes 32) : PairingSession × SasVerification :=
  let sas := .derive self.localIdentity.nodeId remote.nodeId localNonce remoteNonce
  ({ localKey := self.localIdentity
     localName := self.localName
     localType := self.localDeviceType
     localNonce
     remotePeer := some remote
     remoteNonce := some remoteNonce
     sas := some sas }, sas)

variable {opened : PairingSession × SasVerification}

theorem runs_initiatePairing_ok :
    Runs (initiatePairing self) events (.ok opened) ↔
      ∃ nonce started frame response key now,
        events = [⟨.host .random, nonce⟩, ⟨.host .now, started⟩,
          ⟨.send (.data (PairingMessage.request
            ⟨self.localIdentity.nodeId, self.localIdentity.publicKey.bytes, self.localName,
              self.localDeviceType, nonce, started⟩).toDataFrame), .ok ()⟩,
          ⟨.recvData DataFrame.channelPairing, .ok frame⟩,
          ⟨.host .now, now⟩] ∧
        PairingMessage.fromDataFrame frame = .ok (.response response) ∧
        checkIdentity response.nodeId response.publicKey = .ok key ∧
        opened = pairingOpened self nonce
          ⟨response.nodeId, key, response.deviceName, response.deviceType, now, now, .pending⟩
          response.nonce := by
  simp only [initiatePairing, onHost, newInitiator, request_bind, pure_eq, lift_ask,
    lift_ok, ask_bind, ok_bind, runs_ask_ok, runs_bind_ok, runs_sendPairingMessage_ok,
    runs_recvPairingMessage_ok]
  constructor
  · rintro ⟨nonce, _, rfl, started, _, rfl, -, _, _, rfl, rfl, message, _, _, rfl,
      ⟨frame, rfl, decoded⟩, run⟩
    cases message with
    | request r => simp at run
    | confirm c => simp at run
    | failed reason => simp at run
    | response response =>
        cases checked : checkIdentity response.nodeId response.publicKey with
        | error e => simp [initiatorReceiveResponse, checked] at run
        | ok key =>
            simp only [initiatorReceiveResponse, checked, orFail_ok, ok_bind,
              request_bind, pure_eq, lift_ask, lift_ok, runs_ask_ok, runs_ok, Proc.ok.injEq] at run
            obtain ⟨now, _, rfl, rfl, rfl⟩ := run
            exact ⟨nonce, started, frame, response, key, now, rfl, decoded, checked, rfl⟩
  · rintro ⟨nonce, started, frame, response, key, now, rfl, decoded, checked, rfl⟩
    refine ⟨nonce, _, rfl, started, _, rfl, (), _, _, (List.singleton_append).symm, rfl, _, _, _,
      (List.singleton_append).symm, ⟨frame, rfl, decoded⟩, ?_⟩
    simp only [initiatorReceiveResponse, checked, orFail_ok, ok_bind, request_bind,
      lift_ask]
    exact .ask (.stop _)

theorem runs_respondPairing_ok :
    Runs (respondPairing self) events (.ok opened) ↔
      ∃ frame request key nonce now,
        events = [⟨.recvData DataFrame.channelPairing, .ok frame⟩, ⟨.host .random, nonce⟩,
          ⟨.host .now, now⟩,
          ⟨.send (.data (PairingMessage.response
            ⟨self.localIdentity.nodeId, self.localIdentity.publicKey.bytes, self.localName,
              self.localDeviceType, nonce, now⟩).toDataFrame), .ok ()⟩] ∧
        PairingMessage.fromDataFrame frame = .ok (.request request) ∧
        checkIdentity request.nodeId request.publicKey = .ok key ∧
        opened = pairingOpened self nonce
          ⟨request.nodeId, key, request.deviceName, request.deviceType, now, now, .pending⟩
          request.nonce := by
  simp only [respondPairing, runs_bind_ok, runs_recvPairingMessage_ok]
  constructor
  · rintro ⟨message, _, _, rfl, ⟨frame, rfl, decoded⟩, run⟩
    cases message with
    | response r => simp at run
    | confirm c => simp at run
    | failed reason => simp at run
    | request r =>
        cases checked : checkIdentity r.nodeId r.publicKey with
        | error e => simp [onHost, newResponder, checked] at run
        | ok key =>
            simp only [onHost, newResponder, checked, orFail_ok, ok_bind, request_bind,
              pure_eq, lift_ask, lift_ok, ask_bind, runs_ask_ok, runs_bind_ok,
              runs_sendPairingMessage_ok, runs_ok, Proc.ok.injEq] at run
            obtain ⟨nonce, _, rfl, now, _, rfl, -, _, _, rfl, rfl, rfl, rfl⟩ := run
            exact ⟨frame, r, key, nonce, now, rfl, decoded, checked, rfl⟩
  · rintro ⟨frame, request, key, nonce, now, rfl, decoded, checked, rfl⟩
    refine ⟨_, _, _, (List.singleton_append).symm, ⟨frame, rfl, decoded⟩, ?_⟩
    simp only [onHost, newResponder, checked, orFail_ok, ok_bind, request_bind,
      pure_eq, lift_ask, lift_ok, ask_bind, sendPairingMessage, sendFrame]
    exact .ask (.ask (.ask (.stop _)))

/-- What the peer presented in its first message. -/
structure Presented where
  nodeId : NodeId
  publicKey : FixedBytes 32
  deviceName : String
  deviceType : DeviceType
  nonce : FixedBytes 32

/-- The message each role waits for: a response for the initiator, else a request. -/
def PairingMessage.presented (isInitiator : Bool) : PairingMessage → Option Presented
  | .request r =>
      if isInitiator then none
      else some ⟨r.nodeId, r.publicKey, r.deviceName, r.deviceType, r.nonce⟩
  | .response r =>
      if isInitiator then some ⟨r.nodeId, r.publicKey, r.deviceName, r.deviceType, r.nonce⟩
      else none
  | _ => none

/-- Either role: the peer presented an identity that fits its key, and the session
    object has it. -/
theorem runs_openPairing_ok {isInitiator : Bool} (run : Runs (openPairing self isInitiator) events (.ok opened)) :
    ∃ before after nonce frame message presented key now,
      events = before ++ ⟨.recvData DataFrame.channelPairing, .ok frame⟩ :: after ∧
      (∀ channel answer, ⟨.recvData channel, answer⟩ ∉ before) ∧
      (∀ peer answer, ⟨.savePeer peer, answer⟩ ∉ events) ∧
      ⟨.host .random, nonce⟩ ∈ events ∧
      PairingMessage.fromDataFrame frame = .ok message ∧
      message.presented isInitiator = some presented ∧
      checkIdentity presented.nodeId presented.publicKey = .ok key ∧
      opened = pairingOpened self nonce
        ⟨presented.nodeId, key, presented.deviceName, presented.deviceType, now, now, .pending⟩
        presented.nonce := by
  cases isInitiator with
  | true =>
      obtain ⟨nonce, started, frame, response, key, now, rfl, decoded, checked, rfl⟩ :=
        runs_initiatePairing_ok.mp run
      refine ⟨[_, _, _], _, nonce, frame, .response response, ⟨_, _, _, _, _⟩, key, now, rfl, ?_, ?_,
        .head _, decoded, rfl, checked, rfl⟩
      · simp
      · simp
  | false =>
      obtain ⟨frame, request, key, nonce, now, rfl, decoded, checked, rfl⟩ :=
        runs_respondPairing_ok.mp run
      refine ⟨[], _, nonce, frame, .request request, ⟨_, _, _, _, _⟩, key, now, rfl, ?_, ?_,
        .tail _ (.head _), decoded, rfl, checked, rfl⟩
      · simp
      · simp

theorem runs_executePairing_ok {isInitiator : Bool} :
    Runs (executePairing self isInitiator) events (.ok result) ↔
      ∃ opened lead concluded,
        events = ⟨.setState .pairing, ()⟩ :: (lead ++ (concluded ++ [⟨.setState .trusted, ()⟩])) ∧
        Runs (openPairing self isInitiator) lead (.ok opened) ∧
        Runs (concludePairing self opened.1 opened.2) concluded (.ok ()) ∧ result = opened.2 := by
  simp only [executePairing, request_bind, runs_ask_ok, runs_bind_ok, pure_eq, runs_ok,
    Proc.ok.injEq]
  constructor
  · rintro ⟨_, _, rfl, opened, lead, _, rfl, opening, _, concluded, _, rfl, conclusion, _, _, rfl, rfl,
      rfl⟩
    exact ⟨opened, lead, concluded, rfl, opening, conclusion, rfl⟩
  · rintro ⟨opened, lead, concluded, rfl, opening, conclusion, rfl⟩
    exact ⟨(), _, rfl, opened, lead, _, rfl, opening, (), concluded, _, rfl, conclusion, (), _, rfl, rfl,
      rfl⟩

end Pairing

end BridgeOS.Session
