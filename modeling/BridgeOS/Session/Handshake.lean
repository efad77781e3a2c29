import BridgeOS.Session.Interface

/-! # The two handshakes

`ActiveSession::server_handshake` and `client_handshake`. The server checks a
signature of the client over both nonces; the client checks nothing but the
server's word that it was accepted. Both then ask the trust store.
-/

namespace BridgeOS.Session

variable [Crypto]

/-- Step 7 of the server and step 6 of the client. -/
def consultTrustStore (remoteNodeId : NodeId) (remotePubkey : PublicKey) : SessionProc SessionState := do
  match ← .request (Call.isTrusted remoteNodeId remotePubkey) with
  | .ok true =>
      let timestamp ← .request (Call.host .now)
      let _ ← .request (Call.updateLastSeen remoteNodeId timestamp)
      return .trusted
  | .ok false => return .authenticatedUntrusted
  | .error (.keyMismatch nodeId expected presented) =>
      let _ ← .request (Call.send (.control (.disconnect .authenticationFailed)))
      .error (.keyMismatch nodeId.toHex expected presented)
  | .error (.peerRevoked id) =>
      let _ ← .request (Call.send (.control (.disconnect .authenticationFailed)))
      .error (.peerRevoked id.toHex)
  | .error e => .error (.identity e)

def serverHandshake (endpoint : Endpoint) : SessionProc ActiveSession := do
  let helloFrame ← recvFrame "Peer disconnected before ClientHello"
  let .handshake (.clientHello clientHello) := helloFrame
    | .error (.expectedFrame "ClientHello" helloFrame)
  let remoteNodeId := clientHello.nodeId
  let remotePubkey ← .orFail (fun _ => SessionError.authenticationFailed "Invalid Ed25519 public key")
    (PublicKey.fromBytes remoteNodeId.bytes)
  let serverNonce ← .request (Call.host .random)
  sendFrame (.handshake (.serverHello
    { agreedVersion := .current
      nodeId := endpoint.localIdentity.nodeId
      deviceName := endpoint.localName
      serverNonce
      negotiatedCapabilities := clientHello.capabilities.intersect .all }))
  let authFrame ← recvFrame "Peer disconnected before AuthResponse"
  let .handshake (.authResponse authResp) := authFrame
    | .error (.expectedFrame "AuthResponse" authFrame)
  match ← onHost (verifyHandshakeChallenge remotePubkey clientHello.clientNonce serverNonce
      authResp.signature) with
  | .error _ =>
      let _ ← .request (Call.send (.handshake (.authResult
        (.failed "Cryptographic challenge failed"))))
      .error (.authenticationFailed ("Signature verification failed for peer " ++
        clientHello.deviceName ++ " (" ++ remoteNodeId.toHex ++ ")"))
  | .ok () =>
      sendFrame (.handshake (.authResult .accepted))
      let state ← consultTrustStore remoteNodeId remotePubkey
      return { localIdentity := endpoint.localIdentity
               localName := endpoint.localName
               localDeviceType := endpoint.localDeviceType
               remoteNodeId, remotePubkey
               remoteName := clientHello.deviceName
               remoteDeviceType := .unknown
               state
               clipboardEngine := endpoint.clipboardEngine
               receiveDir := endpoint.receiveDir }

/-- Steps 1 and 2 of a client, with the errors its caller gives them: greet with a
    fresh nonce and wait for the server's greeting. -/
def exchangeHellos {ε : Type} (identity : IdentityKey) (name : String)
    (sending receiving : BridgeError → ε) (ended : ε) (unexpected : Frame → ε) :
    Proc Call Call.Answer ε (FixedBytes 32 × ServerHello) := do
  let clientNonce ← .request (Call.host .random)
  let sent ← .request (Call.send (.handshake (.clientHello
    { version := .current
      nodeId := identity.nodeId
      deviceName := name
      clientNonce
      capabilities := .all })))
  .orFail sending sent
  match ← .request Call.recv with
  | .error e => .error (receiving e)
  | .ok none => .error ended
  | .ok (some (.handshake (.serverHello serverHello))) => return (clientNonce, serverHello)
  | .ok (some other) => .error (unexpected other)

/-- Steps 4 to 6 of the client: answer, wait for the verdict and ask the trust store. -/
def awaitVerdict (endpoint : Endpoint) (serverHello : ServerHello) (remotePubkey : PublicKey)
    (signature : FixedBytes 64) : SessionProc ActiveSession := do
  sendFrame (.handshake (.authResponse ⟨signature⟩))
  let resultFrame ← recvFrame "Server disconnected before AuthResult"
  let .handshake (.authResult authResult) := resultFrame
    | .error (.expectedFrame "AuthResult" resultFrame)
  if !authResult.success then
    .error (.authenticationFailed (authResult.reason.getD "Unknown error"))
  let state ← consultTrustStore serverHello.nodeId remotePubkey
  return { localIdentity := endpoint.localIdentity
           localName := endpoint.localName
           localDeviceType := .unknown
           remoteNodeId := serverHello.nodeId
           remotePubkey
           remoteName := serverHello.deviceName
           remoteDeviceType := .unknown
           state
           clipboardEngine := endpoint.clipboardEngine
           receiveDir := endpoint.receiveDir }

def clientHandshake (endpoint : Endpoint) : SessionProc ActiveSession := do
  let (clientNonce, serverHello) ← exchangeHellos endpoint.localIdentity endpoint.localName
    SessionError.transport SessionError.transport (.closed "Server disconnected before ServerHello")
    (SessionError.expectedFrame "ServerHello")
  let remotePubkey ← .orFail (fun _ => SessionError.authenticationFailed "Invalid Ed25519 public key")
    (PublicKey.fromBytes serverHello.nodeId.bytes)
  let signature ← onHost (signHandshakeChallenge clientNonce serverHello.serverNonce)
  awaitVerdict endpoint serverHello remotePubkey signature

end BridgeOS.Session
