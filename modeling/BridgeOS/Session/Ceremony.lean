import BridgeOS.Session.Handshake

/-! # Pairing over a session, and the frames in between

`ActiveSession::execute_pairing` in both roles, `recv_data_frame` and
`process_next_frame`. From the user's decision on the two roles run the same
code.
-/

namespace BridgeOS.Session

open BridgeOS.Transfer

variable [Crypto]

/-- One round of the loop in `recv_data_frame`: it ends, answers a ping or skips. -/
inductive DataRound where
  | ends (result : Except SessionError DataFrame)
  | pong (nonce : UInt64)
  | skip
  deriving DecidableEq

omit [Crypto] in
def recvDataRound (expectedChannel : UInt16) : Except BridgeError (Option Frame) → DataRound
  | .error e => .ends (.error (.transport e))
  | .ok none => .ends (.error (.closed "Peer disconnected while awaiting data frame"))
  | .ok (some (.data df)) => if df.channel = expectedChannel then .ends (.ok df) else .skip
  | .ok (some (.control (.ping nonce))) => .pong nonce
  | .ok (some (.control (.disconnect reason))) =>
      .ends (.error (.closed ("Peer disconnected: " ++ disconnectDebug reason)))
  | .ok (some _) => .skip

def recvPairingMessage : SessionProc PairingMessage := do
  let received ← .request (Call.recvData DataFrame.channelPairing)
  let frame ← .orFail id received
  .orFail id (PairingMessage.fromDataFrame frame)

def sendPairingMessage (message : PairingMessage) : SessionProc Unit :=
  sendFrame (.data message.toDataFrame)

/-- The initiator up to the number to compare. -/
def initiatePairing (self : ActiveSession) : SessionProc (PairingSession × SasVerification) := do
  let (session, req) ← onHost
    (PairingSession.newInitiator self.localIdentity self.localName self.localDeviceType)
  sendPairingMessage (.request req)
  let resp ← do
    match ← recvPairingMessage with
    | .response r => pure r
    | .failed reason => .error (.closed ("Pairing rejected by peer: " ++ reason))
    | other => .error (.expectedMessage "PairingResponse" other)
  onHost (session.initiatorReceiveResponse resp)

/-- The responder up to the number to compare. -/
def respondPairing (self : ActiveSession) : SessionProc (PairingSession × SasVerification) := do
  let req ← do
    match ← recvPairingMessage with
    | .request r => pure r
    | other => .error (.expectedMessage "PairingRequest" other)
  let (session, resp, sas) ← onHost
    (PairingSession.newResponder self.localIdentity self.localName self.localDeviceType req)
  sendPairingMessage (.response resp)
  return (session, sas)

/-- From the user's decision to the saved peer. -/
def concludePairing (self : ActiveSession) (session : PairingSession) (sas : SasVerification) :
    SessionProc Unit := do
  let confirmed ← .request (Call.confirm sas self.remoteName)
  if !confirmed then
    let _ ← .request (Call.send (.data
      (PairingMessage.failed "Local user rejected pairing").toDataFrame))
    .request (Call.setState .authenticatedUntrusted)
    .error .pairingRejected
  let myConfirm ← onHost session.confirm
  sendPairingMessage (.confirm myConfirm)
  let peerConfirm ← do
    match ← recvPairingMessage with
    | .confirm c => pure c
    | .failed reason => .error (.closed ("Pairing rejected by peer: " ++ reason))
    | other => .error (.expectedMessage "PairingConfirm" other)
  let trustedPeer ← onHost (session.finalize peerConfirm)
  let saved ← .request (Call.savePeer trustedPeer)
  .orFail SessionError.identity saved

def openPairing (self : ActiveSession) (isInitiator : Bool) :
    SessionProc (PairingSession × SasVerification) :=
  if isInitiator then initiatePairing self else respondPairing self

def executePairing (self : ActiveSession) (isInitiator : Bool) : SessionProc SasVerification := do
  .request (Call.setState .pairing)
  let (session, sas) ← openPairing self isInitiator
  concludePairing self session sas
  .request (Call.setState .trusted)
  return sas

/-- The helper of the same name; the receiver is dropped once the offer is accepted. -/
def handleFileTransferFrame (payload : Bytes) : SessionProc Unit := do
  let message ← .orFail (fun _ => SessionError.protocol "Transfer payload error")
    (TransferMessage.fromBytes payload)
  match message with
  | .offer manifest =>
      let opened ← .request (Call.openReceiver manifest)
      let receiver ← .orFail (fun _ => SessionError.protocol "Failed to open receiver") opened
      sendFrame (.data
        (TransferMessage.accept receiver.manifest.fileId receiver.nextExpectedChunk).toDataFrame)
  | _ => return ()

/-- The `match` of `process_next_frame`: frames on an application channel are
    dropped unless the session is trusted. -/
def handleFrame (self : ActiveSession) : Frame → SessionProc Bool
  | .control (.ping nonce) => do
      sendFrame (.control (.pong nonce))
      return true
  | .control (.pong _) => return true
  | .control (.disconnect reason) => do
      .request (Call.setState (.terminated ("Disconnected: " ++ disconnectDebug reason)))
      return false
  | .data df =>
      if df.channel = DataFrame.channelPairing then return true
      else if df.channel = DataFrame.channelClipboard then do
        let state ← .request Call.readState
        if !state.isTrusted then return true
        if self.clipboardEngine then
          let _ ← .request (Call.clipboardFrame df)
        return true
      else if df.channel = DataFrame.channelFileTransfer then do
        let state ← .request Call.readState
        if !state.isTrusted then return true
        if self.receiveDir.isSome then handleFileTransferFrame df.payload
        return true
      else return true
  | .handshake _ => return true

def processNextFrame (self : ActiveSession) : SessionProc Bool := do
  let received ← .request Call.recv
  match ← .orFail SessionError.transport received with
  | none => return false
  | some frame => handleFrame self frame

end BridgeOS.Session
