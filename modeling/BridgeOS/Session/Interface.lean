import BridgeOS.Clipboard.Engine
import BridgeOS.Identity.Pairing
import BridgeOS.Transfer.Receiver
import BridgeOS.Transfer.Wire

/-! # What a session asks of its surroundings

The types `bridge-session` adds, and the questions its asynchronous functions
put: to the stream, the trust store, the user, the clipboard engine, the receive
directory and the machine. `self.state` is mutable and outlives a function that
is dropped half way, so reading and setting it are questions too.
-/

namespace BridgeOS.Session

open BridgeOS.Transfer BridgeOS.Clipboard

inductive SessionState where
  | handshaking
  | authenticatedUntrusted
  | pairing
  | trusted
  | terminated (text : String)
  deriving DecidableEq

def SessionState.isTrusted : SessionState → Bool
  | .trusted => true
  | _ => false

@[simp] theorem SessionState.isTrusted_iff {s : SessionState} : s.isTrusted = true ↔ s = .trusted := by
  cases s <;> simp [isTrusted]

theorem SessionState.isTrusted_eq_false {s : SessionState} (untrusted : s ≠ .trusted) :
    s.isTrusted = false := by
  rw [Bool.eq_false_iff, ne_eq, isTrusted_iff]
  exact untrusted

inductive PairingMessage where
  | request (request : PairingRequest)
  | response (response : PairingResponse)
  | confirm (confirmation : PairingConfirm)
  | failed (reason : String)
  deriving DecidableEq

/-- Debug texts of frames and messages are not spelled out: an error about an
    unexpected one carries it. A transport error carries the error it displays. -/
inductive SessionError where
  | transport (error : BridgeError)
  | protocol (text : String)
  | expectedFrame (expected : String) (got : Frame)
  | expectedMessage (expected : String) (got : PairingMessage)
  | identity (error : IdentityError)
  | authenticationFailed (text : String)
  | keyMismatch (nodeId expected actual : String)
  | peerRevoked (nodeId : String)
  | pairingRejected
  | closed (text : String)
  deriving DecidableEq

def disconnectDebug : DisconnectReason → String
  | .graceful => "Graceful"
  | .protocolError => "ProtocolError"
  | .authenticationFailed => "AuthenticationFailed"
  | .timeout => "Timeout"

section Codecs

open Codec

def pairingRequestCodec : Codec PairingRequest :=
  (pair NodeId.codec (pair (fixed 32) (pair string (pair DeviceType.codec (pair (fixed 32)
    u64))))).map
    (fun ⟨nodeId, publicKey, deviceName, deviceType, nonce, timestamp⟩ =>
      ⟨nodeId, publicKey, deviceName, deviceType, nonce, timestamp⟩)
    (fun r => (r.nodeId, r.publicKey, r.deviceName, r.deviceType, r.nonce, r.timestamp))
    (fun _ => rfl)

def pairingResponseCodec : Codec PairingResponse :=
  (pair NodeId.codec (pair (fixed 32) (pair string (pair DeviceType.codec (pair (fixed 32)
    u64))))).map
    (fun ⟨nodeId, publicKey, deviceName, deviceType, nonce, timestamp⟩ =>
      ⟨nodeId, publicKey, deviceName, deviceType, nonce, timestamp⟩)
    (fun r => (r.nodeId, r.publicKey, r.deviceName, r.deviceType, r.nonce, r.timestamp))
    (fun _ => rfl)

def pairingConfirmCodec : Codec PairingConfirm :=
  (pair NodeId.codec (pair bool bytes)).map (fun p => ⟨p.1, p.2.1, p.2.2⟩)
    (fun c => (c.nodeId, c.confirmed, c.signature)) (fun _ => rfl)

def PairingMessage.codec : Codec PairingMessage :=
  ((Variants.cons pairingRequestCodec (.cons pairingResponseCodec (.cons pairingConfirmCodec
    (.single string)))).codec (by decide)).map
    (fun
      | .inl message => .request message
      | .inr (.inl message) => .response message
      | .inr (.inr (.inl message)) => .confirm message
      | .inr (.inr (.inr reason)) => .failed reason)
    (fun
      | .request message => .inl message
      | .response message => .inr (.inl message)
      | .confirm message => .inr (.inr (.inl message))
      | .failed reason => .inr (.inr (.inr reason)))
    (by
      intro message
      cases message <;> rfl)

end Codecs

namespace PairingMessage

def toDataFrame (message : PairingMessage) : DataFrame :=
  ⟨DataFrame.channelPairing, codec.encode message⟩

def fromDataFrame (frame : DataFrame) : Except SessionError PairingMessage :=
  if frame.channel ≠ DataFrame.channelPairing then
    let expected := DataFrame.channelPairing.toNat
    let got := frame.channel.toNat
    .error (.protocol s!"Expected channel {expected}, got {got}")
  else match codec.decode frame.payload with
    | none => .error (.protocol "Failed to decode PairingMessage")
    | some (message, _) => .ok message

theorem fromDataFrame_toDataFrame {message : PairingMessage}
    (short : (codec.encode message).length < 2 ^ 64) :
    fromDataFrame message.toDataFrame = .ok message := by
  have decoded := codec.decode_encode message [] short
  rw [List.append_nil] at decoded
  simp [fromDataFrame, toDataFrame, decoded]

/-- Only the name has no bound of its own. -/
theorem takes_request (r : PairingRequest) :
    codec.Takes (.request r) ((utf8 r.deviceName).length + 97) ((utf8 r.deviceName).length + 122) := by
  have device : DeviceType.codec.Takes r.deviceType 1 1 := by
    cases r.deviceType <;> exact ⟨Nat.le_refl 1, Nat.le_refl 1⟩
  have body : pairingRequestCodec.Takes r _ _ := .map (r.nodeId.takes_codec.pair
    ((Codec.takes_fixed r.publicKey).pair ((Codec.takes_string r.deviceName).pair (device.pair
      ((Codec.takes_fixed r.nonce).pair (Codec.takes_u64 r.timestamp))))))
  have taken : codec.Takes (.request r) _ _ := .map (Variants.takes_codec body rfl)
  obtain ⟨lower, upper⟩ := taken
  exact ⟨by omega, by omega⟩

theorem length_encode_request (r : PairingRequest) :
    (codec.encode (.request r)).length ≤ (utf8 r.deviceName).length + 122 := (takes_request r).2

/-- An identifier, a key, a nonce and the name. -/
theorem le_length_encode_request (r : PairingRequest) :
    (utf8 r.deviceName).length + 96 ≤ (codec.encode (.request r)).length :=
  Nat.le_trans (Nat.le_succ _) (takes_request r).1

theorem length_encode_confirm (c : PairingConfirm) :
    (codec.encode (.confirm c)).length ≤ c.signature.length + 48 := by
  have body : pairingConfirmCodec.Takes c _ _ := .map (c.nodeId.takes_codec.pair
    ((Codec.takes_bool c.confirmed).pair (Codec.takes_bytes c.signature)))
  have taken : codec.Takes (.confirm c) _ _ := .map (Variants.takes_codec body rfl)
  refine Nat.le_trans taken.2 ?_
  omega

end PairingMessage

variable [Crypto]

inductive Call where
  | host (c : HostCall)
  | send (frame : Frame)
  | recv
  | recvData (expectedChannel : UInt16)
  | isTrusted (nodeId : NodeId) (presentedKey : PublicKey)
  | updateLastSeen (nodeId : NodeId) (timestamp : UInt64)
  | savePeer (peer : TrustedPeer)
  | confirm (sas : SasVerification) (peerName : String)
  | setState (state : SessionState)
  | readState
  | clipboardFrame (frame : DataFrame)
  | openReceiver (manifest : FileManifest)

@[reducible] def Call.Answer : Call → Type
  | .host c => c.Answer
  | .send _ => Except BridgeError Unit
  | .recv => Except BridgeError (Option Frame)
  | .recvData _ => Except SessionError DataFrame
  | .isTrusted .. => Except IdentityError Bool
  | .updateLastSeen .. => Except IdentityError Unit
  | .savePeer _ => Except IdentityError Unit
  | .confirm .. => Bool
  | .setState _ => Unit
  | .readState => SessionState
  | .clipboardFrame _ => Except ClipboardError (Option ClipboardSyncEvent)
  | .openReceiver _ => Except TransferError FileReceiver

abbrev SessionProc (α : Type) := Proc Call Call.Answer SessionError α

abbrev SessionEvent := Proc.Event Call Call.Answer

/-- Run a step of the identity crate; its error is an identity error of the session. -/
def onHost {α : Type} (p : HostProc IdentityError α) : SessionProc α :=
  p.lift Call.host (fun _ answer => answer) SessionError.identity

def sendFrame (frame : Frame) : SessionProc Unit := do
  let sent ← .request (Call.send frame)
  .orFail SessionError.transport sent

/-- A frame, or the error for a stream that ends here. -/
def recvFrame (ended : String) : SessionProc Frame := do
  match ← .request Call.recv with
  | .error e => .error (.transport e)
  | .ok none => .error (.closed ended)
  | .ok (some frame) => return frame

/-- The parameters both handshakes take besides the stream and the trust store. -/
structure Endpoint where
  localIdentity : IdentityKey
  localName : String
  localDeviceType : DeviceType
  clipboardEngine : Bool
  receiveDir : Option PathBuf

/-- The fields of a session that the code never changes, and the state it starts in. -/
structure ActiveSession where
  localIdentity : IdentityKey
  localName : String
  localDeviceType : DeviceType
  remoteNodeId : NodeId
  remotePubkey : PublicKey
  remoteName : String
  remoteDeviceType : DeviceType
  state : SessionState
  clipboardEngine : Bool
  receiveDir : Option PathBuf

end BridgeOS.Session
