import BridgeOS.Core
import BridgeOS.Lib.Postcard

/-! # Frames on the wire

The types of `bridge-protocol` and their encoding: a magic number, the length of
the payload in four big-endian bytes, and the payload in postcard form. A
payload is decoded from its front; bytes behind a complete frame are ignored, as
`postcard::from_bytes` does. Error texts keep the part the code writes and leave
out what the serializer appends.
-/

namespace BridgeOS

structure ClientHello where
  version : ProtocolVersion
  nodeId : NodeId
  deviceName : String
  clientNonce : FixedBytes 32
  capabilities : Capabilities
  deriving DecidableEq

structure ServerHello where
  agreedVersion : ProtocolVersion
  nodeId : NodeId
  deviceName : String
  serverNonce : FixedBytes 32
  negotiatedCapabilities : Capabilities
  deriving DecidableEq

structure AuthResponse where
  signature : FixedBytes 64
  deriving DecidableEq

structure AuthResult where
  success : Bool
  reason : Option String
  deriving DecidableEq

def AuthResult.accepted : AuthResult := ⟨true, none⟩

def AuthResult.failed (reason : String) : AuthResult := ⟨false, some reason⟩

inductive HandshakeFrame where
  | clientHello (hello : ClientHello)
  | serverHello (hello : ServerHello)
  | authResponse (response : AuthResponse)
  | authResult (result : AuthResult)
  deriving DecidableEq

inductive DisconnectReason where
  | graceful | protocolError | authenticationFailed | timeout
  deriving DecidableEq

inductive ControlFrame where
  | ping (nonce : UInt64)
  | pong (nonce : UInt64)
  | disconnect (reason : DisconnectReason)
  deriving DecidableEq

structure DataFrame where
  channel : UInt16
  payload : Bytes
  deriving DecidableEq

namespace DataFrame

def channelClipboard : UInt16 := 1
def channelFileTransfer : UInt16 := 2
def channelNotifications : UInt16 := 3
def channelPairing : UInt16 := 5

end DataFrame

inductive Frame where
  | handshake (frame : HandshakeFrame)
  | control (frame : ControlFrame)
  | data (frame : DataFrame)
  deriving DecidableEq

section Codecs

open Codec

def NodeId.codec : Codec NodeId := (fixed 32).map NodeId.mk NodeId.bytes (fun _ => rfl)

theorem NodeId.takes_codec (n : NodeId) : NodeId.codec.Takes n 32 32 := .map (takes_fixed n.bytes)

def DeviceType.codec : Codec DeviceType :=
  ((Variants.cons unit (.cons unit (.cons unit (.cons unit (.single unit))))).codec (by decide)).map
    (fun
      | .inl _ => .windows
      | .inr (.inl _) => .android
      | .inr (.inr (.inl _)) => .linux
      | .inr (.inr (.inr (.inl _))) => .macOS
      | .inr (.inr (.inr (.inr _))) => .unknown)
    (fun
      | .windows => .inl ()
      | .android => .inr (.inl ())
      | .linux => .inr (.inr (.inl ()))
      | .macOS => .inr (.inr (.inr (.inl ())))
      | .unknown => .inr (.inr (.inr (.inr ()))))
    (by
      intro device
      cases device <;> rfl)

def ProtocolVersion.codec : Codec ProtocolVersion :=
  (pair u16 u16).map (fun p => ⟨p.1, p.2⟩) (fun v => (v.major, v.minor)) (fun _ => rfl)

def Capabilities.codec : Codec Capabilities :=
  u32.map Capabilities.mk Capabilities.flags (fun _ => rfl)

def ClientHello.codec : Codec ClientHello :=
  (pair ProtocolVersion.codec (pair NodeId.codec (pair string (pair (fixed 32)
    Capabilities.codec)))).map
    (fun ⟨version, nodeId, deviceName, clientNonce, capabilities⟩ =>
      ⟨version, nodeId, deviceName, clientNonce, capabilities⟩)
    (fun h => (h.version, h.nodeId, h.deviceName, h.clientNonce, h.capabilities))
    (fun _ => rfl)

def ServerHello.codec : Codec ServerHello :=
  (pair ProtocolVersion.codec (pair NodeId.codec (pair string (pair (fixed 32)
    Capabilities.codec)))).map
    (fun ⟨agreedVersion, nodeId, deviceName, serverNonce, negotiatedCapabilities⟩ =>
      ⟨agreedVersion, nodeId, deviceName, serverNonce, negotiatedCapabilities⟩)
    (fun h => (h.agreedVersion, h.nodeId, h.deviceName, h.serverNonce, h.negotiatedCapabilities))
    (fun _ => rfl)

/-- The signature is written as a byte string, so its length is on the wire and is
    checked on the way in. -/
def AuthResponse.codec : Codec AuthResponse :=
  bytes.filterMap (fun data => (FixedBytes.ofBytes? 64 data).map AuthResponse.mk)
    (fun r => r.signature.bytes) (by simp)

def AuthResult.codec : Codec AuthResult :=
  (pair bool (option string)).map (fun p => ⟨p.1, p.2⟩) (fun r => (r.success, r.reason))
    (fun _ => rfl)

def HandshakeFrame.codec : Codec HandshakeFrame :=
  ((Variants.cons ClientHello.codec (.cons ServerHello.codec (.cons AuthResponse.codec
    (.single AuthResult.codec)))).codec (by decide)).map
    (fun
      | .inl hello => .clientHello hello
      | .inr (.inl hello) => .serverHello hello
      | .inr (.inr (.inl response)) => .authResponse response
      | .inr (.inr (.inr result)) => .authResult result)
    (fun
      | .clientHello hello => .inl hello
      | .serverHello hello => .inr (.inl hello)
      | .authResponse response => .inr (.inr (.inl response))
      | .authResult result => .inr (.inr (.inr result)))
    (by
      intro frame
      cases frame <;> rfl)

def DisconnectReason.codec : Codec DisconnectReason :=
  ((Variants.cons unit (.cons unit (.cons unit (.single unit)))).codec Variants.few_four_units).map
    (fun
      | .inl _ => .graceful
      | .inr (.inl _) => .protocolError
      | .inr (.inr (.inl _)) => .authenticationFailed
      | .inr (.inr (.inr _)) => .timeout)
    (fun
      | .graceful => .inl ()
      | .protocolError => .inr (.inl ())
      | .authenticationFailed => .inr (.inr (.inl ()))
      | .timeout => .inr (.inr (.inr ())))
    (by
      intro reason
      cases reason <;> rfl)

def ControlFrame.codec : Codec ControlFrame :=
  ((Variants.cons u64 (.cons u64 (.single DisconnectReason.codec))).codec (by decide)).map
    (fun
      | .inl nonce => .ping nonce
      | .inr (.inl nonce) => .pong nonce
      | .inr (.inr reason) => .disconnect reason)
    (fun
      | .ping nonce => .inl nonce
      | .pong nonce => .inr (.inl nonce)
      | .disconnect reason => .inr (.inr reason))
    (by
      intro frame
      cases frame <;> rfl)

def DataFrame.codec : Codec DataFrame :=
  (pair u16 bytes).map (fun p => ⟨p.1, p.2⟩) (fun d => (d.channel, d.payload)) (fun _ => rfl)

def Frame.codec : Codec Frame :=
  ((Variants.cons HandshakeFrame.codec (.cons ControlFrame.codec
    (.single DataFrame.codec))).codec (by decide)).map
    (fun
      | .inl frame => .handshake frame
      | .inr (.inl frame) => .control frame
      | .inr (.inr frame) => .data frame)
    (fun
      | .handshake frame => .inl frame
      | .control frame => .inr (.inl frame)
      | .data frame => .inr (.inr frame))
    (by
      intro frame
      cases frame <;> rfl)

end Codecs

end BridgeOS
