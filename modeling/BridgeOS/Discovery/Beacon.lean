import BridgeOS.Discovery.Peer
import BridgeOS.Lib.Text
import BridgeOS.Protocol

/-! # Beacons

The datagrams of the UDP channel: a magic number, a version byte and the message
in postcard form, in at most 1400 bytes. Error texts leave out what the
serializer appends.
-/

namespace BridgeOS.Discovery

def beaconMagic : Bytes := [0x42, 0x52, 0x47, 0x42]

def beaconVersion : UInt8 := 1

def maxBeaconSize : Nat := 1400

def maxDeviceNameLen : Nat := 64

inductive DiscoveryError where
  | invalidTxtRecord (text : String)
  | invalidNodeId (text : String)
  | invalidPacket (text : String)
  deriving DecidableEq

inductive BeaconMessage where
  | announcement (version : ProtocolVersion) (nodeId : NodeId) (deviceName : String)
      (deviceType : DeviceType) (port : UInt16) (capabilities : Capabilities) (seq : UInt64)
  | goodbye (nodeId : NodeId) (seq : UInt64)
  | query (senderId : NodeId) (seq : UInt64)
  deriving DecidableEq

namespace BeaconMessage

def nodeId : BeaconMessage → NodeId
  | .announcement _ nodeId _ _ _ _ _ => nodeId
  | .goodbye nodeId _ => nodeId
  | .query senderId _ => senderId

def seq : BeaconMessage → UInt64
  | .announcement _ _ _ _ _ _ seq => seq
  | .goodbye _ seq => seq
  | .query _ seq => seq

end BeaconMessage

section Codecs

open Codec

def BeaconMessage.codec : Codec BeaconMessage :=
  ((Variants.cons (pair ProtocolVersion.codec (pair NodeId.codec (pair string (pair DeviceType.codec
    (pair u16 (pair Capabilities.codec u64)))))) (.cons (pair NodeId.codec u64)
      (.single (pair NodeId.codec u64)))).codec (by decide)).map
    (fun
      | .inl (version, nodeId, deviceName, deviceType, port, capabilities, seq) =>
          .announcement version nodeId deviceName deviceType port capabilities seq
      | .inr (.inl (nodeId, seq)) => .goodbye nodeId seq
      | .inr (.inr (senderId, seq)) => .query senderId seq)
    (fun
      | .announcement version nodeId deviceName deviceType port capabilities seq =>
          .inl (version, nodeId, deviceName, deviceType, port, capabilities, seq)
      | .goodbye nodeId seq => .inr (.inl (nodeId, seq))
      | .query senderId seq => .inr (.inr (senderId, seq)))
    (by
      intro message
      cases message <;> rfl)

end Codecs

def encodeBeacon (message : BeaconMessage) : Except DiscoveryError Bytes :=
  let payload := BeaconMessage.codec.encode message
  let total := 4 + 1 + payload.length
  if total > maxBeaconSize then
    .error (.invalidPacket s!"beacon packet size {total} exceeds maximum allowed {maxBeaconSize}")
  else .ok (beaconMagic ++ [beaconVersion] ++ payload)

/-- The loop that looks for the end of a name that is too long. -/
def nameEnd (name : List Char) : Nat → Nat
  | 0 => 0
  | n + 1 => if Text.isCharBoundary name (n + 1) then n + 1 else nameEnd name n

def truncateName (name : String) : String :=
  if (utf8 name).length > maxDeviceNameLen then
    String.ofList (Text.truncate name.toList (nameEnd name.toList maxDeviceNameLen))
  else name

/-- What is made of a message once it is decoded. -/
def sanitize : BeaconMessage → Except DiscoveryError BeaconMessage
  | .announcement version nodeId deviceName deviceType port capabilities seq =>
      if port = 0 then .error (.invalidPacket "announcement port cannot be 0")
      else .ok (.announcement version nodeId (truncateName deviceName) deviceType port capabilities seq)
  | message => .ok message

def decodeBeacon (bytes : Bytes) : Except DiscoveryError BeaconMessage :=
  if bytes.length < 5 then
    .error (.invalidPacket s!"datagram length {bytes.length} is too short for a valid beacon")
  else if bytes.length > maxBeaconSize then
    .error (.invalidPacket s!"datagram length {bytes.length} exceeds maximum allowed {maxBeaconSize}")
  else if bytes.take 4 ≠ beaconMagic then
    .error (.invalidPacket s!"invalid magic header {bytes.take 4}, expected {beaconMagic}")
  else if bytes.getD 4 0 ≠ beaconVersion then
    .error (.invalidPacket s!"unsupported beacon version {bytes.getD 4 0}, expected {beaconVersion}")
  else match BeaconMessage.codec.decode (bytes.drop 5) with
    | none => .error (.invalidPacket "failed to deserialize beacon")
    | some (message, _) => sanitize message

theorem length_encodeBeacon {message : BeaconMessage} {bytes : Bytes}
    (sent : encodeBeacon message = .ok bytes) : bytes.length ≤ maxBeaconSize := by
  rw [encodeBeacon] at sent
  split at sent
  · cases sent
  · rename_i fits
    cases sent
    simp only [beaconMagic, List.length_append, List.length_cons, List.length_nil]
    omega

/-- A beacon that was sent comes through the checks of the envelope. -/
theorem decodeBeacon_encodeBeacon {message : BeaconMessage} {bytes : Bytes}
    (sent : encodeBeacon message = .ok bytes) : decodeBeacon bytes = sanitize message := by
  rw [encodeBeacon] at sent
  split at sent
  · cases sent
  · rename_i fits
    cases sent
    have decoded := BeaconMessage.codec.decode_encode message []
      (by rw [maxBeaconSize] at fits; omega)
    rw [List.append_nil] at decoded
    have size : (beaconMagic ++ [beaconVersion] ++ BeaconMessage.codec.encode message).length =
        4 + 1 + (BeaconMessage.codec.encode message).length := by
      simp [beaconMagic]
      omega
    rw [decodeBeacon, size, if_neg (by omega), if_neg fits, if_neg (by simp [beaconMagic]),
      if_neg (by simp [beaconMagic])]
    have payload : (beaconMagic ++ [beaconVersion] ++ BeaconMessage.codec.encode message).drop 5 =
        BeaconMessage.codec.encode message := rfl
    rw [payload, decoded]

end BridgeOS.Discovery
