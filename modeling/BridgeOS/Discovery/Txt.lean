import BridgeOS.Discovery.Mdns
import BridgeOS.Lib.HexNumber

/-! # TXT records

What a node announces of itself over mDNS is text, in four spellings of its own, and is
read back as it was.
-/

namespace BridgeOS

def ProtocolVersion.toText (version : ProtocolVersion) : String := s!"{version.major}.{version.minor}"

namespace Discovery

def peerToTxtProperties (nodeId : NodeId) (deviceName : String) (deviceType : DeviceType)
    (capabilities : Capabilities) : AList (fun _ : String => String) :=
  let props : AList (fun _ : String => String) := ∅
  let props := props.insert "node_id" nodeId.toHex
  let props := props.insert "name" deviceName
  let props := props.insert "type" deviceType.toText
  let props := props.insert "caps" (Hex.lower capabilities.flags.toNat)
  props.insert "ver" ProtocolVersion.current.toText

theorem u32FromHex_of_unsigned {text : String} {c : Char} {rest : List Char} (shape : text.toList = c :: rest)
    (unsigned : c ≠ '+') :
    u32FromHex text = (text.toList.foldlM (Hex.accumulate (2 ^ 32)) 0).map UInt32.ofNat := by
  simp only [u32FromHex, shape]
  split
  · rename_i same
    exact absurd (List.cons.inj same).1 unsigned
  · exact if_neg Bool.false_ne_true

/-- Every mask is read back, however many digits it has. -/
theorem u32FromHex_lower (n : UInt32) : u32FromHex (Hex.lower n.toNat) = some n := by
  obtain ⟨c, rest, shape, unsigned⟩ := Hex.lower_starts n.toNat
  have small : n.toNat < 2 ^ 32 := n.toNat_lt
  rw [u32FromHex_of_unsigned shape unsigned, Hex.foldlM_lower small, Option.map_some, UInt32.ofNat_toNat]

/-- The peer that is parsed of the properties of a node is that node, whatever the addresses
    and the name to fall back on. -/
theorem txt_round_trip (now : Nat) (nodeId : NodeId) (deviceName : String) (deviceType : DeviceType)
    (capabilities : Capabilities) (addresses : List SocketAddr) (fallbackName : String) :
    let props := peerToTxtProperties nodeId deviceName deviceType capabilities
    parseDiscoveredPeer now (props.lookup "node_id") (props.lookup "name") (props.lookup "type")
        (props.lookup "caps") addresses fallbackName =
      .ok { nodeId, deviceName, deviceType, addresses, capabilities, lastSeen := now } := by
  intro props
  have id : props.lookup "node_id" = some nodeId.toHex := rfl
  have name : props.lookup "name" = some deviceName := rfl
  have type : props.lookup "type" = some deviceType.toText := rfl
  have caps : props.lookup "caps" = some (Hex.lower capabilities.flags.toNat) := rfl
  rw [id, name, type, caps, parseDiscoveredPeer]
  simp only [NodeId.fromHex_toHex, Option.map_some, Option.getD_some, DeviceType.fromStr_toText,
    Option.bind_some, u32FromHex_lower]
  rfl

end Discovery

end BridgeOS
