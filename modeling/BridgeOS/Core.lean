import BridgeOS.Lib.Hex

/-! # Shared types of the BridgeOS crates

The types of `bridge-core`: identities, device categories, protocol versions,
capability masks and the core error. A `NodeId` is exactly thirty-two bytes; it
is at the same time the encoding of the node's Ed25519 public key.
-/

namespace BridgeOS

inductive BridgeError where
  | versionMismatch (expected received : UInt16)
  | framing (text : String)
  | frameTooLarge (length max : Nat)
  | invalidMagic
  | identity (text : String)
  | authenticationFailed
  | serialization (text : String)
  | connectionClosed
  | incompatibleCapabilities (text : String)
  | internal (text : String)
  deriving DecidableEq

structure ProtocolVersion where
  major : UInt16
  minor : UInt16
  deriving DecidableEq

def ProtocolVersion.current : ProtocolVersion := ⟨1, 0⟩

def ProtocolVersion.isCompatibleWith (self other : ProtocolVersion) : Bool := self.major == other.major

structure NodeId where
  bytes : FixedBytes 32
  deriving DecidableEq

def NodeId.toHex (n : NodeId) : String := Hex.encode n.bytes.bytes

/-- Sixty-four digits of either case. -/
def NodeId.fromHex (text : String) : Option NodeId := do
  let bytes ← Hex.decode text
  let array ← FixedBytes.ofBytes? 32 bytes
  some ⟨array⟩

@[simp] theorem NodeId.fromHex_toHex (n : NodeId) : NodeId.fromHex n.toHex = some n := by
  simp [NodeId.fromHex, NodeId.toHex]

theorem NodeId.toHex_injective : Function.Injective NodeId.toHex := by
  intro a b same
  simpa using congrArg NodeId.fromHex same

inductive DeviceType where
  | windows | android | linux | macOS | unknown
  deriving DecidableEq

structure Capabilities where
  flags : UInt32
  deriving DecidableEq

namespace Capabilities

def fileTransfer : UInt32 := (1 : UInt32) <<< 0
def clipboardText : UInt32 := (1 : UInt32) <<< 1
def clipboardImage : UInt32 := (1 : UInt32) <<< 2
def notifications : UInt32 := (1 : UInt32) <<< 3
def remoteInput : UInt32 := (1 : UInt32) <<< 4
def relaySupport : UInt32 := (1 : UInt32) <<< 5

def all : Capabilities :=
  ⟨fileTransfer ||| clipboardText ||| clipboardImage ||| notifications ||| remoteInput |||
    relaySupport⟩

def contains (a : Capabilities) (flag : UInt32) : Bool := a.flags &&& flag == flag

def intersect (a b : Capabilities) : Capabilities := ⟨a.flags &&& b.flags⟩

/-- A flag the other side has too is not lost. -/
theorem contains_intersect {a b : Capabilities} {flag : UInt32} (known : b.flags &&& flag = flag) :
    (a.intersect b).contains flag = a.contains flag := by
  simp only [contains, intersect, UInt32.and_assoc, known]

end Capabilities

end BridgeOS
