import BridgeOS.Core
import BridgeOS.Lib.Proc

/-! # Identity keys

Ed25519 and SHA-256 are parameters with the two laws honest use relies on. A
public key is thirty-two bytes that decode to a curve point, and carries that
fact; its bytes are the node identifier. Signing and verifying are questions to
the machine, so that a run of the system shows who signed what. Both always hash
a text first, and the question carries the text.
-/

namespace BridgeOS

class Crypto where
  verifyingKey : FixedBytes 32 → FixedBytes 32
  isPoint : FixedBytes 32 → Bool
  sign : FixedBytes 32 → Bytes → FixedBytes 64
  verifyStrict : FixedBytes 32 → Bytes → FixedBytes 64 → Bool
  sha256 : Bytes → FixedBytes 32
  isPoint_verifyingKey : ∀ seed, isPoint (verifyingKey seed) = true
  verifyStrict_sign : ∀ seed message, verifyStrict (verifyingKey seed) message (sign seed message) = true

/-- The text under the challenge signature. -/
def handshakeChallenge (clientNonce serverNonce : FixedBytes 32) : Bytes :=
  utf8 "BridgeOS-Handshake-v1" ++ clientNonce.bytes ++ serverNonce.bytes

theorem handshakeChallenge_injective {c s c' s' : FixedBytes 32}
    (same : handshakeChallenge c s = handshakeChallenge c' s') : c = c' ∧ s = s' := by
  simp only [handshakeChallenge, List.append_assoc] at same
  obtain ⟨client, server⟩ := FixedBytes.append_inj (List.append_cancel_left same)
  exact ⟨client, FixedBytes.ext server⟩

variable [Crypto]

structure PublicKey where
  bytes : FixedBytes 32
  isPoint : Crypto.isPoint bytes = true
  deriving DecidableEq

structure IdentityKey where
  signingKey : FixedBytes 32
  deriving DecidableEq

namespace PublicKey

@[ext] theorem ext {a b : PublicKey} (same : a.bytes = b.bytes) : a = b := by
  cases a
  cases b
  simp_all

def fromBytes (bytes : FixedBytes 32) : Except BridgeError PublicKey :=
  if point : Crypto.isPoint bytes = true then .ok ⟨bytes, point⟩
  else .error (.identity "Invalid Ed25519 public key bytes")

def nodeId (key : PublicKey) : NodeId := ⟨key.bytes⟩

def verify (key : PublicKey) (message : Bytes) (signature : FixedBytes 64) : Except BridgeError Unit :=
  if Crypto.verifyStrict key.bytes message signature then .ok ()
  else .error (.identity "Signature verification failed")

theorem fromBytes_eq_ok {bytes : FixedBytes 32} {key : PublicKey} :
    fromBytes bytes = .ok key ↔ key.bytes = bytes := by
  unfold fromBytes
  constructor
  · intro made
    split at made
    · cases made
      rfl
    · cases made
  · rintro rfl
    rw [dif_pos key.isPoint]

theorem nodeId_injective : Function.Injective nodeId := by
  intro a b same
  exact PublicKey.ext (congrArg NodeId.bytes same)

theorem nodeId_of_fromBytes {nodeId : NodeId} {key : PublicKey}
    (made : fromBytes nodeId.bytes = .ok key) : key.nodeId = nodeId :=
  congrArg NodeId.mk (fromBytes_eq_ok.mp made)

end PublicKey

namespace IdentityKey

def publicKey (key : IdentityKey) : PublicKey :=
  ⟨Crypto.verifyingKey key.signingKey, Crypto.isPoint_verifyingKey _⟩

def nodeId (key : IdentityKey) : NodeId := key.publicKey.nodeId

def sign (key : IdentityKey) (message : Bytes) : FixedBytes 64 := Crypto.sign key.signingKey message

theorem verify_sign (key : IdentityKey) (message : Bytes) :
    key.publicKey.verify message (key.sign message) = .ok () := by
  simp [PublicKey.verify, publicKey, sign, Crypto.verifyStrict_sign]

end IdentityKey

/-- What a program asks of the machine it runs on: signatures with the local key,
    verifications, random numbers and the time. -/
inductive HostCall where
  | sign (text : Bytes)
  | verify (key : PublicKey) (text : Bytes) (signature : FixedBytes 64)
  | random
  | now

@[reducible] def HostCall.Answer : HostCall → Type
  | .sign _ => FixedBytes 64
  | .verify .. => Except BridgeError Unit
  | .random => FixedBytes 32
  | .now => UInt64

abbrev HostProc (ε α : Type) := Proc HostCall HostCall.Answer ε α

/-- The answers a machine with the local key `key` can give. -/
def HostCall.Honest (key : IdentityKey) : (c : HostCall) → c.Answer → Prop
  | .sign text, signature => signature = key.sign (Crypto.sha256 text).bytes
  | .verify other text signature, result => result = other.verify (Crypto.sha256 text).bytes signature
  | .random, _ => True
  | .now, _ => True

def signHandshakeChallenge {ε : Type} (clientNonce serverNonce : FixedBytes 32) :
    HostProc ε (FixedBytes 64) :=
  .request (HostCall.sign (handshakeChallenge clientNonce serverNonce))

def verifyHandshakeChallenge {ε : Type} (key : PublicKey) (clientNonce serverNonce : FixedBytes 32)
    (signature : FixedBytes 64) : HostProc ε (Except BridgeError Unit) :=
  .request (HostCall.verify key (handshakeChallenge clientNonce serverNonce) signature)

/-- An instance to run the model on, with no secrets: the public key is the seed,
    a signature is the seed followed by what was signed, and a digest is the end of
    the text. -/
@[reducible] def transparentCrypto : Crypto where
  verifyingKey seed := seed
  isPoint _ := true
  sign seed message := ⟨resize 0 (seed.bytes ++ message) 64, length_resize ..⟩
  verifyStrict key message signature := signature.bytes = resize 0 (key.bytes ++ message) 64
  sha256 text := ⟨resize 0 text.reverse 32, length_resize ..⟩
  isPoint_verifyingKey _ := rfl
  verifyStrict_sign _ _ := by simp

end BridgeOS
