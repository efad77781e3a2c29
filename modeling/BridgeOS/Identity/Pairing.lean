import BridgeOS.Identity.Trust

/-! # The pairing ceremony

Messages, the short authentication string and the two sides' session object. A
`PairingSession` starts without a remote side and gets it from the peer's
message, which is checked against itself only: its identifier has to be the one
of the key it carries.
-/

namespace BridgeOS

structure SasVerification where
  numericPin : UInt32
  formattedPin : String
  hexFingerprint : String
  deriving DecidableEq

structure PairingRequest where
  nodeId : NodeId
  publicKey : FixedBytes 32
  deviceName : String
  deviceType : DeviceType
  nonce : FixedBytes 32
  timestamp : UInt64
  deriving DecidableEq

/-- The same fields as a request. -/
structure PairingResponse where
  nodeId : NodeId
  publicKey : FixedBytes 32
  deviceName : String
  deviceType : DeviceType
  nonce : FixedBytes 32
  timestamp : UInt64
  deriving DecidableEq

structure PairingConfirm where
  nodeId : NodeId
  confirmed : Bool
  signature : Bytes
  deriving DecidableEq

/-- Identifiers in ascending order, nonces in the order of their identifiers. -/
def sasText (a b : NodeId) (nonceA nonceB : FixedBytes 32) : Bytes :=
  utf8 "BridgeOS-Pairing-SAS-v1" ++
    if a.bytes.bytes ≤ b.bytes.bytes then
      a.bytes.bytes ++ b.bytes.bytes ++ nonceA.bytes ++ nonceB.bytes
    else b.bytes.bytes ++ a.bytes.bytes ++ nonceB.bytes ++ nonceA.bytes

/-- Whichever of the two is called the first, the smaller identifier goes first. -/
theorem ordered_comm {α : Type} {a b : NodeId} (distinct : a ≠ b) (x y : α) :
    (if a.bytes.bytes ≤ b.bytes.bytes then x else y) =
      if b.bytes.bytes ≤ a.bytes.bytes then y else x := by
  by_cases first : a.bytes.bytes ≤ b.bytes.bytes
  · have second : ¬ b.bytes.bytes ≤ a.bytes.bytes := by
      intro back
      have same : a.bytes.bytes = b.bytes.bytes := List.le_antisymm first back
      exact distinct (congrArg NodeId.mk (FixedBytes.ext same))
    rw [if_pos first, if_neg second]
  · have second : b.bytes.bytes ≤ a.bytes.bytes := (List.le_total _ _).resolve_left first
    rw [if_neg first, if_pos second]

theorem sasText_comm {a b : NodeId} (distinct : a ≠ b) (nonceA nonceB : FixedBytes 32) :
    sasText a b nonceA nonceB = sasText b a nonceB nonceA := by
  unfold sasText
  rw [ordered_comm distinct]

/-- Big-endian. -/
def beNat (bytes : Bytes) : Nat := bytes.foldl (fun n b => n * 256 + b.toNat) 0

variable [Crypto]

def SasVerification.derive (a b : NodeId) (nonceA nonceB : FixedBytes 32) : SasVerification :=
  let digest := (Crypto.sha256 (sasText a b nonceA nonceB)).bytes
  let pin := beNat (digest.take 8) % 1000000
  { numericPin := UInt32.ofNat pin
    formattedPin := Text.threeDigits (pin / 1000) ++ "-" ++ Text.threeDigits (pin % 1000)
    hexFingerprint := Hex.encode (digest.take 4) }

theorem SasVerification.derive_comm {a b : NodeId} (distinct : a ≠ b) (nonceA nonceB : FixedBytes 32) :
    derive a b nonceA nonceB = derive b a nonceB nonceA := by
  unfold derive
  rw [sasText_comm distinct]

structure PairingSession where
  localKey : IdentityKey
  localName : String
  localType : DeviceType
  localNonce : FixedBytes 32
  remotePeer : Option TrustedPeer
  remoteNonce : Option (FixedBytes 32)
  sas : Option SasVerification

namespace PairingSession

def newInitiator {ε : Type} (localKey : IdentityKey) (localName : String) (localType : DeviceType) :
    HostProc ε (PairingSession × PairingRequest) := do
  let localNonce ← .request .random
  let now ← .request .now
  let req : PairingRequest :=
    { nodeId := localKey.nodeId
      publicKey := localKey.publicKey.bytes
      deviceName := localName
      deviceType := localType
      nonce := localNonce
      timestamp := now }
  return ({ localName := req.deviceName, localKey, localType, localNonce
            remotePeer := none, remoteNonce := none, sas := none }, req)

/-- The check both roles make on the peer's message. -/
def checkIdentity (nodeId : NodeId) (publicKey : FixedBytes 32) : Except IdentityError PublicKey :=
  match PublicKey.fromBytes publicKey with
  | .error e => .error (.core e)
  | .ok key =>
      if key.nodeId ≠ nodeId then .error (.keyMismatch nodeId nodeId.toHex key.nodeId.toHex)
      else .ok key

theorem checkIdentity_eq_ok {nodeId : NodeId} {publicKey : FixedBytes 32} {key : PublicKey} :
    checkIdentity nodeId publicKey = .ok key ↔
      key.bytes = publicKey ∧ key.nodeId = nodeId := by
  unfold checkIdentity
  cases made : PublicKey.fromBytes publicKey with
  | error e =>
      simp only [reduceCtorEq, false_iff, not_and]
      intro same
      rw [PublicKey.fromBytes_eq_ok.mpr same] at made
      cases made
  | ok found =>
      have same := PublicKey.fromBytes_eq_ok.mp made
      have unique : key.bytes = publicKey ↔ found = key :=
        ⟨fun h => PublicKey.ext (same.trans h.symm), fun h => h ▸ same⟩
      by_cases named : found.nodeId = nodeId
      · simp only [named, ne_eq, not_true_eq_false, if_false, Except.ok.injEq, unique]
        exact ⟨fun h => ⟨h, h ▸ named⟩, And.left⟩
      · simp only [named, ne_eq, not_false_eq_true, if_true, reduceCtorEq, unique, false_iff, not_and]
        exact fun h => h ▸ named

def newResponder (localKey : IdentityKey) (localName : String) (localType : DeviceType)
    (request : PairingRequest) :
    HostProc IdentityError (PairingSession × PairingResponse × SasVerification) := do
  let remotePubkey ← .orFail id (checkIdentity request.nodeId request.publicKey)
  let localNonce ← .request .random
  let now ← .request .now
  let sas := SasVerification.derive localKey.nodeId request.nodeId localNonce request.nonce
  let resp : PairingResponse :=
    { nodeId := localKey.nodeId
      publicKey := localKey.publicKey.bytes
      deviceName := localName
      deviceType := localType
      nonce := localNonce
      timestamp := now }
  let remotePeer : TrustedPeer :=
    { nodeId := request.nodeId
      publicKey := remotePubkey
      deviceName := request.deviceName
      deviceType := request.deviceType
      firstPairedAt := now
      lastSeenAt := now
      trustState := .pending }
  return ({ localName := resp.deviceName, localKey, localType, localNonce
            remotePeer := some remotePeer, remoteNonce := some request.nonce, sas := some sas },
    resp, sas)

def initiatorReceiveResponse (s : PairingSession) (response : PairingResponse) :
    HostProc IdentityError (PairingSession × SasVerification) := do
  let remotePubkey ← .orFail id (checkIdentity response.nodeId response.publicKey)
  let now ← .request .now
  let sas := SasVerification.derive s.localKey.nodeId response.nodeId s.localNonce response.nonce
  let remotePeer : TrustedPeer :=
    { nodeId := response.nodeId
      publicKey := remotePubkey
      deviceName := response.deviceName
      deviceType := response.deviceType
      firstPairedAt := now
      lastSeenAt := now
      trustState := .pending }
  return ({ s with
            remotePeer := some remotePeer, remoteNonce := some response.nonce, sas := some sas },
    sas)

/-- The text under the confirmation signature: the displayed number and both nonces. -/
def confirmationText (s : PairingSession) (sas : SasVerification) : Bytes :=
  utf8 "BridgeOS-Pairing-Confirm-v1" ++ utf8 sas.formattedPin ++
    match s.remotePeer, s.remoteNonce with
    | some remote, some remoteNonce =>
        if s.localKey.nodeId.bytes.bytes ≤ remote.nodeId.bytes.bytes then
          s.localNonce.bytes ++ remoteNonce.bytes
        else remoteNonce.bytes ++ s.localNonce.bytes
    | _, _ => s.localNonce.bytes

def confirm (s : PairingSession) : HostProc IdentityError PairingConfirm := do
  let some sas := s.sas
    | .error (.pairingFailed "Cannot confirm pairing before SAS derivation")
  let signature ← .request (HostCall.sign (s.confirmationText sas))
  return { nodeId := s.localKey.nodeId, confirmed := true, signature := signature.bytes }

def finalize (s : PairingSession) (confirmation : PairingConfirm) :
    HostProc IdentityError TrustedPeer := do
  if !confirmation.confirmed then
    .error (.pairingFailed "Remote peer rejected SAS confirmation")
  let some sas := s.sas
    | .error (.pairingFailed "Cannot finalize pairing before SAS derivation")
  let some remote := s.remotePeer
    | .error (.pairingFailed "No active remote peer in pairing session")
  if confirmation.nodeId ≠ remote.nodeId then
    .error (.keyMismatch confirmation.nodeId remote.nodeId.toHex confirmation.nodeId.toHex)
  let some signature := FixedBytes.ofBytes? 64 confirmation.signature
    | .error (.crypto "Invalid confirmation signature length: expected 64 bytes")
  let verified ← .request (HostCall.verify remote.publicKey (s.confirmationText sas) signature)
  .orFail IdentityError.core verified
  return { remote with trustState := .trusted }

/-- All that `finalize` asks of a confirmation, its signature apart. -/
structure Acceptable (s : PairingSession) (confirmation : PairingConfirm) (sas : SasVerification)
    (remote : TrustedPeer) (signature : FixedBytes 64) : Prop where
  derived : s.sas = some sas
  present : s.remotePeer = some remote
  confirmed : confirmation.confirmed = true
  named : confirmation.nodeId = remote.nodeId
  sized : FixedBytes.ofBytes? 64 confirmation.signature = some signature

section Finalize

variable {s : PairingSession} {confirmation : PairingConfirm}

theorem Acceptable.finalize_eq {sas : SasVerification} {remote : TrustedPeer}
    {signature : FixedBytes 64} (acceptable : s.Acceptable confirmation sas remote signature) :
    s.finalize confirmation =
      .ask (.verify remote.publicKey (s.confirmationText sas) signature) fun verified =>
        .orFail IdentityError.core verified >>= fun _ => .ok { remote with trustState := .trusted } := by
  obtain ⟨derived, present, confirmed, named, sized⟩ := acceptable
  unfold finalize
  simp only [confirmed, derived, present, named, sized, Bool.not_true, Bool.false_eq_true, if_false,
    ne_eq, not_true_eq_false]
  rfl

/-- Everything else fails before the signature is looked at. -/
theorem finalize_fails_or (s : PairingSession) (confirmation : PairingConfirm) :
    (∃ e, s.finalize confirmation = .error e) ∨
      ∃ sas remote signature, s.Acceptable confirmation sas remote signature := by
  cases confirmed : confirmation.confirmed with
  | false => exact .inl (by simp [finalize, confirmed])
  | true =>
  cases derived : s.sas with
  | none => exact .inl (by simp [finalize, confirmed, derived])
  | some sas =>
  cases present : s.remotePeer with
  | none => exact .inl (by simp [finalize, confirmed, derived, present])
  | some remote =>
  by_cases named : confirmation.nodeId = remote.nodeId
  · cases sized : FixedBytes.ofBytes? 64 confirmation.signature with
    | none => exact .inl (by simp [finalize, confirmed, derived, present, named, sized])
    | some signature => exact .inr ⟨sas, remote, signature, derived, present, confirmed, named, sized⟩
  · exact .inl (by simp [finalize, confirmed, derived, present, named])

end Finalize

end PairingSession

end BridgeOS
