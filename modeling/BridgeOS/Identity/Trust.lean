import BridgeOS.Identity.Keys
import BridgeOS.Lib.Text
import Mathlib.Data.List.AList

/-! # The trust store

One table with the hexadecimal node identifier as primary key and text and
integer columns, as the SQLite schema has it. A row is parsed when it is read,
so a damaged column is an error of the reading side. Faults of the database
itself are left to the caller: the functions here say what a statement does when
it is carried out.
-/

namespace BridgeOS

inductive TrustState where
  | trusted | pending | revoked
  deriving DecidableEq

def TrustState.asStr : TrustState → String
  | .trusted => "trusted"
  | .pending => "pending"
  | .revoked => "revoked"

def TrustState.fromStr (text : String) : TrustState :=
  let text := Text.toAsciiLowercase (Text.trim text)
  if text = "trusted" then .trusted else if text = "revoked" then .revoked else .pending

theorem TrustState.fromStr_asStr (state : TrustState) : fromStr state.asStr = state := by
  cases state <;> decide

def DeviceType.toText : DeviceType → String
  | .windows => "Windows"
  | .android => "Android"
  | .linux => "Linux"
  | .macOS => "macOS"
  | .unknown => "Unknown"

def DeviceType.fromStr (text : String) : DeviceType :=
  let text := Text.toAsciiLowercase (Text.trim text)
  if text = "windows" then .windows
  else if text = "android" then .android
  else if text = "linux" then .linux
  else if text = "macos" ∨ text = "darwin" then .macOS
  else .unknown

theorem DeviceType.fromStr_toText (deviceType : DeviceType) : fromStr deviceType.toText = deviceType := by
  cases deviceType <;> decide

inductive IdentityError where
  | database (text : String)
  | core (error : BridgeError)
  | keyMismatch (nodeId : NodeId) (expected presented : String)
  | peerRevoked (nodeId : NodeId)
  | pairingFailed (text : String)
  | crypto (text : String)
  deriving DecidableEq

/-- `as i64` on an unsigned number. -/
def asI64 (n : UInt64) : Int := if n.toNat < 2 ^ 63 then n.toNat else (n.toNat : Int) - 2 ^ 64

/-- `max(0) as u64` on a column. -/
def fromI64 (n : Int) : UInt64 := UInt64.ofNat n.toNat

structure PeerRow where
  publicKey : String
  deviceName : String
  deviceType : String
  firstPairedAt : Int
  lastSeenAt : Int
  trustState : String
  deriving DecidableEq

abbrev TrustStore := AList (fun _ : String => PeerRow)

variable [Crypto]

structure TrustedPeer where
  nodeId : NodeId
  publicKey : PublicKey
  deviceName : String
  deviceType : DeviceType
  firstPairedAt : UInt64
  lastSeenAt : UInt64
  trustState : TrustState
  deriving DecidableEq

def TrustedPeer.toRow (peer : TrustedPeer) : PeerRow :=
  { publicKey := Hex.encode peer.publicKey.bytes.bytes
    deviceName := peer.deviceName
    deviceType := peer.deviceType.toText
    firstPairedAt := asI64 peer.firstPairedAt
    lastSeenAt := asI64 peer.lastSeenAt
    trustState := peer.trustState.asStr }

namespace TrustStore

def savePeer (store : TrustStore) (peer : TrustedPeer) : TrustStore :=
  match store.lookup peer.nodeId.toHex with
  | none => store.insert peer.nodeId.toHex peer.toRow
  | some old =>
      store.insert peer.nodeId.toHex { peer.toRow with firstPairedAt := old.firstPairedAt }

def rowToPeer (nodeIdHex : String) (row : PeerRow) : Except IdentityError TrustedPeer := do
  let some nodeId := NodeId.fromHex nodeIdHex
    | .error (.database "Conversion error from type Text at index: 0")
  let some pubkeyBytes := Hex.decode row.publicKey
    | .error (.database "Conversion error from type Text at index: 1")
  let some pubkeyArr := FixedBytes.ofBytes? 32 pubkeyBytes
    | .error (.database "Conversion error from type Text at index: 1, Invalid pubkey length")
  match PublicKey.fromBytes pubkeyArr with
  | .error _ => .error (.database "Conversion error from type Text at index: 1")
  | .ok publicKey =>
      .ok { nodeId, publicKey
            deviceName := row.deviceName
            deviceType := .fromStr row.deviceType
            firstPairedAt := fromI64 row.firstPairedAt
            lastSeenAt := fromI64 row.lastSeenAt
            trustState := .fromStr row.trustState }

def getPeer (store : TrustStore) (nodeId : NodeId) : Except IdentityError (Option TrustedPeer) :=
  match store.lookup nodeId.toHex with
  | none => .ok none
  | some row => (rowToPeer nodeId.toHex row).map some

def isTrusted (store : TrustStore) (nodeId : NodeId) (presentedKey : PublicKey) :
    Except IdentityError Bool := do
  let some peer ← getPeer store nodeId | .ok false
  if peer.publicKey ≠ presentedKey then
    .error (.keyMismatch nodeId (Hex.encode peer.publicKey.bytes.bytes)
      (Hex.encode presentedKey.bytes.bytes))
  else match peer.trustState with
    | .revoked => .error (.peerRevoked nodeId)
    | .trusted => .ok true
    | .pending => .ok false

def updateLastSeen (store : TrustStore) (nodeId : NodeId) (timestamp : UInt64) : TrustStore :=
  match store.lookup nodeId.toHex with
  | none => store
  | some row => store.insert nodeId.toHex { row with lastSeenAt := asI64 timestamp }

def setTrustState (store : TrustStore) (nodeId : NodeId) (state : TrustState) : TrustStore :=
  match store.lookup nodeId.toHex with
  | none => store
  | some row => store.insert nodeId.toHex { row with trustState := state.asStr }

def revokePeer (store : TrustStore) (nodeId : NodeId) : TrustStore :=
  store.setTrustState nodeId .revoked

/-- Whether there was a row, and the table without it. -/
def deletePeer (store : TrustStore) (nodeId : NodeId) : Bool × TrustStore :=
  ((store.lookup nodeId.toHex).isSome, store.erase nodeId.toHex)

/-- What is stored under the key's identifier cannot be read, is another key, or is revoked. -/
def Refuses (store : TrustStore) (key : PublicKey) : Prop :=
  match getPeer store key.nodeId with
  | .error _ => True
  | .ok none => False
  | .ok (some peer) => peer.publicKey ≠ key ∨ peer.trustState = .revoked

theorem refuses_iff {store : TrustStore} {key : PublicKey} :
    Refuses store key ↔ ∀ trusted, isTrusted store key.nodeId key ≠ .ok trusted := by
  unfold Refuses isTrusted
  cases getPeer store key.nodeId with
  | error e => simp [bind, Except.bind]
  | ok found =>
      cases found with
      | none => simp [bind, Except.bind]
      | some peer =>
          by_cases same : peer.publicKey = key
          · cases state : peer.trustState <;> simp [bind, Except.bind, same, state]
          · simp [bind, Except.bind, same]

/-- Reading back what was written changes nothing but times beyond `i64`. -/
theorem rowToPeer_toRow (peer : TrustedPeer) (row : PeerRow)
    (same : row = { peer.toRow with firstPairedAt := row.firstPairedAt }) :
    rowToPeer peer.nodeId.toHex row = .ok { peer with
      firstPairedAt := fromI64 row.firstPairedAt
      lastSeenAt := fromI64 (asI64 peer.lastSeenAt) } := by
  have key : PublicKey.fromBytes peer.publicKey.bytes = .ok peer.publicKey :=
    PublicKey.fromBytes_eq_ok.mpr rfl
  rw [same]
  simp [rowToPeer, TrustedPeer.toRow, key, DeviceType.fromStr_toText, TrustState.fromStr_asStr]

theorem getPeer_savePeer_self (store : TrustStore) (peer : TrustedPeer) :
    ∃ firstPairedAt, getPeer (savePeer store peer) peer.nodeId = .ok (some { peer with
      firstPairedAt := firstPairedAt
      lastSeenAt := fromI64 (asI64 peer.lastSeenAt) }) := by
  unfold savePeer getPeer
  cases stored : store.lookup peer.nodeId.toHex with
  | none =>
      refine ⟨fromI64 (asI64 peer.firstPairedAt), ?_⟩
      simp only [AList.lookup_insert, rowToPeer_toRow peer peer.toRow rfl]
      rfl
  | some old =>
      refine ⟨fromI64 old.firstPairedAt, ?_⟩
      simp only [AList.lookup_insert,
        rowToPeer_toRow peer { peer.toRow with firstPairedAt := old.firstPairedAt } rfl]
      rfl

theorem getPeer_savePeer_other (store : TrustStore) (peer : TrustedPeer) {nodeId : NodeId}
    (other : nodeId ≠ peer.nodeId) : getPeer (savePeer store peer) nodeId = getPeer store nodeId := by
  have differs : nodeId.toHex ≠ peer.nodeId.toHex := fun same =>
    other (NodeId.toHex_injective same)
  unfold savePeer getPeer
  cases store.lookup peer.nodeId.toHex with
  | none => rw [AList.lookup_insert_ne differs]
  | some old => rw [AList.lookup_insert_ne differs]

/-- Under the key it was saved with, a peer is what it was saved as. -/
theorem isTrusted_savePeer (store : TrustStore) (peer : TrustedPeer) :
    isTrusted (savePeer store peer) peer.nodeId peer.publicKey = match peer.trustState with
      | .revoked => .error (.peerRevoked peer.nodeId)
      | .trusted => .ok true
      | .pending => .ok false := by
  obtain ⟨at_, found⟩ := getPeer_savePeer_self store peer
  unfold isTrusted
  rw [found]
  simp [bind, Except.bind]

variable {peer : TrustedPeer} {row : PeerRow}

theorem isTrusted_savePeer_self (store : TrustStore) (trusted : peer.trustState = .trusted) :
    isTrusted (savePeer store peer) peer.nodeId peer.publicKey = .ok true := by
  rw [isTrusted_savePeer, trusted]

/-- There is a row for the peer and it says so. -/
def Revoked (store : TrustStore) (nodeId : NodeId) : Prop :=
  ∃ row, store.lookup nodeId.toHex = some row ∧ TrustState.fromStr row.trustState = .revoked

omit [Crypto] in
theorem revoked_revokePeer {store : TrustStore} {nodeId : NodeId}
    (stored : store.lookup nodeId.toHex = some row) : Revoked (store.revokePeer nodeId) nodeId := by
  unfold revokePeer setTrustState
  rw [stored]
  exact ⟨_, AList.lookup_insert _, TrustState.fromStr_asStr .revoked⟩

/-- What is read from a row is what its columns say. -/
theorem rowToPeer_eq_ok {nodeIdHex : String} (read : rowToPeer nodeIdHex row = .ok peer) :
    NodeId.fromHex nodeIdHex = some peer.nodeId ∧
      NodeId.fromHex row.publicKey = some peer.publicKey.nodeId ∧
      peer.trustState = .fromStr row.trustState := by
  unfold rowToPeer at read
  cases id : NodeId.fromHex nodeIdHex with
  | none => simp [id] at read
  | some nodeId =>
      cases bytes : Hex.decode row.publicKey with
      | none => simp [id, bytes] at read
      | some decoded =>
          cases sized : FixedBytes.ofBytes? 32 decoded with
          | none => simp [id, bytes, sized] at read
          | some array =>
              cases made : PublicKey.fromBytes array with
              | error e => simp [id, bytes, sized, made] at read
              | ok key =>
                  simp only [id, bytes, sized, made, Except.ok.injEq] at read
                  rw [← read]
                  refine ⟨rfl, ?_, by dsimp only⟩
                  simp [NodeId.fromHex, bytes, sized, PublicKey.nodeId, PublicKey.fromBytes_eq_ok.mp made]

theorem trustState_of_rowToPeer {nodeIdHex : String} (read : rowToPeer nodeIdHex row = .ok peer) :
    peer.trustState = .fromStr row.trustState :=
  (rowToPeer_eq_ok read).2.2

namespace Revoked

variable {store : TrustStore} {nodeId : NodeId}

variable (revoked : Revoked store nodeId)

include revoked

omit [Crypto] in
/-- Another row is written, or this one without its state. -/
theorem insert {key : String} (same : nodeId.toHex = key → TrustState.fromStr row.trustState = .revoked) :
    Revoked (store.insert key row) nodeId := by
  obtain ⟨old, stored, state⟩ := revoked
  by_cases own : nodeId.toHex = key
  · refine ⟨row, ?_, same own⟩
    rw [own]
    exact AList.lookup_insert _
  · refine ⟨old, ?_, state⟩
    rw [AList.lookup_insert_ne own]
    exact stored

omit [Crypto] in
theorem updateLastSeen (other : NodeId) (timestamp : UInt64) :
    Revoked (store.updateLastSeen other timestamp) nodeId := by
  unfold TrustStore.updateLastSeen
  cases found : store.lookup other.toHex with
  | none => exact revoked
  | some row =>
      apply revoked.insert
      intro same
      obtain ⟨old, stored, state⟩ := revoked
      rw [same, found] at stored
      cases stored
      exact state

omit [Crypto] in
theorem revokePeer (other : NodeId) : Revoked (store.revokePeer other) nodeId := by
  unfold TrustStore.revokePeer setTrustState
  cases store.lookup other.toHex with
  | none => exact revoked
  | some row => exact revoked.insert fun _ => TrustState.fromStr_asStr .revoked

theorem savePeer (other : peer.nodeId ≠ nodeId) : Revoked (store.savePeer peer) nodeId := by
  have differs : nodeId.toHex ≠ peer.nodeId.toHex := fun same =>
    other (NodeId.toHex_injective same).symm
  unfold TrustStore.savePeer
  cases store.lookup peer.nodeId.toHex with
  | none => exact revoked.insert fun same => absurd same differs
  | some old => exact revoked.insert fun same => absurd same differs

/-- No key is trusted under the identifier. -/
theorem not_isTrusted (key : PublicKey) : store.isTrusted nodeId key ≠ .ok true := by
  obtain ⟨row, stored, state⟩ := revoked
  unfold isTrusted getPeer
  rw [stored]
  dsimp only
  cases read : rowToPeer nodeId.toHex row with
  | error e => simp [bind, Except.bind, Except.map]
  | ok peer =>
      have same : peer.trustState = .revoked := (trustState_of_rowToPeer read).trans state
      by_cases key' : peer.publicKey = key
      · simp [bind, Except.bind, Except.map, key', same]
      · simp [bind, Except.bind, Except.map, key']

end Revoked

/-- Two columns that stand for themselves. -/
theorem rowToPeer_update (nodeIdHex : String) (row : PeerRow) (lastSeenAt : Int) (trustState : String) :
    rowToPeer nodeIdHex { row with lastSeenAt, trustState } = (rowToPeer nodeIdHex row).map fun peer =>
      { peer with lastSeenAt := fromI64 lastSeenAt, trustState := .fromStr trustState } := by
  unfold rowToPeer
  cases NodeId.fromHex nodeIdHex with
  | none => rfl
  | some nodeId =>
      cases Hex.decode row.publicKey with
      | none => rfl
      | some bytes =>
          dsimp only
          cases FixedBytes.ofBytes? 32 bytes with
          | none => rfl
          | some array =>
              dsimp only
              cases PublicKey.fromBytes array <;> simp only [Except.map]

/-- The peer's record can be read and holds the key that the identifier stands for. -/
def Holds (store : TrustStore) (nodeId : NodeId) : Prop :=
  ∃ peer, getPeer store nodeId = .ok (some peer) ∧ peer.publicKey.nodeId = nodeId

/-- Such a record, revoked. -/
def Withdrawn (store : TrustStore) (nodeId : NodeId) : Prop :=
  ∃ peer, getPeer store nodeId = .ok (some peer) ∧ peer.publicKey.nodeId = nodeId ∧
    peer.trustState = .revoked

/-- Writing the two columns of a record that can be read. -/
theorem getPeer_update {store : TrustStore} {nodeId : NodeId} (stored : store.lookup nodeId.toHex = some row)
    (read : getPeer store nodeId = .ok (some peer)) (lastSeenAt : Int) (trustState : String) :
    getPeer (store.insert nodeId.toHex { row with lastSeenAt, trustState }) nodeId =
        .ok (some { peer with lastSeenAt := fromI64 lastSeenAt, trustState := .fromStr trustState }) ∧
      peer.trustState = .fromStr row.trustState := by
  unfold getPeer at read ⊢
  rw [stored] at read
  rw [AList.lookup_insert]
  dsimp only at read ⊢
  rw [rowToPeer_update]
  cases parsed : rowToPeer nodeId.toHex row with
  | error e => simp [parsed, Except.map] at read
  | ok old =>
      simp only [parsed, Except.map, Except.ok.injEq, Option.some.injEq] at read
      rw [← read]
      exact ⟨rfl, trustState_of_rowToPeer parsed⟩

theorem Holds.withdrawn {store : TrustStore} {nodeId : NodeId} (holds : Holds store nodeId) :
    Withdrawn (store.revokePeer nodeId) nodeId := by
  obtain ⟨peer, read, own⟩ := holds
  unfold revokePeer setTrustState
  cases stored : store.lookup nodeId.toHex with
  | none =>
      unfold getPeer at read
      simp [stored] at read
  | some row =>
      have written := (getPeer_update stored read row.lastSeenAt TrustState.revoked.asStr).1
      exact ⟨_, written, own, TrustState.fromStr_asStr .revoked⟩

namespace Withdrawn

variable {store : TrustStore} {nodeId : NodeId}

theorem insert (withdrawn : Withdrawn store nodeId) {other : NodeId} (lastSeenAt : Int) {trustState : String}
    (stored : store.lookup other.toHex = some row)
    (same : trustState = row.trustState ∨ TrustState.fromStr trustState = .revoked) :
    Withdrawn (store.insert other.toHex { row with lastSeenAt, trustState }) nodeId := by
  by_cases differs : nodeId.toHex = other.toHex
  · obtain rfl := NodeId.toHex_injective differs
    obtain ⟨peer, read, own, revoked⟩ := withdrawn
    obtain ⟨written, state⟩ := getPeer_update stored read lastSeenAt trustState
    refine ⟨_, written, own, ?_⟩
    dsimp only
    cases same with
    | inl same =>
        rw [same]
        exact state.symm.trans revoked
    | inr same => exact same
  · unfold Withdrawn getPeer
    rw [AList.lookup_insert_ne differs]
    exact withdrawn

theorem updateLastSeen (withdrawn : Withdrawn store nodeId) (other : NodeId) (timestamp : UInt64) :
    Withdrawn (store.updateLastSeen other timestamp) nodeId := by
  unfold TrustStore.updateLastSeen
  cases stored : store.lookup other.toHex with
  | none => exact withdrawn
  | some row => exact withdrawn.insert (asI64 timestamp) stored (.inl rfl)

theorem revokePeer (withdrawn : Withdrawn store nodeId) (other : NodeId) :
    Withdrawn (store.revokePeer other) nodeId := by
  unfold TrustStore.revokePeer setTrustState
  cases stored : store.lookup other.toHex with
  | none => exact withdrawn
  | some row => exact withdrawn.insert row.lastSeenAt stored (.inr (TrustState.fromStr_asStr .revoked))

theorem savePeer (withdrawn : Withdrawn store nodeId) (other : peer.nodeId ≠ nodeId) :
    Withdrawn (store.savePeer peer) nodeId := by
  unfold Withdrawn
  rw [getPeer_savePeer_other store peer other.symm]
  exact withdrawn

theorem isTrusted_own {key : PublicKey} (withdrawn : Withdrawn store nodeId) (own : key.nodeId = nodeId) :
    store.isTrusted nodeId key = .error (.peerRevoked nodeId) := by
  obtain ⟨peer, read, stored, revoked⟩ := withdrawn
  have same : peer.publicKey = key := PublicKey.nodeId_injective (stored.trans own.symm)
  unfold isTrusted
  rw [read]
  simp [bind, Except.bind, same, revoked]

theorem not_isTrusted (withdrawn : Withdrawn store nodeId) (key : PublicKey) :
    store.isTrusted nodeId key ≠ .ok true := by
  obtain ⟨peer, read, -, revoked⟩ := withdrawn
  unfold isTrusted
  rw [read]
  by_cases same : peer.publicKey = key
  · simp [bind, Except.bind, same, revoked]
  · simp [bind, Except.bind, same]

end Withdrawn

end TrustStore

end BridgeOS
