import BridgeOS.Identity.Trust
import BridgeOS.Lib.Table
import Mathlib.Data.Finmap

/-! # The trust store is a map

Every record passes through text and signed numbers on its way into the table and
out of it, and a save of a known peer leaves one column alone. What a reader sees
is a finite map from node identifiers to records all the same, as long as no time
is beyond `i64`.
-/

namespace BridgeOS

variable [Crypto]

namespace TrustStore

/-- The calls that write. -/
inductive Write where
  | savePeer (peer : TrustedPeer)
  | updateLastSeen (nodeId : NodeId) (timestamp : UInt64)
  | setTrustState (nodeId : NodeId) (state : TrustState)
  | revokePeer (nodeId : NodeId)
  | deletePeer (nodeId : NodeId)
  deriving DecidableEq

namespace Write

/-- Whose record is written. -/
def nodeId : Write → NodeId
  | .savePeer peer => peer.nodeId
  | .updateLastSeen n _ => n
  | .setTrustState n _ => n
  | .revokePeer n => n
  | .deletePeer n => n

def perform (store : TrustStore) : Write → TrustStore
  | .savePeer peer => store.savePeer peer
  | .updateLastSeen n timestamp => store.updateLastSeen n timestamp
  | .setTrustState n state => store.setTrustState n state
  | .revokePeer n => store.revokePeer n
  | .deletePeer n => (store.deletePeer n).2

/-- Its times are below `2 ^ 63`. -/
def Timely : Write → Prop
  | .savePeer peer => peer.firstPairedAt.toNat < 2 ^ 63 ∧ peer.lastSeenAt.toNat < 2 ^ 63
  | .updateLastSeen _ timestamp => timestamp.toNat < 2 ^ 63
  | _ => True

instance : (write : Write) → Decidable write.Timely
  | .savePeer _ => inferInstanceAs (Decidable (_ ∧ _))
  | .updateLastSeen _ _ => inferInstanceAs (Decidable (_ < _))
  | .setTrustState _ _ => inferInstanceAs (Decidable True)
  | .revokePeer _ => inferInstanceAs (Decidable True)
  | .deletePeer _ => inferInstanceAs (Decidable True)

/-- What a write makes of a record: a save keeps the first pairing, an update of
    nothing is nothing. -/
def act : Write → Option TrustedPeer → Option TrustedPeer
  | .savePeer peer, none => some peer
  | .savePeer peer, some old => some { peer with firstPairedAt := old.firstPairedAt }
  | .updateLastSeen _ timestamp, record => record.map fun peer => { peer with lastSeenAt := timestamp }
  | .setTrustState _ state, record => record.map fun peer => { peer with trustState := state }
  | .revokePeer _, record => record.map fun peer => { peer with trustState := .revoked }
  | .deletePeer _, _ => none

end Write

def performAll (store : TrustStore) (writes : List Write) : TrustStore := writes.foldl Write.perform store

end TrustStore

open TrustStore (Write)

/-- The records by node identifier. -/
abbrev PeerMap := Finmap (fun _ : NodeId => TrustedPeer)

namespace PeerMap

def perform (map : PeerMap) (write : Write) : PeerMap :=
  match write.act (map.lookup write.nodeId) with
  | none => map.erase write.nodeId
  | some peer => map.insert write.nodeId peer

def performAll (map : PeerMap) (writes : List Write) : PeerMap := writes.foldl perform map

/-- A write changes one entry. -/
theorem lookup_perform (map : PeerMap) (write : Write) (n : NodeId) :
    (map.perform write).lookup n =
      if n = write.nodeId then write.act (map.lookup n) else map.lookup n := by
  unfold perform
  by_cases own : n = write.nodeId
  · subst own
    rw [if_pos rfl]
    cases write.act (map.lookup write.nodeId) with
    | none => exact Finmap.lookup_erase _ _
    | some peer => exact Finmap.lookup_insert _
  · rw [if_neg own]
    cases write.act (map.lookup write.nodeId) with
    | none => exact Finmap.lookup_erase_ne own
    | some peer => exact Finmap.lookup_insert_of_ne _ own

theorem performAll_snoc (map : PeerMap) (writes : List Write) (write : Write) :
    map.performAll (writes ++ [write]) = (map.performAll writes).perform write := by
  simp [performAll]

/-- What `is_trusted` says of a record and a key. -/
def verdict (record : Option TrustedPeer) (nodeId : NodeId) (presentedKey : PublicKey) :
    Except IdentityError Bool :=
  match record with
  | none => .ok false
  | some peer =>
      if peer.publicKey = presentedKey then
        match peer.trustState with
        | .trusted => .ok true
        | .pending => .ok false
        | .revoked => .error (.peerRevoked nodeId)
      else
        .error (.keyMismatch nodeId (Hex.encode peer.publicKey.bytes.bytes)
          (Hex.encode presentedKey.bytes.bytes))

/-- The record's first pairing is that of the first save since the last delete. -/
def FirstSaved (writes : List Write) (n : NodeId) (peer : TrustedPeer) : Prop :=
  ∃ before first after, writes = before ++ .savePeer first :: after ∧ first.nodeId = n ∧
    (performAll ∅ before).lookup n = none ∧ .deletePeer n ∉ after ∧
    peer.firstPairedAt = first.firstPairedAt

/-- Its key, name and type are those of the last save, behind which there is no delete. -/
def LastSaved (writes : List Write) (n : NodeId) (peer : TrustedPeer) : Prop :=
  ∃ before last after, writes = before ++ .savePeer last :: after ∧ last.nodeId = n ∧
    (∀ saved, .savePeer saved ∈ after → saved.nodeId ≠ n) ∧ .deletePeer n ∉ after ∧
    peer.publicKey = last.publicKey ∧ peer.deviceName = last.deviceName ∧
    peer.deviceType = last.deviceType

section History

variable {writes : List Write} {n : NodeId} {peer old : TrustedPeer} {write : Write}

theorem FirstSaved.snoc (saved : FirstSaved writes n old) (kept : write ≠ .deletePeer n)
    (same : peer.firstPairedAt = old.firstPairedAt) : FirstSaved (writes ++ [write]) n peer := by
  obtain ⟨before, first, after, rfl, own, fresh, undeleted, at_⟩ := saved
  refine ⟨before, first, after ++ [write], by simp, own, fresh, ?_, same.trans at_⟩
  simp [undeleted, kept.symm]

theorem LastSaved.snoc (saved : LastSaved writes n old) (kept : write ≠ .deletePeer n)
    (unsaved : ∀ saved, write = .savePeer saved → saved.nodeId ≠ n)
    (key : peer.publicKey = old.publicKey) (name : peer.deviceName = old.deviceName)
    (kind : peer.deviceType = old.deviceType) : LastSaved (writes ++ [write]) n peer := by
  obtain ⟨before, last, after, rfl, own, unsaved', undeleted, key', name', kind'⟩ := saved
  refine ⟨before, last, after ++ [write], by simp, own, ?_, ?_, key.trans key', name.trans name',
    kind.trans kind'⟩
  · intro other member
    rcases List.mem_append.mp member with earlier | final
    · exact unsaved' other earlier
    · exact unsaved other (List.mem_singleton.mp final).symm
  · simp [undeleted, kept.symm]

/-- By induction over the writes: where the columns of a record come from. -/
theorem saved_of_lookup (found : (performAll ∅ writes).lookup n = some peer) :
    FirstSaved writes n peer ∧ LastSaved writes n peer := by
  induction writes using List.reverseRecOn generalizing peer with
  | nil => cases found
  | append_singleton writes write ih =>
      rw [performAll_snoc, lookup_perform] at found
      by_cases own : n = write.nodeId
      · rw [if_pos own] at found
        cases record : (performAll ∅ writes).lookup n with
        | none =>
            rw [record] at found
            cases write with
            | savePeer saved =>
                cases found
                exact ⟨⟨writes, peer, [], rfl, own.symm, record, List.not_mem_nil, rfl⟩,
                  ⟨writes, peer, [], rfl, own.symm, fun _ member => absurd member List.not_mem_nil,
                    List.not_mem_nil, rfl, rfl, rfl⟩⟩
            | _ => cases found
        | some old =>
            rw [record] at found
            obtain ⟨first, last⟩ := ih record
            cases write with
            | savePeer saved =>
                cases found
                exact ⟨first.snoc nofun rfl,
                  ⟨writes, saved, [], rfl, own.symm, fun _ member => absurd member List.not_mem_nil,
                    List.not_mem_nil, rfl, rfl, rfl⟩⟩
            | deletePeer m => cases found
            | _ =>
                cases found
                exact ⟨first.snoc nofun rfl, last.snoc nofun nofun rfl rfl rfl⟩
      · rw [if_neg own] at found
        obtain ⟨first, last⟩ := ih found
        have kept : write ≠ .deletePeer n := fun same => own (same ▸ rfl)
        refine ⟨first.snoc kept rfl, last.snoc kept ?_ rfl rfl rfl⟩
        rintro saved rfl same
        exact own same.symm

end History

end PeerMap

namespace TrustStore

omit [Crypto] in
theorem fromI64_asI64 {n : UInt64} (small : n.toNat < 2 ^ 63) : fromI64 (asI64 n) = n := by
  rw [fromI64, asI64, if_pos small, Int.toNat_natCast, UInt64.ofNat_toNat]

/-- The same write on a row. -/
def Write.actRow : Write → Option PeerRow → Option PeerRow
  | .savePeer peer, none => some peer.toRow
  | .savePeer peer, some old => some { peer.toRow with firstPairedAt := old.firstPairedAt }
  | .updateLastSeen _ timestamp, row => row.map fun row => { row with lastSeenAt := asI64 timestamp }
  | .setTrustState _ state, row => row.map fun row => { row with trustState := state.asStr }
  | .revokePeer _, row => row.map fun row => { row with trustState := TrustState.revoked.asStr }
  | .deletePeer _, _ => none

omit [Crypto] in
theorem updateLastSeen_eq (store : TrustStore) (n : NodeId) (timestamp : UInt64) :
    store.updateLastSeen n timestamp =
      store.modify n.toHex fun row => { row with lastSeenAt := asI64 timestamp } := by
  unfold updateLastSeen AList.modify
  cases store.lookup n.toHex with
  | none => rfl
  | some row => rfl

omit [Crypto] in
theorem setTrustState_eq (store : TrustStore) (n : NodeId) (state : TrustState) :
    store.setTrustState n state =
      store.modify n.toHex fun row => { row with trustState := state.asStr } := by
  unfold setTrustState AList.modify
  cases store.lookup n.toHex with
  | none => rfl
  | some row => rfl

/-- A statement changes the row of its key and no other. -/
theorem lookup_perform (store : TrustStore) (write : Write) (n : NodeId) :
    (write.perform store).lookup n.toHex =
      if n = write.nodeId then write.actRow (store.lookup n.toHex) else store.lookup n.toHex := by
  by_cases own : n = write.nodeId
  · subst own
    rw [if_pos rfl]
    cases write with
    | savePeer peer =>
        simp only [Write.perform, Write.nodeId, savePeer]
        cases store.lookup peer.nodeId.toHex with
        | none => exact AList.lookup_insert store
        | some old => exact AList.lookup_insert store
    | updateLastSeen m timestamp =>
        rw [Write.perform, updateLastSeen_eq]
        exact AList.lookup_modify store m.toHex _
    | setTrustState m state =>
        rw [Write.perform, setTrustState_eq]
        exact AList.lookup_modify store m.toHex _
    | revokePeer m =>
        rw [Write.perform, revokePeer, setTrustState_eq]
        exact AList.lookup_modify store m.toHex _
    | deletePeer m => exact AList.lookup_erase _ store
  · rw [if_neg own]
    have differs : n.toHex ≠ write.nodeId.toHex := fun same => own (NodeId.toHex_injective same)
    cases write with
    | savePeer peer =>
        simp only [Write.perform, savePeer]
        cases store.lookup peer.nodeId.toHex with
        | none => exact AList.lookup_insert_ne differs
        | some old => exact AList.lookup_insert_ne differs
    | updateLastSeen m timestamp =>
        rw [Write.perform, updateLastSeen_eq]
        exact AList.lookup_modify_ne store _ differs
    | setTrustState m state =>
        rw [Write.perform, setTrustState_eq]
        exact AList.lookup_modify_ne store _ differs
    | revokePeer m =>
        rw [Write.perform, revokePeer, setTrustState_eq]
        exact AList.lookup_modify_ne store _ differs
    | deletePeer m => exact AList.lookup_erase_ne differs

/-- A record under its own identifier, with times that a signed column can hold. -/
structure Kept (n : NodeId) (peer : TrustedPeer) : Prop where
  own : peer.nodeId = n
  paired : peer.firstPairedAt.toNat < 2 ^ 63
  seen : peer.lastSeenAt.toNat < 2 ^ 63

/-- The table holds the rows of the map's records. -/
structure Represents (store : TrustStore) (map : PeerMap) : Prop where
  rows : ∀ n, store.lookup n.toHex = (map.lookup n).map TrustedPeer.toRow
  kept : ∀ n, ∀ peer ∈ map.lookup n, Kept n peer

theorem represents_empty : Represents ∅ ∅ := ⟨fun _ => rfl, fun _ _ found => by cases found⟩

theorem Write.actRow_map (write : Write) (record : Option TrustedPeer) :
    write.actRow (record.map TrustedPeer.toRow) = (write.act record).map TrustedPeer.toRow := by
  cases write <;> cases record <;> rfl

theorem Write.Timely.kept {write : Write} (timely : write.Timely) {record : Option TrustedPeer}
    (kept : ∀ peer ∈ record, Kept write.nodeId peer) :
    ∀ peer ∈ write.act record, Kept write.nodeId peer := by
  intro peer written
  cases record with
  | none =>
      cases write with
      | savePeer saved =>
          cases written
          exact ⟨rfl, timely.1, timely.2⟩
      | _ => cases written
  | some old =>
      obtain ⟨own, paired, seen⟩ := kept old rfl
      cases write with
      | savePeer saved =>
          cases written
          exact ⟨rfl, paired, timely.2⟩
      | updateLastSeen m timestamp =>
          cases written
          exact ⟨own, paired, timely⟩
      | setTrustState m state =>
          cases written
          exact ⟨own, paired, seen⟩
      | revokePeer m =>
          cases written
          exact ⟨own, paired, seen⟩
      | deletePeer m => cases written

/-- One write on both sides. -/
theorem Represents.perform {store : TrustStore} {map : PeerMap} (represents : Represents store map)
    {write : Write} (timely : write.Timely) : Represents (write.perform store) (map.perform write) := by
  constructor
  · intro n
    rw [lookup_perform, PeerMap.lookup_perform, represents.rows]
    split
    · exact write.actRow_map _
    · rfl
  · intro n peer found
    rw [PeerMap.lookup_perform] at found
    split at found
    · rename_i own
      subst own
      exact timely.kept (represents.kept _) peer found
    · exact represents.kept n peer found

theorem Represents.performAll {store : TrustStore} {map : PeerMap} (represents : Represents store map)
    {writes : List Write} (timely : ∀ write ∈ writes, write.Timely) :
    Represents (store.performAll writes) (map.performAll writes) := by
  induction writes generalizing store map with
  | nil => exact represents
  | cons write rest ih =>
      exact ih (represents.perform (timely write List.mem_cons_self)) fun later member =>
        timely later (List.mem_cons_of_mem _ member)

/-- Such a record is read back as it is. -/
theorem Kept.rowToPeer {n : NodeId} {peer : TrustedPeer} (kept : Kept n peer) :
    rowToPeer n.toHex peer.toRow = .ok peer := by
  obtain ⟨rfl, paired, seen⟩ := kept
  rw [rowToPeer_toRow peer peer.toRow rfl, fromI64_asI64 seen]
  show Except.ok { peer with firstPairedAt := fromI64 (asI64 peer.firstPairedAt) } = _
  rw [fromI64_asI64 paired]

theorem Represents.getPeer {store : TrustStore} {map : PeerMap} (represents : Represents store map)
    (n : NodeId) : getPeer store n = .ok (map.lookup n) := by
  unfold TrustStore.getPeer
  rw [represents.rows]
  cases found : map.lookup n with
  | none => rfl
  | some peer =>
      simp only [Option.map_some, (represents.kept n peer found).rowToPeer]
      rfl

theorem isTrusted_of_getPeer {store : TrustStore} {n : NodeId} {record : Option TrustedPeer}
    (read : getPeer store n = .ok record) (key : PublicKey) :
    isTrusted store n key = PeerMap.verdict record n key := by
  unfold isTrusted PeerMap.verdict
  rw [read]
  cases record with
  | none => rfl
  | some peer =>
      by_cases same : peer.publicKey = key
      · cases state : peer.trustState <;> simp [bind, Except.bind, same, state]
      · simp [bind, Except.bind, same]

/-- From the empty store, after any writes with times below `2 ^ 63`: a peer is read as
    the map has it, and trusted as its record and the presented key say. -/
theorem store_is_map (writes : List Write) (timely : ∀ write ∈ writes, write.Timely) (n : NodeId) :
    let map := PeerMap.performAll ∅ writes
    getPeer (performAll ∅ writes) n = .ok (map.lookup n) ∧
      (∀ key, isTrusted (performAll ∅ writes) n key = PeerMap.verdict (map.lookup n) n key) ∧
      ∀ peer, map.lookup n = some peer →
        PeerMap.FirstSaved writes n peer ∧ PeerMap.LastSaved writes n peer := by
  have represents := represents_empty.performAll timely
  exact ⟨represents.getPeer n, isTrusted_of_getPeer (represents.getPeer n),
    fun _ => PeerMap.saved_of_lookup⟩

end TrustStore

end BridgeOS

namespace BridgeOS.TrustStore

section Example

attribute [local instance] transparentCrypto

def exampleRecord (name : String) (at_ : UInt64) : TrustedPeer :=
  ⟨⟨.fill 32 2⟩, (IdentityKey.mk (.fill 32 2)).publicKey, name, .macOS, at_, at_, .trusted⟩

def exampleWrites : List Write :=
  [.savePeer (exampleRecord "laptop" 5), .updateLastSeen ⟨.fill 32 2⟩ 7,
    .savePeer (exampleRecord "desktop" 9), .revokePeer ⟨.fill 32 2⟩]

/-- Saved twice and revoked: the name is the second, the first pairing the first. -/
theorem store_is_map_after_two_saves :
    getPeer (performAll ∅ exampleWrites) ⟨.fill 32 2⟩ = .ok (some
      { exampleRecord "desktop" 9 with firstPairedAt := 5, trustState := .revoked }) := by
  have timely : ∀ write ∈ exampleWrites, write.Timely := by decide
  exact (store_is_map exampleWrites timely ⟨.fill 32 2⟩).1

end Example

end BridgeOS.TrustStore
