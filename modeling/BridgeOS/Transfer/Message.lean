import BridgeOS.Core

/-! # Manifests and chunks

The wire types of `bridge-transfer`. A manifest that comes off the wire carries
`total_size` and `total_chunks` as independent fields; only `FileManifest.new`
ties them together. Blake3 is a parameter: nothing here depends on more than
that it is a function of the bytes.
-/

namespace BridgeOS.Transfer

def chunkSize : Nat := 64 * 1024

inductive TransferError where
  | chunkHashMismatch (index : UInt32) (expected actual : String)
  | rootHashMismatch (expected actual : String)
  | chunkOutOfBounds (index totalChunks : UInt32)
  | invalidChunkSize (index : UInt32) (expected actual : Nat)
  | invalidResumeOffset (requestedChunk totalChunks : UInt32)
  | io (text : String)
  | protocol (text : String)
  | cancelled (text : String)
  | bridge (error : BridgeError)
  deriving DecidableEq

structure FileManifest where
  fileId : String
  filename : String
  totalSize : UInt64
  totalChunks : UInt32
  blake3RootHash : FixedBytes 32
  deriving DecidableEq

structure FileChunk where
  fileId : String
  chunkIndex : UInt32
  offset : UInt64
  data : Bytes
  blake3Hash : FixedBytes 32
  deriving DecidableEq

inductive TransferMessage where
  | offer (manifest : FileManifest)
  | accept (fileId : String) (startChunk : UInt32)
  | data (chunk : FileChunk)
  | ack (fileId : String) (chunkIndex : UInt32)
  | finished (fileId : String) (blake3RootHash : FixedBytes 32)
  | complete (fileId : String)
  | cancel (fileId reason : String)
  deriving DecidableEq

namespace FileManifest

/-- The cast to `u32` keeps the low thirty-two bits of the quotient. -/
def calculateTotalChunks (totalSize : UInt64) : UInt32 :=
  if totalSize = 0 then 0
  else UInt32.ofNat ((totalSize.toNat + (chunkSize - 1)) / chunkSize)

def new (fileId filename : String) (totalSize : UInt64) (blake3RootHash : FixedBytes 32) :
    FileManifest :=
  { fileId, filename, totalSize, totalChunks := calculateTotalChunks totalSize, blake3RootHash }

def expectedChunkSize (m : FileManifest) (chunkIndex : UInt32) : Except TransferError Nat :=
  if chunkIndex ≥ m.totalChunks then .error (.chunkOutOfBounds chunkIndex m.totalChunks)
  else if chunkIndex.toNat = m.totalChunks.toNat - 1 then
    let remainder := m.totalSize.toNat % chunkSize
    if remainder = 0 ∧ m.totalSize > 0 then .ok chunkSize else .ok remainder
  else .ok chunkSize

/-- What the last chunk is expected to hold. -/
def lastChunkSize (m : FileManifest) : Nat :=
  if m.totalSize.toNat % chunkSize = 0 ∧ 0 < m.totalSize.toNat then chunkSize
  else m.totalSize.toNat % chunkSize

theorem lastChunkSize_le (m : FileManifest) : m.lastChunkSize ≤ chunkSize := by
  have small := Nat.mod_lt m.totalSize.toNat (show chunkSize > 0 by decide)
  unfold lastChunkSize
  split <;> omega

/-- How many chunks the announced size takes. -/
def neededChunks (m : FileManifest) : Nat := (m.totalSize.toNat + (chunkSize - 1)) / chunkSize

/-- The last of the needed chunks ends where the file ends. -/
theorem lastChunk_end {m : FileManifest} (some_chunks : 0 < m.neededChunks) :
    (m.neededChunks - 1) * chunkSize + m.lastChunkSize = m.totalSize.toNat := by
  unfold neededChunks lastChunkSize chunkSize at *
  split <;> omega

theorem totalSize_of_neededChunks {m : FileManifest} (none_needed : m.neededChunks = 0) :
    m.totalSize.toNat = 0 ∧ m.lastChunkSize = 0 := by
  have empty : m.totalSize.toNat = 0 := by
    unfold neededChunks chunkSize at none_needed
    omega
  refine ⟨empty, ?_⟩
  rw [lastChunkSize, empty]
  rfl

theorem calculateTotalChunks_toNat (totalSize : UInt64) :
    (calculateTotalChunks totalSize).toNat =
      (totalSize.toNat + (chunkSize - 1)) / chunkSize % 2 ^ 32 := by
  unfold calculateTotalChunks
  split
  · rename_i zero
    subst zero
    decide
  · exact UInt32.toNat_ofNat'

theorem expectedChunkSize_eq_ok {m : FileManifest} {i : UInt32} {n : Nat} :
    m.expectedChunkSize i = .ok n ↔ i.toNat < m.totalChunks.toNat ∧
      n = if i.toNat + 1 = m.totalChunks.toNat then m.lastChunkSize else chunkSize := by
  have positive : m.totalSize > 0 ↔ 0 < m.totalSize.toNat := by
    simp only [gt_iff_lt, UInt64.lt_iff_toNat_lt, UInt64.toNat_zero]
  unfold expectedChunkSize lastChunkSize
  simp only [ge_iff_le, UInt32.le_iff_toNat_le, positive]
  by_cases inside : m.totalChunks.toNat ≤ i.toNat
  · simp only [if_pos inside, reduceCtorEq, false_iff, not_and]
    omega
  · rw [if_neg inside]
    have last : i.toNat = m.totalChunks.toNat - 1 ↔ i.toNat + 1 = m.totalChunks.toNat := by omega
    simp only [last, show i.toNat < m.totalChunks.toNat by omega, true_and]
    split <;> (try split) <;> simp [eq_comm]

/-- No chunk is longer than the standard size, whatever the manifest claims. -/
theorem expectedChunkSize_le {m : FileManifest} {i : UInt32} {n : Nat}
    (size : m.expectedChunkSize i = .ok n) : n ≤ chunkSize := by
  obtain ⟨-, rfl⟩ := expectedChunkSize_eq_ok.mp size
  split
  · exact m.lastChunkSize_le
  · exact Nat.le_refl _

end FileManifest

section Hashing

variable (blake3 : Bytes → FixedBytes 32)

def FileChunk.new (fileId : String) (chunkIndex : UInt32) (offset : UInt64) (data : Bytes) :
    FileChunk :=
  { fileId, chunkIndex, offset, data, blake3Hash := blake3 data }

def FileChunk.verifyHash (chunk : FileChunk) : Bool := blake3 chunk.data == chunk.blake3Hash

def createManifestFromBytes (fileId filename : String) (data : Bytes) : FileManifest :=
  .new fileId filename (UInt64.ofNat data.length) (blake3 data)

/-- The manifest of a file on disk: the name is the last component of its path,
    the identifier the first sixteen bytes of the root hash. -/
def createManifestFromFile (fileName : Option String) (data : Bytes) : FileManifest :=
  .new (Hex.encode ((blake3 data).bytes.take 16)) (fileName.getD "unknown_file")
    (UInt64.ofNat data.length) (blake3 data)

end Hashing

end BridgeOS.Transfer
