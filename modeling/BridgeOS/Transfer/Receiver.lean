import BridgeOS.Lib.Checks
import BridgeOS.Lib.Disk
import BridgeOS.Lib.Path
import BridgeOS.Transfer.Message
import Mathlib.Data.Finset.Card
import Mathlib.Data.Finset.Range

/-! # The receiving side

`FileReceiver` over a disk whose files are named by locations. The file handle
is the file itself, so what a receiver writes is independent of later renames.
Disk faults are outside the model: opening, resizing, writing and reading
always succeed.
-/

namespace BridgeOS.Transfer

open PathBuf (Location)
open Checks

inductive DestinationTarget where
  | file (finalPath partPath : PathBuf) (handle : Nat)
  | memory (buffer : Bytes)

structure FileReceiver where
  manifest : FileManifest
  target : DestinationTarget
  receivedChunks : Finset Nat

/-- How a call ends without a result: an error value, or an index panic. -/
inductive Failure where
  | error (e : TransferError)
  | panic
  deriving DecidableEq

namespace FileReceiver

/-- The chunks a `.part` file of this length is taken to hold. -/
def validChunks (manifest : FileManifest) (existingLen : Nat) : Nat :=
  min (existingLen / chunkSize % 2 ^ 32) manifest.totalChunks.toNat

/-- What opening keeps of the bytes found: nothing is cut for a manifest without chunks. -/
def keptBytes (manifest : FileManifest) (found : Bytes) : Bytes :=
  if manifest.totalChunks = 0 then found
  else found.take (validChunks manifest found.length * chunkSize)

def finalPathOf (destDir : PathBuf) (manifest : FileManifest) : PathBuf :=
  destDir.join ⟨manifest.filename.toList⟩

def partPathOf (destDir : PathBuf) (manifest : FileManifest) : PathBuf :=
  destDir.join ⟨(manifest.filename ++ ".part").toList⟩

def toDir (disk : Disk Location) (destDir : PathBuf) (manifest : FileManifest) :
    FileReceiver × Disk Location :=
  let finalPath := finalPathOf destDir manifest
  let partPath := partPathOf destDir manifest
  let (handle, opened) := disk.openOrCreate partPath.location
  let existingLen := (opened.content handle).length
  if existingLen > 0 ∧ manifest.totalChunks > 0 then
    let valid := validChunks manifest existingLen
    (⟨manifest, .file finalPath partPath handle, Finset.range valid⟩,
      opened.setLen handle (valid * chunkSize))
  else (⟨manifest, .file finalPath partPath handle, ∅⟩, opened)

def toMemory (manifest : FileManifest) : FileReceiver :=
  ⟨manifest, .memory (List.replicate manifest.totalSize.toNat 0), ∅⟩

/-- The `while` loop of `next_expected_chunk`, given enough rounds. -/
def firstMissing (received : Finset Nat) : Nat → Nat → Nat
  | 0, expected => expected
  | fuel + 1, expected =>
      if expected ∈ received then firstMissing received fuel (expected + 1) else expected

def nextExpectedChunk (r : FileReceiver) : UInt32 :=
  UInt32.ofNat (min (firstMissing r.receivedChunks (r.receivedChunks.card + 1) 0)
    r.manifest.totalChunks.toNat)

def isComplete (r : FileReceiver) : Bool :=
  if r.manifest.totalChunks = 0 then true
  else UInt32.ofNat r.receivedChunks.card == r.manifest.totalChunks

section Chunks

variable (blake3 : Bytes → FixedBytes 32)

/-- The five checks in front of the write. -/
def checkChunk (m : FileManifest) (chunk : FileChunk) : Except TransferError Unit := do
  reject (chunk.fileId ≠ m.fileId)
    (.protocol ("Mismatched file_id: expected " ++ m.fileId ++ ", received " ++ chunk.fileId))
  reject (chunk.chunkIndex ≥ m.totalChunks) (.chunkOutOfBounds chunk.chunkIndex m.totalChunks)
  reject (chunk.verifyHash blake3 = false)
    (.chunkHashMismatch chunk.chunkIndex (Hex.encode chunk.blake3Hash.bytes)
      (Hex.encode (blake3 chunk.data).bytes))
  let expectedSize ← m.expectedChunkSize chunk.chunkIndex
  reject (chunk.data.length ≠ expectedSize)
    (.invalidChunkSize chunk.chunkIndex expectedSize chunk.data.length)
  let index := chunk.chunkIndex.toNat
  let offset := chunk.offset.toNat
  let expectedOffset := index * chunkSize
  reject (offset ≠ expectedOffset)
    (.protocol s!"Chunk {index} has invalid offset {offset} (expected {expectedOffset})")

/-- A rejected chunk leaves receiver and disk as they were. -/
def receiveChunk (r : FileReceiver) (disk : Disk Location) (chunk : FileChunk) :
    Except Failure (FileReceiver × Disk Location) :=
  match checkChunk blake3 r.manifest chunk with
  | .error e => .error (.error e)
  | .ok () =>
      let receivedChunks := insert chunk.chunkIndex.toNat r.receivedChunks
      match r.target with
      | .file _ _ handle =>
          .ok ({ r with receivedChunks }, disk.write handle chunk.offset.toNat chunk.data)
      | .memory buffer =>
          -- `copy_from_slice` on a range that is not in the buffer panics
          if chunk.offset.toNat + chunk.data.length ≤ buffer.length then
            .ok ({ r with
              target := .memory (writeAt 0 buffer chunk.offset.toNat chunk.data), receivedChunks },
              disk)
          else .error .panic

/-- Hand over chunks one after the other; the caller goes on after a rejection. -/
def receiveAll : FileReceiver → Disk Location → List FileChunk → FileReceiver × Disk Location
  | r, disk, [] => (r, disk)
  | r, disk, chunk :: rest =>
      match r.receiveChunk blake3 disk chunk with
      | .ok (r', disk') => receiveAll r' disk' rest
      | .error _ => receiveAll r disk rest

def notComplete (r : FileReceiver) : TransferError :=
  let received := r.receivedChunks.card
  let total := r.manifest.totalChunks.toNat
  .protocol s!"Cannot finalize: received {received} of {total} chunks"

def finalizeFile (r : FileReceiver) (disk : Disk Location) :
    Except TransferError (PathBuf × Disk Location) :=
  if !r.isComplete then .error r.notComplete
  else match r.target with
    | .file finalPath partPath handle =>
        let computedRoot := blake3 (disk.content handle)
        if computedRoot ≠ r.manifest.blake3RootHash then
          .error (.rootHashMismatch (Hex.encode r.manifest.blake3RootHash.bytes)
            (Hex.encode computedRoot.bytes))
        else match disk.rename partPath.location finalPath.location with
          | none => .error (.io "No such file or directory (os error 2)")
          | some renamed => .ok (finalPath, renamed)
    | .memory _ => .error (.protocol
        "Cannot call finalize_file on memory receiver; use finalize_memory instead")

def finalizeMemory (r : FileReceiver) : Except TransferError Bytes :=
  if !r.isComplete then .error r.notComplete
  else match r.target with
    | .memory buffer =>
        let computedRoot := blake3 buffer
        if computedRoot ≠ r.manifest.blake3RootHash then
          .error (.rootHashMismatch (Hex.encode r.manifest.blake3RootHash.bytes)
            (Hex.encode computedRoot.bytes))
        else .ok buffer
    | .file .. => .error (.protocol
        "Cannot call finalize_memory on file receiver; use finalize_file instead")

/-- The index check is implied by the size check, which repeats it. -/
theorem checkChunk_eq_ok {m : FileManifest} {chunk : FileChunk} :
    checkChunk blake3 m chunk = .ok () ↔
      chunk.fileId = m.fileId ∧ chunk.verifyHash blake3 = true ∧
      m.expectedChunkSize chunk.chunkIndex = .ok chunk.data.length ∧
      chunk.offset.toNat = chunk.chunkIndex.toNat * chunkSize := by
  have inBounds : ∀ n, m.expectedChunkSize chunk.chunkIndex = .ok n →
      ¬ chunk.chunkIndex ≥ m.totalChunks := by
    intro n sized outside
    simp [FileManifest.expectedChunkSize, outside] at sized
  simp only [checkChunk, bind_eq_ok, reject_eq_ok, not_not, Bool.not_eq_false, exists_const]
  constructor
  · rintro ⟨sameId, -, hash, n, sized, rfl, sameOffset⟩
    exact ⟨sameId, hash, sized, sameOffset⟩
  · rintro ⟨sameId, hash, sized, sameOffset⟩
    exact ⟨sameId, inBounds _ sized, hash, _, sized, rfl, sameOffset⟩

theorem receiveChunk_file {r : FileReceiver} {finalPath partPath : PathBuf} {handle : Nat}
    (target : r.target = .file finalPath partPath handle) (disk : Disk Location)
    {chunk : FileChunk} (passed : checkChunk blake3 r.manifest chunk = .ok ()) :
    r.receiveChunk blake3 disk chunk =
      .ok ({ r with receivedChunks := insert chunk.chunkIndex.toNat r.receivedChunks },
        disk.write handle chunk.offset.toNat chunk.data) := by
  simp only [receiveChunk, passed, target]

/-- A receiver never changes the names it was opened with. -/
theorem receiveAll_file {r : FileReceiver} {finalPath partPath : PathBuf} {handle : Nat}
    (target : r.target = .file finalPath partPath handle) (disk : Disk Location)
    (chunks : List FileChunk) :
    (receiveAll blake3 r disk chunks).1.target = .file finalPath partPath handle := by
  induction chunks generalizing r disk with
  | nil => exact target
  | cons chunk rest ih =>
      cases checked : checkChunk blake3 r.manifest chunk with
      | error e => simpa only [receiveAll, receiveChunk, checked] using ih target disk
      | ok =>
          rw [receiveAll, receiveChunk_file blake3 target disk checked]
          apply ih
          exact target

theorem finalizeFile_eq_ok {r : FileReceiver} {finalPath partPath : PathBuf} {handle : Nat}
    (target : r.target = .file finalPath partPath handle) {disk disk' : Disk Location}
    {path : PathBuf} :
    r.finalizeFile blake3 disk = .ok (path, disk') ↔ r.isComplete = true ∧
      blake3 (disk.content handle) = r.manifest.blake3RootHash ∧ path = finalPath ∧
      disk.rename partPath.location finalPath.location = some disk' := by
  unfold finalizeFile
  cases complete : r.isComplete with
  | false => simp
  | true =>
      simp only [target, Bool.not_true, Bool.false_eq_true, if_false, true_and]
      split
      · rename_i mismatch
        simp [mismatch]
      · rename_i matching
        simp only [ne_eq, not_not] at matching
        cases renamed : disk.rename partPath.location finalPath.location with
        | none => simp
        | some moved => simp [matching, eq_comm]

end Chunks

section Bookkeeping

/-- The loop passes over received indices only, and ends at one that is missing unless
    its rounds run out. -/
theorem firstMissing_spec (received : Finset Nat) (fuel start : Nat) :
    start ≤ firstMissing received fuel start ∧
      (∀ i, start ≤ i → i < firstMissing received fuel start → i ∈ received) ∧
      (firstMissing received fuel start ∉ received ∨ firstMissing received fuel start = start + fuel) := by
  induction fuel generalizing start with
  | zero =>
      simp only [firstMissing, Nat.le_refl, Nat.add_zero, or_true, and_true, true_and]
      omega
  | succ fuel ih =>
      simp only [firstMissing]
      split
      · rename_i found
        obtain ⟨later, between, stopped⟩ := ih (start + 1)
        refine ⟨by omega, ?_, stopped.imp_right (by omega)⟩
        intro i above below
        rcases Nat.eq_or_lt_of_le above with rfl | further
        · exact found
        · exact between i further below
      · rename_i missing
        refine ⟨Nat.le_refl _, ?_, .inl missing⟩
        omega

/-- There are enough rounds: a set does not hold more indices than it has. -/
theorem firstMissing_card (received : Finset Nat) :
    (∀ i < firstMissing received (received.card + 1) 0, i ∈ received) ∧
      firstMissing received (received.card + 1) 0 ∉ received := by
  obtain ⟨-, between, stopped⟩ := firstMissing_spec received (received.card + 1) 0
  refine ⟨fun i below => between i (Nat.zero_le i) below, ?_⟩
  rcases stopped with missing | last
  · exact missing
  · have all : Finset.range (received.card + 1) ⊆ received := by
      intro i member
      apply between i (Nat.zero_le i)
      have := Finset.mem_range.mp member
      omega
    have := Finset.card_le_card all
    simp at this

variable {r : FileReceiver}

theorem nextExpectedChunk_spec (inside : ∀ i ∈ r.receivedChunks, i < r.manifest.totalChunks.toNat) :
    r.nextExpectedChunk.toNat ≤ r.manifest.totalChunks.toNat ∧
      (∀ i < r.nextExpectedChunk.toNat, i ∈ r.receivedChunks) ∧
      r.nextExpectedChunk.toNat ∉ r.receivedChunks := by
  obtain ⟨below, missing⟩ := firstMissing_card r.receivedChunks
  have bound := r.manifest.totalChunks.toNat_lt
  have least : firstMissing r.receivedChunks (r.receivedChunks.card + 1) 0 ≤ r.manifest.totalChunks.toNat := by
    by_contra beyond
    exact Nat.lt_irrefl _ (inside _ (below _ (Nat.lt_of_not_le beyond)))
  have value : r.nextExpectedChunk.toNat = firstMissing r.receivedChunks (r.receivedChunks.card + 1) 0 := by
    rw [nextExpectedChunk, Nat.min_eq_left least, UInt32.toNat_ofNat', Nat.mod_eq_of_lt (by omega)]
  rw [value]
  exact ⟨least, below, missing⟩

/-- The count of the received indices tells whether one is missing. -/
theorem isComplete_iff (inside : ∀ i ∈ r.receivedChunks, i < r.manifest.totalChunks.toNat) :
    r.isComplete = true ↔ ∀ i < r.manifest.totalChunks.toNat, i ∈ r.receivedChunks := by
  have bound := r.manifest.totalChunks.toNat_lt
  have known : r.receivedChunks ⊆ Finset.range r.manifest.totalChunks.toNat := fun i member =>
    Finset.mem_range.mpr (inside i member)
  have few := Finset.card_le_card known
  rw [Finset.card_range] at few
  have everything : r.receivedChunks.card = r.manifest.totalChunks.toNat ↔
      ∀ i < r.manifest.totalChunks.toNat, i ∈ r.receivedChunks := by
    constructor
    · intro all i below
      rw [Finset.eq_of_subset_of_card_le known (by rw [Finset.card_range, all])]
      exact Finset.mem_range.mpr below
    · intro all
      rw [Finset.Subset.antisymm known fun i member => all i (Finset.mem_range.mp member),
        Finset.card_range]
  rw [← everything, isComplete]
  split
  · rename_i zero
    rw [zero, UInt32.toNat_zero, Nat.le_zero] at few
    simp [zero, few]
  · rw [beq_iff_eq, ← UInt32.toNat_inj, UInt32.toNat_ofNat', Nat.mod_eq_of_lt (by omega)]

theorem nextExpectedChunk_range {n : Nat} (received : r.receivedChunks = Finset.range n)
    (inside : n ≤ r.manifest.totalChunks.toNat) : r.nextExpectedChunk.toNat = n := by
  obtain ⟨-, below, missing⟩ := r.nextExpectedChunk_spec (by simp only [received, Finset.mem_range]; omega)
  simp only [received, Finset.mem_range] at below missing
  have := below (r.nextExpectedChunk.toNat - 1)
  omega

theorem isComplete_range {n : Nat} (received : r.receivedChunks = Finset.range n)
    (inside : n ≤ r.manifest.totalChunks.toNat) :
    r.isComplete = true ↔ n = r.manifest.totalChunks.toNat := by
  rw [r.isComplete_iff (by simp only [received, Finset.mem_range]; omega)]
  simp only [received, Finset.mem_range]
  constructor
  · intro all
    by_contra fewer
    have := all n
    omega
  · omega

theorem validChunks_le_total (m : FileManifest) (len : Nat) :
    validChunks m len ≤ m.totalChunks.toNat := Nat.min_le_right _ _

theorem validChunks_mul_le (m : FileManifest) (len : Nat) : validChunks m len * chunkSize ≤ len :=
  calc
    validChunks m len * chunkSize ≤ len / chunkSize * chunkSize :=
      Nat.mul_le_mul_right _ ((Nat.min_le_left _ _).trans (Nat.mod_le _ _))
    _ ≤ len := Nat.div_mul_le_self _ _

theorem length_keptBytes {m : FileManifest} (found : Bytes) (some_chunks : m.totalChunks ≠ 0) :
    (keptBytes m found).length = validChunks m found.length * chunkSize := by
  rw [keptBytes, if_neg some_chunks, List.length_take]
  exact Nat.min_eq_left (validChunks_mul_le m _)

end Bookkeeping

/-- What stands under the `.part` name, nothing if it does not exist. -/
def partBytes (disk : Disk Location) (destDir : PathBuf) (m : FileManifest) : Bytes :=
  (disk.read (partPathOf destDir m).location).getD []

/-- What opening a receiver gives, in terms of the bytes found under the `.part`
    name: an initial segment of the chunks counts as received, and the file is cut
    behind it unless the manifest has no chunks at all. -/
theorem toDir_spec (disk : Disk Location) (destDir : PathBuf) (m : FileManifest) :
    ∃ handle, (toDir disk destDir m).1 = ⟨m,
        .file (finalPathOf destDir m) (partPathOf destDir m) handle,
        Finset.range (validChunks m (partBytes disk destDir m).length)⟩ ∧
      (toDir disk destDir m).2.file (partPathOf destDir m).location = some handle ∧
      (toDir disk destDir m).2.content handle = keptBytes m (partBytes disk destDir m) := by
  obtain ⟨named, found⟩ := disk.openOrCreate_spec (partPathOf destDir m).location
  rw [← partBytes] at found
  generalize partBytes disk destDir m = bytes at found
  refine ⟨(disk.openOrCreate (partPathOf destDir m).location).1, ?_⟩
  have positive : m.totalChunks > 0 ↔ m.totalChunks ≠ 0 := by
    simp only [gt_iff_lt, UInt32.lt_iff_toNat_lt, UInt32.toNat_zero, ne_eq, ← UInt32.toNat_inj]
    omega
  simp only [toDir, keptBytes, found, positive]
  split
  · rename_i both
    refine ⟨rfl, named, ?_⟩
    simp only [both.2, if_false, Disk.setLen_content, found]
    exact resize_of_le _ (validChunks_mul_le m _)
  · -- either nothing was found or nothing is expected: no chunk counts as present
    rename_i neither
    by_cases zero : m.totalChunks = 0
    · refine ⟨?_, named, ?_⟩
      · simp [validChunks, zero]
      · simp [zero, found]
    · have empty : bytes = [] := by simpa [zero] using neither
      refine ⟨?_, named, ?_⟩
      · simp [validChunks, empty]
      · simp [found, empty]

end FileReceiver

end BridgeOS.Transfer
