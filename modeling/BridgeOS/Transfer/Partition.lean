import BridgeOS.Transfer.Delivery
import Mathlib.Algebra.BigOperators.Group.Finset.Basic
import Mathlib.Data.UInt

/-! # Chunks and the announced size

A chunk covers the bytes from its index times the standard size on, as many as the
manifest expects of it. Whether these ranges make up the announced file depends on
how the count of chunks compares with the size, which only the sender's own
constructor ties together, and only as far as the count fits its thirty-two bits.
-/

namespace BridgeOS.Transfer

open PathBuf (Location)

namespace FileManifest

theorem lastChunkSize_pos {m : FileManifest} (some_chunks : 0 < m.neededChunks) :
    0 < m.lastChunkSize := by
  unfold neededChunks lastChunkSize chunkSize at *
  split <;> omega

end FileManifest

open FileManifest

/-- With more chunks than the size takes, one of them ends outside the file. -/
theorem exists_overrun {m : FileManifest} (many : max 1 m.neededChunks < m.totalChunks.toNat) :
    ∃ i < m.totalChunks.toNat, m.totalSize.toNat < boundary m (i + 1) := by
  have positive : 0 < chunkSize := by decide
  rcases Nat.eq_zero_or_pos m.neededChunks with none_needed | some_needed
  · obtain ⟨empty, -⟩ := totalSize_of_neededChunks none_needed
    refine ⟨0, by omega, ?_⟩
    rw [boundary, if_neg (by omega), empty]
    omega
  · have last := lastChunk_end some_needed
    have some_bytes := lastChunkSize_pos some_needed
    have short := m.lastChunkSize_le
    -- the chunk after the last one that is needed
    refine ⟨m.neededChunks, by omega, ?_⟩
    have before : m.neededChunks * chunkSize = (m.neededChunks - 1) * chunkSize + chunkSize := by
      rw [← Nat.succ_mul]
      congr 1
      omega
    rw [boundary]
    split <;> omega

namespace FileReceiver

variable (blake3 : Bytes → FixedBytes 32)

/-- A chunk of zeros that passes every check for its index. -/
def blankChunk (m : FileManifest) (i : Nat) : FileChunk :=
  .new blake3 m.fileId (UInt32.ofNat i) (UInt64.ofNat (i * chunkSize))
    (List.replicate (boundary m (i + 1) - i * chunkSize) 0)

variable {blake3} {m : FileManifest} {i : Nat}

theorem blankChunk_offset (inside : i < m.totalChunks.toNat) :
    (blankChunk blake3 m i).offset.toNat = i * chunkSize := by
  have bound := m.totalChunks.toNat_lt
  rw [blankChunk, FileChunk.new, UInt64.toNat_ofNat', Nat.mod_eq_of_lt]
  unfold chunkSize
  omega

theorem blankChunk_index (inside : i < m.totalChunks.toNat) :
    (blankChunk blake3 m i).chunkIndex.toNat = i := by
  have bound := m.totalChunks.toNat_lt
  rw [blankChunk, FileChunk.new, UInt32.toNat_ofNat', Nat.mod_eq_of_lt (by omega)]

theorem checkChunk_blankChunk (inside : i < m.totalChunks.toNat) :
    checkChunk blake3 m (blankChunk blake3 m i) = .ok () := by
  have index : (blankChunk blake3 m i).chunkIndex.toNat = i := blankChunk_index inside
  rw [checkChunk_eq_ok]
  refine ⟨rfl, ?_, ?_, ?_⟩
  · simp [blankChunk, FileChunk.new, FileChunk.verifyHash]
  · rw [expectedChunkSize_boundary (by rw [index]; exact inside), index]
    simp [blankChunk, FileChunk.new]
  · rw [index, blankChunk_offset inside]

/-- What the checks say about where a chunk lies. -/
theorem end_of_checkChunk {chunk : FileChunk} (passed : checkChunk blake3 m chunk = .ok ()) :
    chunk.chunkIndex.toNat < m.totalChunks.toNat ∧
      chunk.offset.toNat + chunk.data.length = boundary m (chunk.chunkIndex.toNat + 1) := by
  obtain ⟨-, -, sized, placed⟩ := (checkChunk_eq_ok blake3).mp passed
  obtain ⟨inside, length⟩ := expectedChunkSize_eq_ok.mp sized
  rw [placed, length, boundary]
  exact ⟨inside, rfl⟩

theorem checkChunk_of_receiveChunk {r r' : FileReceiver} {disk disk' : Disk Location}
    {chunk : FileChunk} (received : r.receiveChunk blake3 disk chunk = .ok (r', disk')) :
    checkChunk blake3 r.manifest chunk = .ok () ∧ r'.manifest = r.manifest := by
  unfold receiveChunk at received
  split at received
  · cases received
  · rename_i passed
    refine ⟨passed, ?_⟩
    dsimp only at received
    split at received
    · cases received
      rfl
    · split at received
      · cases received
        rfl
      · cases received

theorem receiveAll_manifest (r : FileReceiver) (disk : Disk Location) (chunks : List FileChunk) :
    (receiveAll blake3 r disk chunks).1.manifest = r.manifest := by
  induction chunks generalizing r disk with
  | nil => rfl
  | cons chunk rest ih =>
      rw [receiveAll]
      split
      · rename_i r' disk' received
        exact (ih r' disk').trans (checkChunk_of_receiveChunk received).2
      · exact ih r disk

/-- A receiver in memory whose buffer has the announced size. -/
def Buffered (m : FileManifest) (r : FileReceiver) : Prop :=
  r.manifest = m ∧ ∃ buffer, r.target = .memory buffer ∧ buffer.length = m.totalSize.toNat

theorem buffered_toMemory (m : FileManifest) : Buffered m (toMemory m) :=
  ⟨rfl, _, rfl, List.length_replicate⟩

theorem Buffered.receiveChunk {r r' : FileReceiver} {disk disk' : Disk Location} {chunk : FileChunk}
    (buffered : Buffered m r) (received : r.receiveChunk blake3 disk chunk = .ok (r', disk')) :
    Buffered m r' := by
  obtain ⟨rfl, buffer, target, size⟩ := buffered
  obtain ⟨passed, same⟩ := checkChunk_of_receiveChunk received
  refine ⟨same, ?_⟩
  simp only [FileReceiver.receiveChunk, passed, target] at received
  split at received
  · rename_i fits
    cases received
    refine ⟨_, rfl, ?_⟩
    by_cases nothing : chunk.data = []
    · rw [nothing, writeAt_nil]
      exact size
    · rw [length_writeAt 0 _ nothing, ← size]
      omega
  · cases received

theorem Buffered.receiveAll {r : FileReceiver} (buffered : Buffered m r) (disk : Disk Location)
    (chunks : List FileChunk) : Buffered m (receiveAll blake3 r disk chunks).1 := by
  induction chunks generalizing r disk with
  | nil => exact buffered
  | cons chunk rest ih =>
      rw [FileReceiver.receiveAll]
      split
      · rename_i r' disk' received
        exact ih (buffered.receiveChunk received) disk'
      · exact ih buffered disk

/-- The buffer is left only by a chunk that ends outside the announced file. -/
theorem Buffered.receiveChunk_panics_iff {r : FileReceiver} (buffered : Buffered m r)
    (disk : Disk Location) (chunk : FileChunk) :
    r.receiveChunk blake3 disk chunk = .error .panic ↔ checkChunk blake3 m chunk = .ok () ∧
      m.totalSize.toNat < chunk.offset.toNat + chunk.data.length := by
  obtain ⟨rfl, buffer, target, size⟩ := buffered
  cases checked : checkChunk blake3 r.manifest chunk with
  | error e => simp [FileReceiver.receiveChunk, checked]
  | ok =>
      simp only [FileReceiver.receiveChunk, checked, target, size, true_and]
      split
      · rename_i fits
        simp only [reduceCtorEq, false_iff]
        omega
      · rename_i outside
        simp only [true_iff]
        omega

variable (blake3) in
/-- Whatever chunks have come before: a receiver in memory does not leave its buffer,
    and what a receiver on disk accepts lies within the announced file. -/
structure Confined (m : FileManifest) : Prop where
  memory : ∀ disk chunks chunk,
    (receiveAll blake3 (toMemory m) disk chunks).1.receiveChunk blake3
      (receiveAll blake3 (toMemory m) disk chunks).2 chunk ≠ .error .panic
  file : ∀ disk destDir chunks chunk after,
    (receiveAll blake3 (toDir disk destDir m).1 (toDir disk destDir m).2 chunks).1.receiveChunk blake3
      (receiveAll blake3 (toDir disk destDir m).1 (toDir disk destDir m).2 chunks).2 chunk = .ok after →
    ∀ position, chunk.offset.toNat ≤ position →
      position < chunk.offset.toNat + chunk.data.length → position < m.totalSize.toNat

/-- Exactly the manifests that announce no more chunks than their size takes are safe. -/
theorem confined_iff (blake3 : Bytes → FixedBytes 32) (m : FileManifest) :
    Confined blake3 m ↔
      m.totalChunks.toNat ≤ max 1 ((m.totalSize.toNat + (chunkSize - 1)) / chunkSize) := by
  rw [← neededChunks]
  constructor
  · intro confined
    by_contra many
    obtain ⟨i, inside, outside⟩ := exists_overrun (Nat.lt_of_not_le many)
    refine confined.memory .empty [] (blankChunk blake3 m i) ?_
    refine ((buffered_toMemory m).receiveChunk_panics_iff .empty _).mpr
      ⟨checkChunk_blankChunk inside, ?_⟩
    rw [(end_of_checkChunk (checkChunk_blankChunk inside)).2, blankChunk_index inside]
    exact outside
  · intro few
    have within : ∀ {chunk}, checkChunk blake3 m chunk = .ok () →
        chunk.offset.toNat + chunk.data.length ≤ m.totalSize.toNat := by
      intro chunk passed
      obtain ⟨inside, ends⟩ := end_of_checkChunk passed
      rw [ends]
      exact boundary_le_totalSize few inside
    refine ⟨?_, ?_⟩
    · intro disk chunks chunk panics
      have buffered : Buffered m (receiveAll blake3 (toMemory m) disk chunks).1 :=
        (buffered_toMemory m).receiveAll disk chunks
      obtain ⟨passed, outside⟩ := (buffered.receiveChunk_panics_iff _ chunk).mp panics
      exact absurd (within passed) (Nat.not_le_of_lt outside)
    · rintro disk destDir chunks chunk ⟨r', disk'⟩ received position - before
      have passed := (checkChunk_of_receiveChunk received).1
      obtain ⟨handle, opened, -⟩ := toDir_spec disk destDir m
      rw [receiveAll_manifest, opened] at passed
      exact Nat.lt_of_lt_of_le before (within passed)

/-- Two chunks announced for one byte: the second is looked for far behind the buffer,
    and written far behind the end of the file. -/
theorem second_chunk_outside_file :
    (toMemory ⟨"id", "name", 1, 2, .fill 32 0⟩).receiveChunk (fun _ => .fill 32 0) .empty
        ⟨"id", 1, 65536, [7], .fill 32 0⟩ = .error .panic ∧
      ∃ after, (toDir .empty ⟨"/srv/recv".toList⟩ ⟨"id", "name", 1, 2, .fill 32 0⟩).1.receiveChunk
        (fun _ => .fill 32 0)
        (toDir .empty ⟨"/srv/recv".toList⟩ ⟨"id", "name", 1, 2, .fill 32 0⟩).2
        ⟨"id", 1, 65536, [7], .fill 32 0⟩ = .ok after := by
  refine ⟨rfl, ?_⟩
  obtain ⟨handle, target⟩ := toDir_target .empty ⟨"/srv/recv".toList⟩
    ⟨"id", "name", 1, 2, .fill 32 0⟩
  exact ⟨_, receiveChunk_file _ target _ rfl⟩

end FileReceiver

/-- The expected sizes are those of a division of the file into chunks: each of at
    least one byte, all but the last of the standard size, and together the file. -/
def FileManifest.Partitions (m : FileManifest) : Prop :=
  ∃ size : Nat → Nat,
    (∀ i : UInt32, i < m.totalChunks → m.expectedChunkSize i = .ok (size i.toNat) ∧
      1 ≤ size i.toNat ∧ size i.toNat ≤ chunkSize ∧
      (i.toNat + 1 < m.totalChunks.toNat → size i.toNat = chunkSize)) ∧
    ∑ i ∈ Finset.range m.totalChunks.toNat, size i = m.totalSize.toNat ∧
    (m.totalChunks = 0 → m.totalSize = 0)

/-- The expected sizes add up to the boundaries. -/
theorem sum_sizes {m : FileManifest} {n : Nat} (inside : n ≤ m.totalChunks.toNat) :
    ∑ i ∈ Finset.range n, (boundary m (i + 1) - i * chunkSize) = boundary m n := by
  induction n with
  | zero => rfl
  | succ n ih =>
      have start : n * chunkSize ≤ boundary m (n + 1) := mul_le_boundary m (Nat.lt_succ_self n)
      rw [Finset.sum_range_succ, ih (Nat.le_of_succ_le inside), boundary_of_lt inside]
      omega

/-- If the sizes are a division at all, the file ends at the last boundary. -/
theorem FileManifest.Partitions.boundary_eq {m : FileManifest} (partitions : m.Partitions) :
    boundary m m.totalChunks.toNat = m.totalSize.toNat := by
  obtain ⟨size, sized, total, -⟩ := partitions
  rw [← sum_sizes (Nat.le_refl _), ← total]
  refine Finset.sum_congr rfl ?_
  intro i member
  have bound := m.totalChunks.toNat_lt
  have inside := Finset.mem_range.mp member
  have index : (UInt32.ofNat i).toNat = i := by
    rw [UInt32.toNat_ofNat', Nat.mod_eq_of_lt (by omega)]
  have before : UInt32.ofNat i < m.totalChunks := by
    rw [UInt32.lt_iff_toNat_lt, index]
    exact inside
  have expected := (sized (UInt32.ofNat i) before).1
  rw [expectedChunkSize_boundary (by rw [index]; exact inside), index] at expected
  exact Except.ok.inj expected

theorem FileManifest.partitions_of_matching {m : FileManifest}
    (matching : m.totalChunks.toNat = m.neededChunks) : m.Partitions := by
  refine ⟨fun i => boundary m (i + 1) - i * chunkSize, ?_, ?_, ?_⟩
  · intro i before
    have inside := UInt32.lt_iff_toNat_lt.mp before
    have some_bytes := lastChunkSize_pos (m := m) (by omega)
    have short := m.lastChunkSize_le
    have positive : 0 < chunkSize := by decide
    refine ⟨expectedChunkSize_boundary inside, ?_⟩
    dsimp only
    rw [boundary, Nat.add_sub_cancel_left]
    split <;> omega
  · rw [sum_sizes (Nat.le_refl _), boundary_totalChunks matching]
  · intro nothing
    rw [nothing] at matching
    exact UInt64.toNat_inj.mp (totalSize_of_neededChunks matching.symm).1

/-- The sender's own manifests divide the file, up to the size at which the count of
    chunks no longer fits its thirty-two bits. -/
theorem partitions_new_iff (fileId filename : String) (totalSize : UInt64)
    (blake3RootHash : FixedBytes 32) :
    (FileManifest.new fileId filename totalSize blake3RootHash).Partitions ↔
      totalSize.toNat ≤ (2 ^ 32 - 1) * chunkSize := by
  constructor
  · intro partitions
    have ends := partitions.boundary_eq
    have total := calculateTotalChunks_toNat totalSize
    have few := boundary_le_mul (FileManifest.new fileId filename totalSize blake3RootHash)
      (calculateTotalChunks totalSize).toNat
    calc
      totalSize.toNat ≤ (calculateTotalChunks totalSize).toNat * chunkSize := ends ▸ few
      _ ≤ (2 ^ 32 - 1) * chunkSize := Nat.mul_le_mul_right _ (by omega)
  · intro small
    apply FileManifest.partitions_of_matching
    have total := calculateTotalChunks_toNat totalSize
    rw [FileManifest.new, FileManifest.neededChunks, total, Nat.mod_eq_of_lt]
    unfold chunkSize at *
    omega

/-- A file of 2^48 bytes is announced with no chunks at all, and so counts as received. -/
theorem huge_file_without_chunks :
    ¬ (FileManifest.new "id" "name" (2 ^ 48) (.fill 32 0)).Partitions ∧
      (FileManifest.new "id" "name" (2 ^ 48) (.fill 32 0)).totalChunks = 0 ∧
      ∀ target, (FileReceiver.mk (.new "id" "name" (2 ^ 48) (.fill 32 0)) target ∅).isComplete =
        true := by
  have nothing : (FileManifest.new "id" "name" (2 ^ 48) (.fill 32 0)).totalChunks = 0 := by decide
  refine ⟨?_, nothing, fun target => ?_⟩
  · rintro ⟨-, -, -, empty⟩
    exact absurd (empty nothing) (by decide)
  · rw [FileReceiver.isComplete, if_pos nothing]

end BridgeOS.Transfer
