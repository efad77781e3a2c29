import BridgeOS.Transfer.Delivery

/-! # Chunks in any order

A receiver in memory that is handed chunks of one file, in whatever order and as
often as they come. The buffer agrees with the file on every chunk received so
far, since chunks of different index never overlap.
-/

namespace BridgeOS.Transfer

open FileReceiver

section Senders

variable (blake3 : Bytes → FixedBytes 32) (data : Bytes) (m : FileManifest)

/-- A sender over `data` after any number of seeks and reads. -/
inductive Operated : FileSender → Prop where
  | fromBytes {startChunk : UInt32} {s : FileSender}
      (opened : FileSender.fromBytes data m startChunk = .ok s) : Operated s
  | fromFile {startChunk : UInt32} {s : FileSender}
      (opened : FileSender.fromFile data m startChunk = .ok s) : Operated s
  | seek {s s' : FileSender} {chunkIndex : UInt32} (before : Operated s)
      (moved : s.seekToChunk chunkIndex = .ok s') : Operated s'
  | next {s : FileSender} (before : Operated s) : Operated (s.nextChunk blake3).2

/-- A chunk that some sender over `data` hands out. -/
def Produced (chunk : FileChunk) : Prop :=
  ∃ s, Operated blake3 data m s ∧ (s.nextChunk blake3).1 = .ok (some chunk)

/-- Chunk `i` of `data`. -/
def chunkAt (i : UInt32) : FileChunk :=
  .new blake3 m.fileId i (UInt64.ofNat (i.toNat * chunkSize))
    (slice data (i.toNat * chunkSize) (boundary m (i.toNat + 1) - i.toNat * chunkSize))

/-- As long as chunks are left, the cursor stands where the next one starts. -/
structure Placed (s : FileSender) : Prop where
  offered : s.manifest = m
  content : s.source.cursor.content = data
  position : s.currentChunk.toNat < m.totalChunks.toNat →
    s.source.cursor.position = s.currentChunk.toNat * chunkSize

variable {blake3 data m}

theorem SenderSource.readExact_fits {source : SenderSource} {n : Nat}
    (fits : source.cursor.position + n ≤ source.cursor.content.length) :
    ∃ source', source.readExact n =
        (.ok (slice source.cursor.content source.cursor.position n), source') ∧
      source'.cursor = { source.cursor with position := source.cursor.position + n } := by
  cases source with
  | file c =>
      simp only [SenderSource.cursor] at fits
      refine ⟨.file { c with position := c.position + n }, ?_, rfl⟩
      simp only [SenderSource.readExact, ReadCursor.readExact, fits, if_true, SenderSource.cursor]
  | memory c =>
      simp only [SenderSource.cursor] at fits
      refine ⟨.memory { c with position := c.position + n }, ?_, rfl⟩
      simp only [SenderSource.readExact, ReadCursor.readExact, fits, if_true, SenderSource.cursor]

namespace Placed

variable {s : FileSender}

/-- A sender hands out the chunk its counter names and moves on. -/
theorem nextChunk (placed : Placed data m s)
    (covered : ∀ j, j < m.totalChunks.toNat → boundary m (j + 1) ≤ data.length) :
    Placed data m (s.nextChunk blake3).2 ∧
      (s.nextChunk blake3).1 = .ok
        (if s.currentChunk.toNat < m.totalChunks.toNat then some (chunkAt blake3 data m s.currentChunk)
        else none) ∧
      (s.nextChunk blake3).2.currentChunk =
        if s.currentChunk.toNat < m.totalChunks.toNat then s.currentChunk + 1 else s.currentChunk := by
  have bound := m.totalChunks.toNat_lt
  by_cases more : s.currentChunk.toNat < m.totalChunks.toNat
  · have notDone : ¬ s.currentChunk ≥ m.totalChunks := by
      rw [ge_iff_le, UInt32.le_iff_toNat_le]
      omega
    have sized := expectedChunkSize_boundary more
    have start : s.currentChunk.toNat * chunkSize ≤ boundary m (s.currentChunk.toNat + 1) :=
      mul_le_boundary m (Nat.lt_succ_self _)
    have reach : s.source.cursor.position +
        (boundary m (s.currentChunk.toNat + 1) - s.currentChunk.toNat * chunkSize) ≤
          s.source.cursor.content.length := by
      rw [placed.position more, placed.content, Nat.add_sub_of_le start]
      exact covered _ more
    obtain ⟨source, read, moved⟩ := SenderSource.readExact_fits reach
    rw [placed.content, placed.position more] at read
    have counted : (s.currentChunk + 1).toNat = s.currentChunk.toNat + 1 := by
      rw [UInt32.toNat_add, UInt32.toNat_one, Nat.mod_eq_of_lt (by omega)]
    have handed : s.nextChunk blake3 = (.ok (some (chunkAt blake3 data m s.currentChunk)),
        { s with source, currentChunk := s.currentChunk + 1 }) := by
      simp only [FileSender.nextChunk, notDone, if_false, placed.offered, sized, read, chunkAt]
    rw [handed, if_pos more, if_pos more]
    refine ⟨⟨placed.offered, ?_, ?_⟩, rfl, rfl⟩
    · simp only [moved, placed.content]
    · intro further
      simp only [counted] at further ⊢
      rw [moved, placed.position more, Nat.add_sub_of_le start, boundary_of_lt further]
  · have done : s.currentChunk ≥ s.manifest.totalChunks := by
      rw [placed.offered, ge_iff_le, UInt32.le_iff_toNat_le]
      omega
    simp only [FileSender.nextChunk, done, if_true, more, if_false, and_true]
    exact placed

end Placed

theorem Operated.placed {s : FileSender} (operated : Operated blake3 data m s)
    (covered : ∀ j, j < m.totalChunks.toNat → boundary m (j + 1) ≤ data.length) :
    Placed data m s := by
  induction operated with
  | fromBytes opened =>
      obtain ⟨-, -, rest⟩ := Checks.bind_eq_ok.mp opened
      cases rest
      exact ⟨rfl, rfl, fun _ => rfl⟩
  | fromFile opened =>
      obtain ⟨-, -, rest⟩ := Checks.bind_eq_ok.mp opened
      cases rest
      exact ⟨rfl, rfl, fun _ => rfl⟩
  | @seek s _ _ _ moved ih =>
      obtain ⟨-, -, rest⟩ := Checks.bind_eq_ok.mp moved
      cases rest
      refine ⟨ih.offered, ?_, fun _ => ?_⟩
      · have content := ih.content
        cases source : s.source <;> rw [source] at content <;> exact content
      · cases s.source <;> rfl
  | next _ ih => exact (ih.nextChunk covered).1

/-- What a sender hands out is decided by its index. -/
theorem Produced.eq_chunkAt {chunk : FileChunk} (produced : Produced blake3 data m chunk)
    (covered : ∀ j, j < m.totalChunks.toNat → boundary m (j + 1) ≤ data.length) :
    chunk.chunkIndex.toNat < m.totalChunks.toNat ∧
      chunk = chunkAt blake3 data m chunk.chunkIndex := by
  obtain ⟨s, operated, handed⟩ := produced
  rw [((operated.placed covered).nextChunk covered).2.1] at handed
  split at handed
  · rename_i more
    cases handed
    exact ⟨more, rfl⟩
  · cases handed

end Senders

section Buffers

variable {blake3 : Bytes → FixedBytes 32} {data : Bytes} {m : FileManifest}

/-- The bytes of chunk `i`. -/
def span (m : FileManifest) (content : Bytes) (i : Nat) : Bytes :=
  slice content (i * chunkSize) (boundary m (i + 1) - i * chunkSize)

theorem length_span {i : Nat} (covered : boundary m (i + 1) ≤ data.length) :
    (span m data i).length = boundary m (i + 1) - i * chunkSize := by
  rw [span, length_slice]
  omega

/-- Chunks of different index do not touch each other's bytes. -/
theorem span_writeAt {buffer : Bytes} {i j : Nat} (sized : buffer.length = data.length)
    (covered : ∀ k, k < m.totalChunks.toNat → boundary m (k + 1) ≤ data.length)
    (insideI : i < m.totalChunks.toNat) (insideJ : j < m.totalChunks.toNat) :
    span m (writeAt 0 buffer (j * chunkSize) (span m data j)) i =
      if i = j then span m data j else span m buffer i := by
  have startI : i * chunkSize ≤ boundary m (i + 1) := mul_le_boundary m (Nat.lt_succ_self i)
  have startJ : j * chunkSize ≤ boundary m (j + 1) := mul_le_boundary m (Nat.lt_succ_self j)
  split
  · rename_i same
    subst same
    have written := slice_writeAt_self 0 buffer (span m data i) (i * chunkSize)
    rwa [length_span (covered i insideI)] at written
  · rename_i different
    rcases Nat.lt_or_gt_of_ne different with before | after
    · have apart : boundary m (i + 1) ≤ j * chunkSize :=
        (boundary_le_mul m _).trans (Nat.mul_le_mul_right _ before)
      exact slice_writeAt_before 0 (by omega) (by have := covered i insideI; omega)
    · have apart : boundary m (j + 1) ≤ i * chunkSize :=
        (boundary_le_mul m _).trans (Nat.mul_le_mul_right _ after)
      exact slice_writeAt_after 0 (by rw [length_span (covered j insideJ)]; omega)

/-- Contents that agree on every chunk are equal. -/
theorem eq_of_spans {buffer : Bytes} (sized : buffer.length = data.length)
    (whole : boundary m m.totalChunks.toNat = data.length)
    (agree : ∀ i, i < m.totalChunks.toNat → span m buffer i = span m data i) : buffer = data := by
  apply List.ext_getElem?
  intro p
  by_cases inside : p < data.length
  · have index : p / chunkSize < m.totalChunks.toNat := by
      rw [Nat.div_lt_iff_lt_mul (by decide)]
      exact Nat.lt_of_lt_of_le inside (whole ▸ boundary_le_mul m _)
    have lower : p / chunkSize * chunkSize ≤ p := Nat.div_mul_le_self _ _
    have upper : p < boundary m (p / chunkSize + 1) := by
      by_cases last : p / chunkSize + 1 = m.totalChunks.toNat
      · rw [last, whole]
        exact inside
      · rw [boundary_of_lt (by omega), Nat.succ_mul]
        exact Nat.lt_div_mul_add (by decide)
    have same := congrArg (fun l => l[p - p / chunkSize * chunkSize]?) (agree _ index)
    simp only [span, getElem?_slice] at same
    rwa [if_pos (by omega), if_pos (by omega), Nat.add_sub_of_le lower] at same
  · rw [List.getElem?_eq_none (by omega), List.getElem?_eq_none (by omega)]

/-- The receiver after the chunks of `indices`. -/
structure Holds (data : Bytes) (m : FileManifest) (indices : Finset Nat) (r : FileReceiver) :
    Prop where
  manifest : r.manifest = m
  buffer : ∃ buffer, r.target = .memory buffer ∧ buffer.length = data.length ∧
    ∀ i ∈ indices, span m buffer i = span m data i
  received : r.receivedChunks = indices
  inside : ∀ i ∈ indices, i < m.totalChunks.toNat

namespace Holds

variable {indices : Finset Nat} {r : FileReceiver}

theorem opening (sized : m.totalSize.toNat = data.length) : Holds data m ∅ (toMemory m) where
  manifest := rfl
  buffer := ⟨_, rfl, by rw [List.length_replicate, sized], by simp⟩
  received := rfl
  inside := by simp

theorem step (blake3 : Bytes → FixedBytes 32) (holds : Holds data m indices r)
    (covered : ∀ k, k < m.totalChunks.toNat → boundary m (k + 1) ≤ data.length)
    {j : UInt32} (inside : j.toNat < m.totalChunks.toNat) (disk : Disk PathBuf.Location) :
    ∃ r', r.receiveChunk blake3 disk (chunkAt blake3 data m j) = .ok (r', disk) ∧
      Holds data m (insert j.toNat indices) r' := by
  obtain ⟨buffer, target, sized, agree⟩ := holds.buffer
  have bound := m.totalChunks.toNat_lt
  have start : j.toNat * chunkSize ≤ boundary m (j.toNat + 1) :=
    mul_le_boundary m (Nat.lt_succ_self _)
  have offset : (UInt64.ofNat (j.toNat * chunkSize)).toNat = j.toNat * chunkSize := by
    rw [UInt64.toNat_ofNat', Nat.mod_eq_of_lt]
    simp only [chunkSize]
    omega
  have held := length_span (m := m) (covered _ inside)
  have passed : checkChunk blake3 r.manifest (chunkAt blake3 data m j) = .ok () := by
    rw [checkChunk_eq_ok, holds.manifest]
    refine ⟨rfl, by simp [chunkAt, FileChunk.new, FileChunk.verifyHash], ?_, offset⟩
    exact (expectedChunkSize_boundary inside).trans (congrArg Except.ok held.symm)
  have fits : (chunkAt blake3 data m j).offset.toNat + (chunkAt blake3 data m j).data.length ≤
      buffer.length := by
    show (UInt64.ofNat (j.toNat * chunkSize)).toNat + (span m data j.toNat).length ≤ _
    rw [offset, held, Nat.add_sub_of_le start, sized]
    exact covered _ inside
  have accepted : r.receiveChunk blake3 disk (chunkAt blake3 data m j) = .ok ({ r with
      target := .memory (writeAt 0 buffer (chunkAt blake3 data m j).offset.toNat
        (chunkAt blake3 data m j).data)
      receivedChunks := insert j.toNat r.receivedChunks }, disk) := by
    simp only [receiveChunk, passed, target, fits, if_true]
    rfl
  refine ⟨_, accepted, holds.manifest, ⟨_, rfl, ?_, ?_⟩, ?_, ?_⟩
  · show (writeAt 0 buffer (UInt64.ofNat (j.toNat * chunkSize)).toNat (span m data j.toNat)).length
      = data.length
    by_cases empty : span m data j.toNat = []
    · rw [empty, writeAt_nil, sized]
    · rw [offset, length_writeAt 0 _ empty, held, Nat.add_sub_of_le start, sized]
      exact Nat.max_eq_left (covered _ inside)
  · intro i member
    show span m (writeAt 0 buffer (UInt64.ofNat (j.toNat * chunkSize)).toNat
      (span m data j.toNat)) i = span m data i
    have known : i < m.totalChunks.toNat := by
      rcases Finset.mem_insert.mp member with rfl | old
      · exact inside
      · exact holds.inside i old
    rw [offset, span_writeAt sized covered known inside]
    split
    · rename_i same
      rw [same]
    · rename_i different
      exact agree i (Finset.mem_of_mem_insert_of_ne member different)
  · exact congrArg (insert j.toNat) holds.received
  · intro i member
    rcases Finset.mem_insert.mp member with rfl | old
    · exact inside
    · exact holds.inside i old

/-- Any list of chunks, by induction on it. -/
theorem run (holds : Holds data m indices r)
    (covered : ∀ k, k < m.totalChunks.toNat → boundary m (k + 1) ≤ data.length)
    (disk : Disk PathBuf.Location) {chunks : List FileChunk}
    (produced : ∀ chunk ∈ chunks, Produced blake3 data m chunk) :
    ∃ r', chunks.foldlM (fun state chunk => state.1.receiveChunk blake3 state.2 chunk) (r, disk) =
        .ok (r', disk) ∧
      Holds data m (indices ∪ (chunks.map fun chunk => chunk.chunkIndex.toNat).toFinset) r' := by
  induction chunks generalizing r indices with
  | nil =>
      refine ⟨r, rfl, ?_⟩
      simpa using holds
  | cons chunk rest ih =>
      obtain ⟨inside, shape⟩ := (produced chunk List.mem_cons_self).eq_chunkAt covered
      obtain ⟨r₁, accepted, next⟩ := holds.step blake3 covered inside disk
      rw [← shape] at accepted
      obtain ⟨r₂, others, final⟩ := ih next fun c later => produced c (List.mem_cons_of_mem _ later)
      refine ⟨r₂, ?_, ?_⟩
      · rw [List.foldlM_cons, accepted]
        exact others
      · rw [List.map_cons, List.toFinset_cons, Finset.union_insert, ← Finset.insert_union]
        exact final

/-- The counter of a receiver that has seen only chunks of the file is exact. -/
theorem isComplete_iff (holds : Holds data m indices r) :
    r.isComplete = true ↔ ∀ i, i < m.totalChunks.toNat → i ∈ indices := by
  have inside := holds.inside
  rw [← holds.manifest, ← holds.received] at *
  exact FileReceiver.isComplete_iff inside

theorem finalizeMemory (holds : Holds data m indices r)
    (whole : boundary m m.totalChunks.toNat = data.length) (hash : m.blake3RootHash = blake3 data)
    (complete : r.isComplete = true) : r.finalizeMemory blake3 = .ok data := by
  obtain ⟨buffer, target, sized, agree⟩ := holds.buffer
  have same : buffer = data := eq_of_spans sized whole fun i inside =>
    agree i (holds.isComplete_iff.mp complete i inside)
  simp only [FileReceiver.finalizeMemory, complete, target, holds.manifest, hash, same, Bool.not_true,
    Bool.false_eq_true, if_false, ne_eq, not_true_eq_false]

end Holds

end Buffers

/-- A receiver in memory takes every chunk of the file in any order and any number
    of times, is complete exactly when none is missing, and then returns the file. -/
theorem produced_chunks_reassemble (blake3 : Bytes → FixedBytes 32) (fileId filename : String)
    {data : Bytes} (few : chunkCount data < 2 ^ 32) (disk : Disk PathBuf.Location)
    {chunks : List FileChunk} (produced : ∀ chunk ∈ chunks,
      Produced blake3 data (createManifestFromBytes blake3 fileId filename data) chunk) :
    ∃ r, chunks.foldlM (fun state chunk => state.1.receiveChunk blake3 state.2 chunk)
        (toMemory (createManifestFromBytes blake3 fileId filename data), disk) = .ok (r, disk) ∧
      (r.isComplete = true ↔
        ∀ i, i < (createManifestFromBytes blake3 fileId filename data).totalChunks.toNat →
          ∃ chunk ∈ chunks, chunk.chunkIndex.toNat = i) ∧
      (r.isComplete = true → r.finalizeMemory blake3 = .ok data) := by
  have fits := fits_of_few few
  obtain ⟨r, fed, holds⟩ := (Holds.opening (honest_totalSize blake3 fileId filename fits)).run
    (honest_covered blake3 fileId filename fits) disk produced
  refine ⟨r, fed, ?_, holds.finalizeMemory (honest_boundary blake3 fileId filename few) rfl⟩
  rw [holds.isComplete_iff]
  simp

/-- The only chunk of a short file, delivered twice. -/
theorem repeated_chunk_reassembles :
    let m := createManifestFromBytes (fun _ => .fill 32 0) "id" "notes.txt" [7, 8]
    let chunk := chunkAt (fun _ => .fill 32 0) [7, 8] m 0
    ∃ r, [chunk, chunk].foldlM
        (fun state chunk => state.1.receiveChunk (fun _ => .fill 32 0) state.2 chunk)
        (toMemory m, Disk.empty) = .ok (r, Disk.empty) ∧
      r.isComplete = true ∧ r.finalizeMemory (fun _ => .fill 32 0) = .ok [7, 8] := by
  intro m chunk
  have produced : Produced (fun _ => .fill 32 0) [7, 8] m chunk :=
    ⟨_, .fromBytes (show FileSender.fromBytes [7, 8] m 0 = .ok _ from rfl), rfl⟩
  have both : ∀ c ∈ [chunk, chunk], Produced (fun _ => .fill 32 0) [7, 8] m c := by
    intro c member
    simp only [List.mem_cons, List.not_mem_nil, or_false, or_self] at member
    rw [member]
    exact produced
  obtain ⟨r, fed, complete, returned⟩ := produced_chunks_reassemble (fun _ => .fill 32 0) "id"
    "notes.txt" (by decide) Disk.empty both
  have all : r.isComplete = true := complete.mpr fun i inside =>
    ⟨chunk, List.mem_cons_self, (Nat.lt_one_iff.mp inside).symm⟩
  exact ⟨r, fed, all, returned all⟩

end BridgeOS.Transfer
