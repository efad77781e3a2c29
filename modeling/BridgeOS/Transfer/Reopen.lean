import BridgeOS.Transfer.Delivery

/-! # What a reopened receiver counts

Chunks may arrive in any order, and a write beyond the end of the file fills the
gap with zeros. The length that `to_dir` looks at is decided by the highest
chunk written, so reopening counts everything below it.
-/

namespace BridgeOS.Transfer

open PathBuf (Location)
open FileReceiver

section History

variable (blake3 : Bytes → FixedBytes 32) (destDir : PathBuf) (m : FileManifest)
  (start : Disk Location)

/-- A receiver's life over any number of openings, with the accepted chunks, the
    newest first. A rejected chunk changes nothing. -/
inductive Receives : FileReceiver → Disk Location → List FileChunk → Prop where
  | opened : Receives (toDir start destDir m).1 (toDir start destDir m).2 []
  | accepted {r disk log chunk r' disk'} (before : Receives r disk log)
      (ok : r.receiveChunk blake3 disk chunk = .ok (r', disk')) : Receives r' disk' (chunk :: log)
  | rejected {r disk log chunk failure} (before : Receives r disk log)
      (refused : r.receiveChunk blake3 disk chunk = .error failure) : Receives r disk log
  | reopened {r disk log} (before : Receives r disk log) :
      Receives (toDir disk destDir m).1 (toDir disk destDir m).2 log

end History

/-- The last chunk accepted under an index. -/
def lastAccepted (log : List FileChunk) (j : Nat) : Option FileChunk :=
  log.find? (fun chunk => chunk.chunkIndex.toNat = j)

/-- Whatever counts as received was accepted, and its bytes are the last ones
    accepted for it. -/
def CountsVerified (destDir : PathBuf) (r : FileReceiver) (disk : Disk Location)
    (log : List FileChunk) : Prop :=
  ∀ j ∈ r.receivedChunks, ∃ chunk, lastAccepted log j = some chunk ∧
    slice (partBytes disk destDir r.manifest) (j * chunkSize) chunk.data.length = chunk.data

/-- The length of the file reaches past chunk `j` for another reason than chunk `j`. -/
def ReachedPast (n₀ : Nat) (log : List FileChunk) (j : Nat) : Prop :=
  j < n₀ ∨ ∃ chunk ∈ log, j < chunk.chunkIndex.toNat ∧ chunk.data ≠ []

/-- What the history says about the bytes of the file: how far they reach and what
    stands in each accepted range that is still there. -/
structure Laid (m : FileManifest) (n₀ : Nat) (log : List FileChunk) (c : Bytes) : Prop where
  sized : ∀ chunk ∈ log, m.expectedChunkSize chunk.chunkIndex = .ok chunk.data.length
  within : c.length ≤ m.totalChunks.toNat * chunkSize
  reach : ∀ j, j < m.totalChunks.toNat → ((j + 1) * chunkSize ≤ c.length ↔
    ReachedPast n₀ log j ∨ ∃ chunk ∈ log, chunk.chunkIndex.toNat = j ∧ chunk.data.length = chunkSize)
  latest : ∀ j chunk, lastAccepted log j = some chunk →
    j * chunkSize + chunk.data.length ≤ c.length →
      slice c (j * chunkSize) chunk.data.length = chunk.data

variable {chunk : FileChunk}

theorem lastAccepted_mem {log : List FileChunk} {j : Nat} (found : lastAccepted log j = some chunk) :
    chunk ∈ log ∧ chunk.chunkIndex.toNat = j := by
  refine ⟨List.mem_of_find?_eq_some found, ?_⟩
  simpa using List.find?_some found

theorem lastAccepted_of_mem {log : List FileChunk} (member : chunk ∈ log) :
    ∃ last, lastAccepted log chunk.chunkIndex.toNat = some last := by
  apply Option.isSome_iff_exists.mp
  rw [lastAccepted, List.find?_isSome]
  exact ⟨chunk, member, by simp⟩

theorem validChunks_of_le {m : FileManifest} {len : Nat}
    (within : len ≤ m.totalChunks.toNat * chunkSize) : validChunks m len = len / chunkSize := by
  have bound := m.totalChunks.toNat_lt
  have inside : len / chunkSize ≤ m.totalChunks.toNat :=
    Nat.div_le_of_le_mul (Nat.mul_comm _ _ ▸ within)
  rw [validChunks, Nat.mod_eq_of_lt (by omega), Nat.min_eq_left inside]

namespace Laid

variable {m : FileManifest} {n₀ : Nat} {log : List FileChunk} {c : Bytes}

theorem data_le (laid : Laid m n₀ log c) (member : chunk ∈ log) :
    chunk.data.length ≤ chunkSize := FileManifest.expectedChunkSize_le (laid.sized chunk member)

theorem opening {found : Bytes} (some_chunks : m.totalChunks ≠ 0) :
    Laid m (validChunks m found.length) [] (keptBytes m found) := by
  have length := length_keptBytes found some_chunks
  refine ⟨?_, ?_, ?_, ?_⟩
  · intro chunk member
    cases member
  · rw [length]
    exact Nat.mul_le_mul_right _ (validChunks_le_total m _)
  · intro j inside
    rw [length, Nat.mul_le_mul_right_iff (by decide)]
    simp only [ReachedPast, List.not_mem_nil, false_and, exists_false, or_false]
    exact Nat.succ_le_iff
  · intro j chunk found
    cases found

/-- Cutting behind the last whole chunk loses no whole chunk. -/
theorem reopen (laid : Laid m n₀ log c) (some_chunks : m.totalChunks ≠ 0) :
    Laid m n₀ log (keptBytes m c) := by
  have length := length_keptBytes c some_chunks
  have kept : keptBytes m c <+: c := by
    rw [keptBytes, if_neg some_chunks]
    exact List.take_prefix _ _
  refine ⟨laid.sized, kept.length_le.trans laid.within, ?_, ?_⟩
  · intro j inside
    rw [← laid.reach j inside, length, validChunks_of_le laid.within,
      Nat.mul_le_mul_right_iff (by decide), Nat.le_div_iff_mul_le (by decide)]
  · intro j chunk found there
    rw [slice_of_initial kept there]
    exact laid.latest j chunk found (there.trans kept.length_le)

/-- How far one more chunk reaches: past every index below it, and past its own when
    it is a whole one. -/
private theorem reach_chunk {i j n : Nat} (positive : 0 < n) (small : n ≤ chunkSize) :
    (j + 1) * chunkSize ≤ i * chunkSize + n ↔ j < i ∨ i = j ∧ n = chunkSize := by
  have size : 0 < chunkSize := by decide
  rcases Nat.lt_trichotomy j i with below | same | above
  · have whole := Nat.mul_le_mul_right chunkSize (show j + 1 ≤ i from below)
    exact iff_of_true (by omega) (.inl below)
  · subst same
    rw [Nat.succ_mul]
    omega
  · have whole := Nat.mul_le_mul_right chunkSize (show i + 1 ≤ j from above)
    rw [Nat.succ_mul] at whole ⊢
    omega

/-- Ranges of different chunks do not meet, so a write leaves the others' bytes alone. -/
private theorem latest_other (laid : Laid m n₀ log c) {chunk last : FileChunk} {j : Nat}
    (inside : chunk.chunkIndex.toNat < m.totalChunks.toNat)
    (small : chunk.data.length ≤ chunkSize) (other : chunk.chunkIndex.toNat ≠ j)
    (found : lastAccepted log j = some last)
    (there : j * chunkSize + last.data.length ≤
      (writeAt 0 c (chunk.chunkIndex.toNat * chunkSize) chunk.data).length) :
    slice (writeAt 0 c (chunk.chunkIndex.toNat * chunkSize) chunk.data) (j * chunkSize)
      last.data.length = last.data := by
  obtain ⟨member, same⟩ := lastAccepted_mem found
  by_cases empty : chunk.data = []
  · rw [empty, writeAt_nil] at there ⊢
    exact laid.latest j last found there
  · rw [length_writeAt 0 _ empty] at there
    rcases Nat.lt_or_gt_of_ne other with below | above
    · have whole := Nat.mul_le_mul_right chunkSize (show chunk.chunkIndex.toNat + 1 ≤ j from below)
      rw [Nat.succ_mul] at whole
      rw [slice_writeAt_after 0 (by omega)]
      by_cases nothing : last.data = []
      · rw [nothing]
        exact slice_zero_length _ _
      · have positive := List.length_pos_iff.mpr nothing
        exact laid.latest j last found (by omega)
    · -- only the last chunk is short, so the one below is whole and lies in the file
      have full : last.data.length = chunkSize := by
        obtain ⟨-, exactly⟩ := FileManifest.expectedChunkSize_eq_ok.mp (laid.sized last member)
        rw [if_neg (by omega)] at exactly
        exact exactly
      have held := (laid.reach j (by omega)).mpr (.inr ⟨last, member, same, full⟩)
      have whole := Nat.mul_le_mul_right chunkSize (show j + 1 ≤ chunk.chunkIndex.toNat from above)
      rw [Nat.succ_mul] at held whole
      rw [slice_writeAt_before 0 (by omega) (by omega)]
      exact laid.latest j last found (by omega)

theorem accept (laid : Laid m n₀ log c) (sized : m.expectedChunkSize chunk.chunkIndex = .ok chunk.data.length) :
    Laid m n₀ (chunk :: log) (writeAt 0 c (chunk.chunkIndex.toNat * chunkSize) chunk.data) := by
  obtain ⟨inside, -⟩ := FileManifest.expectedChunkSize_eq_ok.mp sized
  have small := FileManifest.expectedChunkSize_le sized
  refine ⟨?_, ?_, ?_, ?_⟩
  · intro other member
    rcases List.mem_cons.mp member with rfl | older
    · exact sized
    · exact laid.sized other older
  · by_cases empty : chunk.data = []
    · rw [empty, writeAt_nil]
      exact laid.within
    · have whole := Nat.mul_le_mul_right chunkSize (Nat.succ_le_of_lt inside)
      rw [Nat.succ_mul] at whole
      rw [length_writeAt 0 _ empty]
      exact Nat.max_le.mpr ⟨laid.within, by omega⟩
  · intro j bound
    by_cases empty : chunk.data = []
    · rw [empty, writeAt_nil, laid.reach j bound]
      simp [ReachedPast, empty, chunkSize]
    · have positive := List.length_pos_iff.mpr empty
      rw [length_writeAt 0 _ empty, le_max_iff, laid.reach j bound, reach_chunk positive small]
      simp only [ReachedPast, List.mem_cons, exists_eq_or_imp, empty, ne_eq, not_false_eq_true,
        and_true, or_assoc, or_comm, or_left_comm]
  · intro j last found there
    by_cases own : chunk.chunkIndex.toNat = j
    · rw [lastAccepted, List.find?_cons_of_pos (by simpa using own)] at found
      cases found
      subst own
      exact slice_writeAt_self 0 c chunk.data _
    · rw [lastAccepted, List.find?_cons_of_neg (by simpa using own), ← lastAccepted] at found
      exact laid.latest_other inside small own found there

end Laid

/-- The state of a receiver's life: the file behind its handle is laid out by the
    accepted chunks over what the first opening kept. -/
structure Follows (destDir : PathBuf) (m : FileManifest) (n₀ : Nat) (r : FileReceiver)
    (disk : Disk Location) (log : List FileChunk) : Prop where
  kept : r.manifest = m
  target : ∃ handle, r.target = .file (finalPathOf destDir m) (partPathOf destDir m) handle ∧
    disk.file (partPathOf destDir m).location = some handle
  laid : m.totalChunks ≠ 0 → Laid m n₀ log (partBytes disk destDir m)

theorem partBytes_of_file {destDir : PathBuf} {m : FileManifest} {disk : Disk Location}
    {handle : Nat} (named : disk.file (partPathOf destDir m).location = some handle) :
    partBytes disk destDir m = disk.content handle := by
  rw [partBytes, Disk.read, named, Option.map_some, Option.getD_some]

theorem partBytes_toDir (disk : Disk Location) (destDir : PathBuf) (m : FileManifest) :
    partBytes (toDir disk destDir m).2 destDir m = keptBytes m (partBytes disk destDir m) := by
  obtain ⟨handle, -, named, content⟩ := toDir_spec disk destDir m
  rw [partBytes_of_file named, content]

section Runs

variable {blake3 : Bytes → FixedBytes 32} {destDir : PathBuf} {m : FileManifest}
  {start disk : Disk Location} {r : FileReceiver} {log : List FileChunk}

theorem Follows.toDir {n₀ : Nat} (laid : m.totalChunks ≠ 0 →
      Laid m n₀ log (keptBytes m (partBytes disk destDir m))) :
    Follows destDir m n₀ (toDir disk destDir m).1 (toDir disk destDir m).2 log := by
  obtain ⟨handle, opened, named, -⟩ := toDir_spec disk destDir m
  refine ⟨?_, ⟨handle, ?_, named⟩, ?_⟩
  · rw [opened]
  · rw [opened]
  · rw [partBytes_toDir]
    exact laid

theorem Follows.accept {n₀ : Nat} (state : Follows destDir m n₀ r disk log) {r' : FileReceiver}
    {disk' : Disk Location} (ok : r.receiveChunk blake3 disk chunk = .ok (r', disk')) :
    Follows destDir m n₀ r' disk' (chunk :: log) := by
  obtain ⟨handle, target, named⟩ := state.target
  cases checked : checkChunk blake3 r.manifest chunk with
  | error e =>
      simp only [receiveChunk, checked] at ok
      cases ok
  | ok =>
      rw [receiveChunk_file blake3 target disk checked] at ok
      cases ok
      rw [state.kept, checkChunk_eq_ok] at checked
      obtain ⟨-, -, sized, offset⟩ := checked
      refine ⟨state.kept, ⟨handle, target, named⟩, ?_⟩
      intro some_chunks
      have next := (state.laid some_chunks).accept sized
      rw [partBytes_of_file named] at next
      have same : (disk.write handle chunk.offset.toNat chunk.data).file
          (partPathOf destDir m).location = some handle := named
      rw [partBytes_of_file same, Disk.write_content, offset]
      exact next

/-- Every life of a receiver is laid out by its accepted chunks. -/
theorem Receives.follows (life : Receives blake3 destDir m start r disk log) :
    Follows destDir m (validChunks m (partBytes start destDir m).length) r disk log := by
  induction life with
  | opened => exact Follows.toDir Laid.opening
  | accepted before ok ih => exact ih.accept ok
  | rejected before refused ih => exact ih
  | reopened before ih =>
      apply Follows.toDir
      intro some_chunks
      exact (ih.laid some_chunks).reopen some_chunks

/-- Which chunks count after reopening. -/
theorem Receives.mem_reopened (life : Receives blake3 destDir m start r disk log) (j : Nat) :
    j ∈ (toDir disk destDir m).1.receivedChunks ↔ j < m.totalChunks.toNat ∧
      (ReachedPast (validChunks m (partBytes start destDir m).length) log j ∨
        ∃ chunk ∈ log, chunk.chunkIndex.toNat = j ∧ chunk.data.length = chunkSize) := by
  obtain ⟨handle, opened, -, -⟩ := toDir_spec disk destDir m
  rw [opened, Finset.mem_range]
  by_cases zero : m.totalChunks = 0
  · simp [validChunks, zero]
  · have laid := life.follows.laid zero
    have inside := validChunks_le_total m (partBytes disk destDir m).length
    rw [← Nat.succ_le_iff]
    constructor
    · intro counted
      have bound : j < m.totalChunks.toNat := by omega
      rw [validChunks_of_le laid.within, Nat.le_div_iff_mul_le (by decide)] at counted
      exact ⟨bound, (laid.reach j bound).mp counted⟩
    · rintro ⟨bound, reached⟩
      rw [validChunks_of_le laid.within, Nat.le_div_iff_mul_le (by decide)]
      exact (laid.reach j bound).mpr reached

/-- Reopening counts verified chunks only, exactly when nothing reached past an index
    that was never accepted: no leftover at the first opening, no higher chunk. -/
theorem countsVerified_iff_nothing_skipped (life : Receives blake3 destDir m start r disk log) :
    CountsVerified destDir (toDir disk destDir m).1 (toDir disk destDir m).2 log ↔
      ∀ j, j < m.totalChunks.toNat →
        ReachedPast (validChunks m (partBytes start destDir m).length) log j →
          ∃ chunk ∈ log, chunk.chunkIndex.toNat = j := by
  have manifest : (toDir disk destDir m).1.manifest = m := life.reopened.follows.kept
  constructor
  · intro counts j bound past
    obtain ⟨chunk, found, -⟩ := counts j ((life.mem_reopened j).mpr ⟨bound, .inl past⟩)
    exact ⟨chunk, lastAccepted_mem found⟩
  · intro nothingSkipped j counted
    obtain ⟨bound, reached⟩ := (life.mem_reopened j).mp counted
    have some_chunks : m.totalChunks ≠ 0 := by
      intro zero
      rw [zero] at bound
      exact Nat.not_lt_zero _ bound
    obtain ⟨chunk, member, rfl⟩ : ∃ chunk ∈ log, chunk.chunkIndex.toNat = j := by
      rcases reached with past | ⟨chunk, member, own, -⟩
      · exact nothingSkipped j bound past
      · exact ⟨chunk, member, own⟩
    obtain ⟨last, found⟩ := lastAccepted_of_mem member
    have laid := life.reopened.follows.laid some_chunks
    have held := (laid.reach _ bound).mpr reached
    have small := laid.data_le (lastAccepted_mem found).1
    rw [Nat.succ_mul] at held
    rw [manifest]
    exact ⟨last, found, laid.latest _ last found (by omega)⟩

end Runs

/-- Chunks taken in order are counted as what they are. -/
theorem in_order_counts_verified :
    CountsVerified ⟨"/srv".toList⟩
      (toDir ((toDir Disk.empty ⟨"/srv".toList⟩ (.new "id" "a" 3 (.fill 32 0))).2.write 0 0 [1, 2, 3])
        ⟨"/srv".toList⟩ (.new "id" "a" 3 (.fill 32 0))).1
      (toDir ((toDir Disk.empty ⟨"/srv".toList⟩ (.new "id" "a" 3 (.fill 32 0))).2.write 0 0 [1, 2, 3])
        ⟨"/srv".toList⟩ (.new "id" "a" 3 (.fill 32 0))).2
      [⟨"id", 0, 0, [1, 2, 3], .fill 32 0⟩] := by
  have life : Receives (fun _ => .fill 32 0) ⟨"/srv".toList⟩ (.new "id" "a" 3 (.fill 32 0))
      Disk.empty _ _ [⟨"id", 0, 0, [1, 2, 3], .fill 32 0⟩] := .accepted .opened rfl
  refine (countsVerified_iff_nothing_skipped life).mpr ?_
  intro j bound _
  exact ⟨_, List.mem_singleton_self _, (Nat.lt_one_iff.mp bound).symm⟩

/-- The second chunk of two arrives alone; after reopening the first one counts. -/
theorem skipped_chunk_is_counted :
    ∃ r disk, Receives (fun _ => .fill 32 0) ⟨"/srv".toList⟩ (.new "id" "a" 65537 (.fill 32 0))
        Disk.empty r disk [⟨"id", 1, 65536, [7], .fill 32 0⟩] ∧
      0 ∈ (toDir disk ⟨"/srv".toList⟩ (.new "id" "a" 65537 (.fill 32 0))).1.receivedChunks ∧
      ¬ CountsVerified ⟨"/srv".toList⟩
        (toDir disk ⟨"/srv".toList⟩ (.new "id" "a" 65537 (.fill 32 0))).1
        (toDir disk ⟨"/srv".toList⟩ (.new "id" "a" 65537 (.fill 32 0))).2
        [⟨"id", 1, 65536, [7], .fill 32 0⟩] := by
  obtain ⟨r, disk, life⟩ : ∃ r disk, Receives (fun _ => .fill 32 0) ⟨"/srv".toList⟩
      (.new "id" "a" 65537 (.fill 32 0)) Disk.empty r disk [⟨"id", 1, 65536, [7], .fill 32 0⟩] :=
    ⟨_, _, .accepted .opened (receiveChunk_file _ rfl _ ((checkChunk_eq_ok _).mpr (by decide)))⟩
  have bound : 0 < (FileManifest.new "id" "a" 65537 (.fill 32 0)).totalChunks.toNat := by decide
  have counted := (life.mem_reopened 0).mpr ⟨bound, .inl (.inr ⟨_, List.mem_singleton_self _,
    Nat.one_pos, List.cons_ne_nil _ _⟩)⟩
  refine ⟨r, disk, life, counted, ?_⟩
  intro counts
  obtain ⟨chunk, found, -⟩ := counts 0 counted
  cases found

end BridgeOS.Transfer
