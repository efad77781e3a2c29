import BridgeOS.Transfer.Containment
import BridgeOS.Transfer.Sender

/-! # An honest sender feeding a receiver

One session as both command-line ends run it: the receiver is opened, the
sender starts at `next_expected_chunk`, and chunks go over in order. The
receiver's file grows by exactly the source bytes between two chunk boundaries,
on top of whatever the reopened file already held.
-/

namespace BridgeOS.Transfer

open PathBuf (Location step?)
open FileReceiver FileManifest

/-- Where chunk `i` starts; behind the last chunk, where the announced file ends. -/
def boundary (m : FileManifest) : Nat → Nat
  | 0 => 0
  | i + 1 => i * chunkSize + if i + 1 = m.totalChunks.toNat then m.lastChunkSize else chunkSize

theorem boundary_of_lt {m : FileManifest} {i : Nat} (inside : i < m.totalChunks.toNat) :
    boundary m i = i * chunkSize := by
  cases i with
  | zero => exact (Nat.zero_mul _).symm
  | succ i => rw [boundary, if_neg (Nat.ne_of_lt inside), Nat.succ_mul]

theorem boundary_le_mul (m : FileManifest) (i : Nat) : boundary m i ≤ i * chunkSize := by
  cases i with
  | zero => exact Nat.zero_le _
  | succ i =>
      rw [boundary, Nat.succ_mul]
      split
      · exact Nat.add_le_add_left m.lastChunkSize_le _
      · exact Nat.le_refl _

theorem mul_le_boundary (m : FileManifest) {i j : Nat} (before : i < j) :
    i * chunkSize ≤ boundary m j := by
  obtain ⟨k, rfl⟩ := Nat.exists_eq_add_of_lt before
  rw [boundary]
  exact Nat.le_trans (Nat.mul_le_mul_right _ (Nat.le_add_right i k)) (Nat.le_add_right _ _)

theorem expectedChunkSize_boundary {m : FileManifest} {i : UInt32}
    (inside : i.toNat < m.totalChunks.toNat) :
    m.expectedChunkSize i = .ok (boundary m (i.toNat + 1) - i.toNat * chunkSize) := by
  rw [FileManifest.expectedChunkSize_eq_ok, boundary, Nat.add_sub_cancel_left]
  exact ⟨inside, rfl⟩

/-- With no more chunks than the size takes, each ends within the file. A file of no
    bytes may still have one chunk, of no bytes. -/
theorem boundary_le_totalSize {m : FileManifest} (few : m.totalChunks.toNat ≤ max 1 m.neededChunks)
    {i : Nat} (inside : i < m.totalChunks.toNat) : boundary m (i + 1) ≤ m.totalSize.toNat := by
  rcases Nat.eq_zero_or_pos m.neededChunks with none_needed | some_needed
  · obtain ⟨empty, nothing⟩ := totalSize_of_neededChunks none_needed
    have single : i = 0 ∧ m.totalChunks.toNat = 1 := by omega
    rw [boundary, if_pos (by omega), nothing, single.1, empty]
    exact Nat.le_refl _
  · have last := lastChunk_end some_needed
    rw [boundary, ← last]
    split
    · exact Nat.add_le_add_right (Nat.mul_le_mul_right _ (by omega)) _
    · rw [← Nat.succ_mul]
      exact Nat.le_trans (Nat.mul_le_mul_right _ (by omega)) (Nat.le_add_right _ _)

/-- With as many as the size takes, the last one ends where the file ends. -/
theorem boundary_totalChunks {m : FileManifest} (matching : m.totalChunks.toNat = m.neededChunks) :
    boundary m m.totalChunks.toNat = m.totalSize.toNat := by
  cases count : m.neededChunks with
  | zero => rw [matching, count, boundary, (totalSize_of_neededChunks count).1]
  | succ n =>
      have last : (m.neededChunks - 1) * chunkSize + m.lastChunkSize = m.totalSize.toNat :=
        lastChunk_end (by omega)
      rw [count, Nat.add_sub_cancel] at last
      rw [matching, count, boundary, if_pos (matching.trans count).symm]
      exact last

/-- The slices of successive runs of chunks join up. -/
theorem slice_boundary_append {m : FileManifest} {i k : Nat} (data : Bytes)
    (below : i < k) (inside : k ≤ m.totalChunks.toNat) :
    slice data (i * chunkSize) (boundary m (i + 1) - i * chunkSize) ++
      slice data ((i + 1) * chunkSize) (boundary m k - (i + 1) * chunkSize) =
        slice data (i * chunkSize) (boundary m k - i * chunkSize) := by
  have start : i * chunkSize ≤ boundary m (i + 1) := mul_le_boundary m (Nat.lt_succ_self i)
  rcases Nat.eq_or_lt_of_le (show i + 1 ≤ k from below) with last | further
  · subst last
    rw [Nat.sub_eq_zero_of_le (boundary_le_mul m _), slice_zero_length, List.append_nil]
  · have full : boundary m (i + 1) = (i + 1) * chunkSize := boundary_of_lt (by omega)
    have reached : (i + 1) * chunkSize ≤ boundary m k := mul_le_boundary m further
    rw [full] at start ⊢
    have join := slice_append_slice data (i * chunkSize) ((i + 1) * chunkSize - i * chunkSize)
      (boundary m k - (i + 1) * chunkSize)
    rw [Nat.add_sub_of_le start] at join
    rw [join]
    congr 1
    omega

/-- The two names of one transfer never lead to the same file. -/
theorem partPathOf_location_ne (destDir : PathBuf) (m : FileManifest) :
    (partPathOf destDir m).location ≠ (finalPathOf destDir m).location := by
  intro same
  have plain : '/' ∉ ".part".toList := by decide
  rw [partPathOf_eq, finalPathOf] at same
  generalize PathBuf.mk m.filename.toList = name at same
  rw [PathBuf.location_join, PathBuf.location_join, PathBuf.isAbsolute_appendSuffix name plain,
    PathBuf.segments_appendSuffix name plain, PathBuf.segments_eq name] at same
  simp only [List.filterMap_append, List.filterMap_cons, List.filterMap_nil, step?_part,
    PathBuf.Location.mk.injEq, true_and, List.append_cancel_left_eq] at same
  cases moved : step? name.lastSegment with
  | none => simp [moved] at same
  | some step =>
      simp only [moved, List.cons.injEq, and_true] at same
      obtain ⟨-, grown⟩ := step?_eq_down.mp (moved.trans (congrArg some same.symm))
      simpa using congrArg List.length grown

section Sessions

variable (blake3 : Bytes → FixedBytes 32)

/-- Up to `n` chunks; fewer when the sender runs out. -/
def deliver : Nat → FileSender → FileReceiver → Disk Location →
    Except Failure Unit × FileSender × FileReceiver × Disk Location
  | 0, s, r, disk => (.ok (), s, r, disk)
  | n + 1, s, r, disk =>
      match s.nextChunk blake3 with
      | (.error e, s') => (.error (.error e), s', r, disk)
      | (.ok none, s') => (.ok (), s', r, disk)
      | (.ok (some chunk), s') =>
          match r.receiveChunk blake3 disk chunk with
          | .error failure => (.error failure, s', r, disk)
          | .ok (r', disk') => deliver n s' r' disk'

/-- A session that is not interrupted: open, deliver what is missing, finalize. -/
def attempt (destDir : PathBuf) (data : Bytes) (m : FileManifest) (disk : Disk Location) :
    Except Failure PathBuf × Disk Location :=
  let (r, opened) := toDir disk destDir m
  match FileSender.fromFile data m r.nextExpectedChunk with
  | .error e => (.error (.error e), opened)
  | .ok s =>
      match deliver blake3 m.totalChunks.toNat s r opened with
      | (.error failure, _, _, disk') => (.error failure, disk')
      | (.ok (), _, r', disk') =>
          match r'.finalizeFile blake3 disk' with
          | .error e => (.error (.error e), disk')
          | .ok (path, disk'') => (.ok path, disk'')

end Sessions

/-- Sender and receiver agree that the first `i` chunks are over, and the file
    behind the handle holds `c`. -/
structure InTransit (data : Bytes) (m : FileManifest) (finalPath partPath : PathBuf)
    (handle : Nat) (c : Bytes) (i : Nat) (s : FileSender) (r : FileReceiver)
    (disk : Disk Location) : Prop where
  offered : s.manifest = m
  index : s.currentChunk.toNat = i
  source : i < m.totalChunks.toNat → s.source = .file ⟨data, i * chunkSize⟩
  opened : r = ⟨m, .file finalPath partPath handle, Finset.range i⟩
  content : disk.content handle = c
  reached : i < m.totalChunks.toNat → c.length = i * chunkSize
  inside : i ≤ m.totalChunks.toNat

namespace InTransit

variable (blake3 : Bytes → FixedBytes 32) {data : Bytes} {m : FileManifest}
  {finalPath partPath : PathBuf} {handle : Nat} {c : Bytes} {i : Nat} {s : FileSender}
  {r : FileReceiver} {disk : Disk Location} {destDir : PathBuf}

/-- How a session starts: the sender is placed behind the chunks that were kept. -/
theorem opening (disk : Disk Location) (destDir : PathBuf) (data : Bytes) (m : FileManifest) :
    ∃ handle s, FileSender.fromFile data m (toDir disk destDir m).1.nextExpectedChunk = .ok s ∧
      (toDir disk destDir m).2.file (partPathOf destDir m).location = some handle ∧
      InTransit data m (finalPathOf destDir m) (partPathOf destDir m) handle
        (keptBytes m (partBytes disk destDir m)) (validChunks m (partBytes disk destDir m).length) s
        (toDir disk destDir m).1 (toDir disk destDir m).2 := by
  obtain ⟨handle, opened, named, content⟩ := toDir_spec disk destDir m
  generalize partBytes disk destDir m = found at opened content ⊢
  have inside := validChunks_le_total m found.length
  have next : (toDir disk destDir m).1.nextExpectedChunk.toNat = validChunks m found.length := by
    rw [opened]
    exact nextExpectedChunk_range rfl inside
  have started : FileSender.fromFile data m (toDir disk destDir m).1.nextExpectedChunk =
      .ok ⟨m, .file ⟨data, (toDir disk destDir m).1.nextExpectedChunk.toNat * chunkSize⟩,
        (toDir disk destDir m).1.nextExpectedChunk⟩ := by
    have allowed : ¬ (toDir disk destDir m).1.nextExpectedChunk > m.totalChunks := by
      rw [gt_iff_lt, UInt32.lt_iff_toNat_lt, next]
      exact Nat.not_lt_of_le inside
    simp only [FileSender.fromFile, FileSender.validateStart, Checks.reject, allowed]
    rfl
  refine ⟨handle, _, started, named, rfl, next, ?_, opened, content, ?_, inside⟩
  · intro _
    rw [next]
  · intro more
    have some_chunks : m.totalChunks ≠ 0 := by
      intro zero
      rw [zero] at more
      exact Nat.not_lt_zero _ more
    exact length_keptBytes found some_chunks

section Steps

variable (state : InTransit data m finalPath partPath handle c i s r disk)

include state

theorem exhausted (all : i = m.totalChunks.toNat) : s.nextChunk blake3 = (.ok none, s) := by
  have done : s.currentChunk ≥ s.manifest.totalChunks := by
    rw [ge_iff_le, UInt32.le_iff_toNat_le, state.offered, state.index]
    omega
  simp only [FileSender.nextChunk, done, if_true]

theorem complete (all : i = m.totalChunks.toNat) : r.isComplete = true := by
  rw [isComplete_range (n := i)]
  · rw [state.opened]
    exact all
  · rw [state.opened]
  · rw [state.opened]
    exact state.inside

/-- One chunk goes over: the sender reads its slice, the receiver accepts it and
    appends it. -/
theorem step (more : i < m.totalChunks.toNat) (covered : boundary m (i + 1) ≤ data.length) :
    ∃ chunk s' r' disk', s.nextChunk blake3 = (.ok (some chunk), s') ∧
      r.receiveChunk blake3 disk chunk = .ok (r', disk') ∧ disk'.file = disk.file ∧
      InTransit data m finalPath partPath handle
        (c ++ slice data (i * chunkSize) (boundary m (i + 1) - i * chunkSize)) (i + 1) s' r' disk' := by
  have bound := m.totalChunks.toNat_lt
  have sized := expectedChunkSize_boundary (m := m) (i := s.currentChunk)
    (by rw [state.index]; exact more)
  rw [state.index] at sized
  have notDone : ¬ s.currentChunk ≥ m.totalChunks := by
    rw [ge_iff_le, UInt32.le_iff_toNat_le, state.index]
    omega
  have offset : (UInt64.ofNat (i * chunkSize)).toNat = i * chunkSize := by
    rw [UInt64.toNat_ofNat', Nat.mod_eq_of_lt]
    simp only [chunkSize]
    omega
  have start : i * chunkSize ≤ boundary m (i + 1) := mul_le_boundary m (Nat.lt_succ_self i)
  have held : (slice data (i * chunkSize) (boundary m (i + 1) - i * chunkSize)).length =
      boundary m (i + 1) - i * chunkSize := by
    rw [length_slice]
    omega
  -- what the sender reads
  have sent : s.nextChunk blake3 = (.ok (some (.new blake3 m.fileId s.currentChunk
      (UInt64.ofNat (i * chunkSize))
      (slice data (i * chunkSize) (boundary m (i + 1) - i * chunkSize)))),
      { s with
        source := .file ⟨data, i * chunkSize + (boundary m (i + 1) - i * chunkSize)⟩
        currentChunk := s.currentChunk + 1 }) := by
    simp only [FileSender.nextChunk, notDone, if_false, state.offered, sized, state.source more,
      SenderSource.readExact, ReadCursor.readExact, state.index, Nat.add_sub_of_le start, covered,
      if_true]
  -- and what the receiver makes of it
  have passed : checkChunk blake3 r.manifest (.new blake3 m.fileId s.currentChunk
      (UInt64.ofNat (i * chunkSize))
      (slice data (i * chunkSize) (boundary m (i + 1) - i * chunkSize))) = .ok () := by
    rw [checkChunk_eq_ok, state.opened]
    simp only [FileChunk.new, FileChunk.verifyHash, sized, held, offset, state.index, beq_self_eq_true,
      and_self]
  refine ⟨_, _, _, _, sent, receiveChunk_file blake3 (by rw [state.opened]) disk passed, rfl, ?_⟩
  have counted : (s.currentChunk + 1).toNat = i + 1 := by
    rw [UInt32.toNat_add, state.index, UInt32.toNat_one, Nat.mod_eq_of_lt (by omega)]
  refine ⟨state.offered, counted, ?_, ?_, ?_, ?_, more⟩
  · intro further
    simp only [boundary_of_lt further, Nat.succ_mul, Nat.add_sub_cancel_left]
  · simp only [state.opened, FileChunk.new, state.index, Finset.range_add_one]
  · simp only [Disk.write_content, state.content, FileChunk.new, offset]
    rw [← state.reached more]
    exact writeAt_length 0 c _
  · intro further
    rw [List.length_append, held, state.reached more, Nat.add_sub_of_le start, boundary_of_lt further]

theorem add_nothing :
    InTransit data m finalPath partPath handle
      (c ++ slice data (i * chunkSize) (boundary m i - i * chunkSize)) i s r disk := by
  rw [Nat.sub_eq_zero_of_le (boundary_le_mul m i), slice_zero_length, List.append_nil]
  exact state

/-- Any number of further chunks, by induction on that number. -/
theorem run (covered : ∀ j, j < m.totalChunks.toNat → boundary m (j + 1) ≤ data.length) (n : Nat) :
    ∃ s' r' disk', deliver blake3 n s r disk = (.ok (), s', r', disk') ∧ disk'.file = disk.file ∧
      InTransit data m finalPath partPath handle
        (c ++ slice data (i * chunkSize)
          (boundary m (min (i + n) m.totalChunks.toNat) - i * chunkSize))
        (min (i + n) m.totalChunks.toNat) s' r' disk' := by
  induction n generalizing c i s r disk with
  | zero =>
      rw [Nat.add_zero, Nat.min_eq_left state.inside]
      exact ⟨s, r, disk, rfl, rfl, state.add_nothing⟩
  | succ n ih =>
      rcases Nat.eq_or_lt_of_le state.inside with all | more
      · rw [Nat.min_eq_right (by omega), ← all]
        refine ⟨s, r, disk, ?_, rfl, state.add_nothing⟩
        simp only [deliver, state.exhausted blake3 all]
      · obtain ⟨chunk, s₁, r₁, disk₁, sent, received, named, next⟩ :=
          state.step blake3 more (covered i more)
        obtain ⟨s₂, r₂, disk₂, rest, kept, final⟩ := ih next
        refine ⟨s₂, r₂, disk₂, ?_, kept.trans named, ?_⟩
        · simpa only [deliver, sent, received] using rest
        · rw [Nat.add_right_comm i 1 n, List.append_assoc,
            slice_boundary_append data (by omega) (Nat.min_le_right _ _)] at final
          exact final

end Steps

/-- With every chunk over, the file is renamed if it has the announced hash. -/
theorem finish (state : InTransit data m (finalPathOf destDir m) (partPathOf destDir m) handle c i s
      r disk) (all : i = m.totalChunks.toNat)
    (named : disk.file (partPathOf destDir m).location = some handle)
    (hash : blake3 c = m.blake3RootHash) :
    ∃ disk', r.finalizeFile blake3 disk = .ok (finalPathOf destDir m, disk') ∧
      disk'.read (finalPathOf destDir m).location = some c ∧
      disk'.read (partPathOf destDir m).location = none := by
  obtain ⟨moved, renamed, stored, gone⟩ :=
    Disk.rename_spec (partPathOf_location_ne destDir m) named
  rw [state.content] at stored
  refine ⟨moved, ?_, stored, gone⟩
  rw [finalizeFile_eq_ok blake3 (by rw [state.opened]), state.content]
  refine ⟨state.complete all, ?_, rfl, renamed⟩
  rw [state.opened]
  exact hash

end InTransit

/-- What the file holds once every missing chunk has been delivered on top of what
    opening kept. -/
def assembled (m : FileManifest) (data found : Bytes) : Bytes :=
  keptBytes m found ++ slice data (validChunks m found.length * chunkSize)
    (boundary m m.totalChunks.toNat - validChunks m found.length * chunkSize)

section Attempts

variable (blake3 : Bytes → FixedBytes 32) {data : Bytes} {m : FileManifest}
  (destDir : PathBuf) (disk : Disk Location)

/-- The parts of a session that comes to its end. -/
theorem exists_of_attempt {path : PathBuf} {disk' : Disk Location}
    (done : attempt blake3 destDir data m disk = (.ok path, disk')) :
    ∃ s s' r' delivered,
      FileSender.fromFile data m (toDir disk destDir m).1.nextExpectedChunk = .ok s ∧
      deliver blake3 m.totalChunks.toNat s (toDir disk destDir m).1 (toDir disk destDir m).2 =
        (.ok (), s', r', delivered) ∧
      r'.finalizeFile blake3 delivered = .ok (path, disk') := by
  unfold attempt at done
  dsimp only at done
  split at done
  · cases done
  · rename_i s started
    split at done
    · cases done
    · rename_i s' r' delivered finished
      split at done
      · cases done
      · rename_i finalized
        cases done
        exact ⟨s, s', r', delivered, started, finished, finalized⟩

variable (covered : ∀ j, j < m.totalChunks.toNat → boundary m (j + 1) ≤ data.length)

include covered

/-- A whole session delivers everything, so its outcome is decided by the root hash. -/
theorem attempt_delivered :
    ∃ handle s r disk', disk'.file (partPathOf destDir m).location = some handle ∧
      InTransit data m (finalPathOf destDir m) (partPathOf destDir m) handle
        (assembled m data (partBytes disk destDir m)) m.totalChunks.toNat s r disk' ∧
      attempt blake3 destDir data m disk = match r.finalizeFile blake3 disk' with
        | .error e => (.error (.error e), disk')
        | .ok (path, disk'') => (.ok path, disk'') := by
  obtain ⟨handle, s, started, named, state⟩ := InTransit.opening disk destDir data m
  obtain ⟨s', r', disk', delivered, kept, final⟩ :=
    state.run blake3 covered m.totalChunks.toNat
  rw [Nat.min_eq_right (Nat.le_add_left _ _)] at final
  refine ⟨handle, s', r', disk', ?_, final, ?_⟩
  · rw [kept]
    exact named
  · unfold attempt
    dsimp only
    rw [started]
    dsimp only
    rw [delivered]

theorem attempt_matching (hash : blake3 (assembled m data (partBytes disk destDir m)) = m.blake3RootHash) :
    ∃ disk', attempt blake3 destDir data m disk = (.ok (finalPathOf destDir m), disk') ∧
      disk'.read (finalPathOf destDir m).location =
        some (assembled m data (partBytes disk destDir m)) := by
  obtain ⟨handle, s, r, disk', named, state, outcome⟩ :=
    attempt_delivered blake3 destDir disk covered
  obtain ⟨moved, finished, stored, -⟩ := state.finish blake3 rfl named hash
  rw [finished] at outcome
  exact ⟨moved, outcome, stored⟩

theorem attempt_mismatching (hash : blake3 (assembled m data (partBytes disk destDir m)) ≠ m.blake3RootHash) :
    ∃ disk', attempt blake3 destDir data m disk = (.error (.error (.rootHashMismatch
        (Hex.encode m.blake3RootHash.bytes)
        (Hex.encode (blake3 (assembled m data (partBytes disk destDir m))).bytes))), disk') ∧
      partBytes disk' destDir m = assembled m data (partBytes disk destDir m) := by
  obtain ⟨handle, s, r, disk', named, state, outcome⟩ :=
    attempt_delivered blake3 destDir disk covered
  refine ⟨disk', ?_, ?_⟩
  · have complete := state.complete rfl
    simp only [finalizeFile, complete, Bool.not_true, Bool.false_eq_true, if_false] at outcome
    simpa [state.opened, state.content, hash] using outcome
  · simp [partBytes, Disk.read, named, state.content]

end Attempts

section Honest

variable (blake3 : Bytes → FixedBytes 32) (fileId filename : String) {data : Bytes}

/-- How many chunks a file has, before the count is cut to thirty-two bits. -/
def chunkCount (data : Bytes) : Nat := (data.length + (chunkSize - 1)) / chunkSize

theorem honest_totalSize (fits : data.length < 2 ^ 64) :
    (createManifestFromBytes blake3 fileId filename data).totalSize.toNat = data.length := by
  rw [createManifestFromBytes, FileManifest.new, UInt64.toNat_ofNat', Nat.mod_eq_of_lt fits]

theorem honest_totalChunks (fits : data.length < 2 ^ 64) :
    (createManifestFromBytes blake3 fileId filename data).totalChunks.toNat =
      chunkCount data % 2 ^ 32 := by
  rw [chunkCount, ← honest_totalSize blake3 fileId filename fits]
  exact FileManifest.calculateTotalChunks_toNat _

theorem honest_neededChunks (fits : data.length < 2 ^ 64) :
    (createManifestFromBytes blake3 fileId filename data).neededChunks = chunkCount data := by
  rw [FileManifest.neededChunks, honest_totalSize blake3 fileId filename fits, chunkCount]

theorem honest_covered (fits : data.length < 2 ^ 64) (j : Nat)
    (inside : j < (createManifestFromBytes blake3 fileId filename data).totalChunks.toNat) :
    boundary (createManifestFromBytes blake3 fileId filename data) (j + 1) ≤ data.length := by
  have counted : (createManifestFromBytes blake3 fileId filename data).totalChunks.toNat ≤
      chunkCount data := honest_totalChunks blake3 fileId filename fits ▸ Nat.mod_le _ _
  rw [← honest_totalSize blake3 fileId filename fits]
  refine boundary_le_totalSize ?_ inside
  rw [honest_neededChunks blake3 fileId filename fits]
  omega

theorem fits_of_few (few : chunkCount data < 2 ^ 32) : data.length < 2 ^ 64 := by
  unfold chunkCount chunkSize at few
  omega

theorem honest_boundary (few : chunkCount data < 2 ^ 32) :
    boundary (createManifestFromBytes blake3 fileId filename data)
      (createManifestFromBytes blake3 fileId filename data).totalChunks.toNat = data.length := by
  have fits := fits_of_few few
  rw [← honest_totalSize blake3 fileId filename fits]
  apply boundary_totalChunks
  rw [honest_neededChunks blake3 fileId filename fits, honest_totalChunks blake3 fileId filename fits,
    Nat.mod_eq_of_lt few]

/-- Bytes that agree with the source are completed to the source. -/
theorem assembled_of_initial {found : Bytes} (few : chunkCount data < 2 ^ 32)
    (agrees : keptBytes (createManifestFromBytes blake3 fileId filename data) found <+: data) :
    assembled (createManifestFromBytes blake3 fileId filename data) data found = data := by
  have total := honest_boundary blake3 fileId filename few
  rw [assembled, total]
  generalize createManifestFromBytes blake3 fileId filename data = m at *
  have length : (keptBytes m found).length = validChunks m found.length * chunkSize := by
    by_cases zero : m.totalChunks = 0
    · have empty : data.length = 0 := by
        rw [zero] at total
        exact total.symm
      have nothing : (keptBytes m found).length = 0 := by
        have shorter := agrees.length_le
        omega
      rw [nothing, validChunks, zero, UInt32.toNat_zero, Nat.min_zero, Nat.zero_mul]
    · exact length_keptBytes found zero
  rw [← length]
  obtain ⟨rest, rfl⟩ := agrees
  simp [slice]

end Honest

end BridgeOS.Transfer
