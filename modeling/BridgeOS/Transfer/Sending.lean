import BridgeOS.Transfer.Reassembly

/-! # What a sender hands out

A sender is called again and again, to move to a chunk or for the next one. Where
its cursor stands is not checked by anything; it follows the counter, so that a
sender answers as the file itself would, cut into chunks, whatever its source.
-/

namespace BridgeOS.Transfer

inductive SenderCall where
  | seekToChunk (chunkIndex : UInt32)
  | nextChunk

inductive SenderAnswer where
  | moved (result : Except TransferError Unit)
  | handed (result : Except TransferError (Option FileChunk))

section Calls

variable (blake3 : Bytes → FixedBytes 32)

namespace FileSender

/-- A rejected seek leaves the sender as it was. -/
def call (s : FileSender) : SenderCall → SenderAnswer × FileSender
  | .seekToChunk chunkIndex =>
      match s.seekToChunk chunkIndex with
      | .ok there => (.moved (.ok ()), there)
      | .error e => (.moved (.error e), s)
  | .nextChunk => (.handed (s.nextChunk blake3).1, (s.nextChunk blake3).2)

def callAll (s : FileSender) : List SenderCall → List SenderAnswer × FileSender
  | [] => ([], s)
  | call :: rest =>
      let answered := s.call blake3 call
      let others := answered.2.callAll rest
      (answered.1 :: others.1, others.2)

end FileSender

/-- A file that is cut into chunks, with a counter and nothing else. -/
def answerAt (data : Bytes) (m : FileManifest) (current : UInt32) : SenderCall → SenderAnswer × UInt32
  | .seekToChunk chunkIndex =>
      if chunkIndex > m.totalChunks then
        (.moved (.error (.invalidResumeOffset chunkIndex m.totalChunks)), current)
      else (.moved (.ok ()), chunkIndex)
  | .nextChunk =>
      if current = m.totalChunks then (.handed (.ok none), current)
      else (.handed (.ok (some (chunkAt blake3 data m current))), current + 1)

def answersFrom (data : Bytes) (m : FileManifest) (current : UInt32) :
    List SenderCall → List SenderAnswer × UInt32
  | [] => ([], current)
  | call :: rest =>
      let answered := answerAt blake3 data m current call
      let others := answersFrom data m answered.2 rest
      (answered.1 :: others.1, others.2)

end Calls

variable {blake3 : Bytes → FixedBytes 32} {data : Bytes} {m : FileManifest} {s : FileSender}
  {current : UInt32}

/-- The sender is at this chunk, or at the end. -/
structure At (data : Bytes) (m : FileManifest) (s : FileSender) (current : UInt32) : Prop where
  placed : Placed data m s
  counter : s.currentChunk = current
  inside : current.toNat ≤ m.totalChunks.toNat

namespace At

theorem fromFile (data : Bytes) {startChunk : UInt32} (valid : startChunk ≤ m.totalChunks) :
    ∃ s, FileSender.fromFile data m startChunk = .ok s ∧ At data m s startChunk := by
  have passed : FileSender.validateStart m startChunk = .ok () :=
    Checks.reject_eq_ok.mpr (UInt32.not_lt.mpr valid)
  refine ⟨⟨m, .file ⟨data, startChunk.toNat * chunkSize⟩, startChunk⟩, ?_, ⟨rfl, rfl, fun _ => rfl⟩, rfl,
    UInt32.le_iff_toNat_le.mp valid⟩
  rw [FileSender.fromFile, passed]
  rfl

theorem fromBytes (data : Bytes) {startChunk : UInt32} (valid : startChunk ≤ m.totalChunks) :
    ∃ s, FileSender.fromBytes data m startChunk = .ok s ∧ At data m s startChunk := by
  have passed : FileSender.validateStart m startChunk = .ok () :=
    Checks.reject_eq_ok.mpr (UInt32.not_lt.mpr valid)
  refine ⟨⟨m, .memory ⟨data, startChunk.toNat * chunkSize⟩, startChunk⟩, ?_, ⟨rfl, rfl, fun _ => rfl⟩, rfl,
    UInt32.le_iff_toNat_le.mp valid⟩
  rw [FileSender.fromBytes, passed]
  rfl

/-- Seeking moves cursor and counter together, or neither. -/
theorem seek (there : At data m s current) (chunkIndex : UInt32) :
    (s.call blake3 (.seekToChunk chunkIndex)).1 =
        (answerAt blake3 data m current (.seekToChunk chunkIndex)).1 ∧
      At data m (s.call blake3 (.seekToChunk chunkIndex)).2
        (answerAt blake3 data m current (.seekToChunk chunkIndex)).2 := by
  rw [FileSender.call, FileSender.seekToChunk, there.placed.offered, answerAt]
  by_cases outside : chunkIndex > m.totalChunks
  · have refused : FileSender.validateStart m chunkIndex =
        .error (.invalidResumeOffset chunkIndex m.totalChunks) := if_pos outside
    rw [refused, if_pos outside]
    exact ⟨rfl, there⟩
  · have passed : FileSender.validateStart m chunkIndex = .ok () := if_neg outside
    rw [passed, if_neg outside]
    refine ⟨rfl, ⟨rfl, ?_, fun _ => ?_⟩, rfl,
      UInt32.le_iff_toNat_le.mp (UInt32.not_lt.mp outside)⟩
    · rw [← there.placed.content]
      cases s.source <;> rfl
    · cases s.source <;> rfl

theorem next (there : At data m s current)
    (covered : ∀ j, j < m.totalChunks.toNat → boundary m (j + 1) ≤ data.length) :
    (s.call blake3 .nextChunk).1 = (answerAt blake3 data m current .nextChunk).1 ∧
      At data m (s.call blake3 .nextChunk).2 (answerAt blake3 data m current .nextChunk).2 := by
  obtain ⟨placed, handed, counted⟩ := @Placed.nextChunk blake3 data m s there.placed covered
  rw [there.counter] at handed counted
  have bound := m.totalChunks.toNat_lt
  rw [FileSender.call, handed, answerAt]
  by_cases done : current = m.totalChunks
  · have nothing : ¬ current.toNat < m.totalChunks.toNat := by rw [done]; omega
    rw [if_neg nothing] at counted ⊢
    rw [if_pos done]
    exact ⟨rfl, placed, counted, there.inside⟩
  · have more : current.toNat < m.totalChunks.toNat :=
      Nat.lt_of_le_of_ne there.inside fun same => done (UInt32.toNat_inj.mp same)
    rw [if_pos more] at counted ⊢
    rw [if_neg done]
    refine ⟨rfl, placed, counted, ?_⟩
    rw [UInt32.toNat_add, UInt32.toNat_one, Nat.mod_eq_of_lt (by omega)]
    exact more

theorem call (there : At data m s current)
    (covered : ∀ j, j < m.totalChunks.toNat → boundary m (j + 1) ≤ data.length) (call : SenderCall) :
    (s.call blake3 call).1 = (answerAt blake3 data m current call).1 ∧
      At data m (s.call blake3 call).2 (answerAt blake3 data m current call).2 := by
  cases call with
  | seekToChunk chunkIndex => exact there.seek chunkIndex
  | nextChunk => exact there.next covered

variable (blake3) in
/-- By induction on the calls: the counter is all that is needed to tell the answers. -/
theorem callAll (there : At data m s current)
    (covered : ∀ j, j < m.totalChunks.toNat → boundary m (j + 1) ≤ data.length)
    (calls : List SenderCall) :
    (s.callAll blake3 calls).1 = (answersFrom blake3 data m current calls).1 ∧
      At data m (s.callAll blake3 calls).2 (answersFrom blake3 data m current calls).2 := by
  induction calls generalizing s current with
  | nil => exact ⟨rfl, there⟩
  | cons call rest ih =>
      obtain ⟨answer, moved⟩ := there.call covered call
      obtain ⟨answers, final⟩ := ih moved
      exact ⟨congrArg₂ List.cons answer answers, final⟩

end At

/-- Of a manifest that belongs to the file, every chunk is 64 KB of it or all that is left. -/
theorem chunkAt_data {fileId filename : String} (few : chunkCount data < 2 ^ 32) {i : UInt32}
    (inside : i.toNat < (createManifestFromBytes blake3 fileId filename data).totalChunks.toNat) :
    (chunkAt blake3 data (createManifestFromBytes blake3 fileId filename data) i).data =
      slice data (i.toNat * chunkSize) chunkSize := by
  show slice data _ _ = _
  have whole := honest_boundary blake3 fileId filename few
  by_cases last : i.toNat + 1 = (createManifestFromBytes blake3 fileId filename data).totalChunks.toNat
  · have short := boundary_le_mul (createManifestFromBytes blake3 fileId filename data) (i.toNat + 1)
    rw [last, whole, ← last, Nat.succ_mul] at short
    rw [last, whole, slice, slice, List.take_of_length_le, List.take_of_length_le]
    · rw [List.length_drop]
      omega
    · rw [List.length_drop]
  · rw [boundary_of_lt (by omega), Nat.succ_mul, Nat.add_sub_cancel_left]

/-- A manifest of the file: of its bytes, or of the file itself. -/
inductive ManifestOf (blake3 : Bytes → FixedBytes 32) (data : Bytes) : FileManifest → Prop where
  | ofBytes (fileId filename : String) :
      ManifestOf blake3 data (createManifestFromBytes blake3 fileId filename data)
  | ofFile (fileName : Option String) : ManifestOf blake3 data (createManifestFromFile blake3 fileName data)

theorem ManifestOf.eq_createManifestFromBytes (manifest : ManifestOf blake3 data m) :
    ∃ fileId filename, m = createManifestFromBytes blake3 fileId filename data := by
  cases manifest with
  | ofBytes fileId filename => exact ⟨fileId, filename, rfl⟩
  | ofFile fileName => exact ⟨_, _, rfl⟩

/-- The next call does not fail; it hands out the bytes of the file that the counter
    stands for, and nothing exactly at the end. -/
structure HandsOut (blake3 : Bytes → FixedBytes 32) (data : Bytes) (m : FileManifest) (s : FileSender) :
    Prop where
  answers : ∃ handed, (s.nextChunk blake3).1 = .ok handed
  ended : (s.nextChunk blake3).1 = .ok none ↔ s.currentChunk = m.totalChunks
  index : ∀ chunk, (s.nextChunk blake3).1 = .ok (some chunk) → chunk.chunkIndex = s.currentChunk
  offset : ∀ chunk, (s.nextChunk blake3).1 = .ok (some chunk) →
    chunk.offset.toNat = s.currentChunk.toNat * chunkSize
  data : ∀ chunk, (s.nextChunk blake3).1 = .ok (some chunk) →
    chunk.data = slice data (s.currentChunk.toNat * chunkSize) chunkSize
  hash : ∀ chunk, (s.nextChunk blake3).1 = .ok (some chunk) → chunk.verifyHash blake3 = true

theorem At.handsOut (few : chunkCount data < 2 ^ 32) (manifest : ManifestOf blake3 data m)
    (there : At data m s current) : HandsOut blake3 data m s := by
  obtain ⟨fileId, filename, rfl⟩ := manifest.eq_createManifestFromBytes
  obtain ⟨-, handed, -⟩ := @Placed.nextChunk blake3 data _ s there.placed
    (honest_covered blake3 fileId filename (fits_of_few few))
  obtain ⟨placed, rfl, inside⟩ := there
  by_cases more : s.currentChunk.toNat <
      (createManifestFromBytes blake3 fileId filename data).totalChunks.toNat
  · rw [if_pos more] at handed
    have only : ∀ chunk, (s.nextChunk blake3).1 = .ok (some chunk) → chunk =
        chunkAt blake3 data (createManifestFromBytes blake3 fileId filename data) s.currentChunk := by
      intro chunk returned
      cases handed.symm.trans returned
      rfl
    refine ⟨⟨_, handed⟩, ?_, ?_, ?_, ?_, ?_⟩
    · refine iff_of_false (by simp [handed]) ?_
      intro done
      rw [done] at more
      exact Nat.lt_irrefl _ more
    · intro chunk returned
      rw [only chunk returned]
      rfl
    · intro chunk returned
      have bound := s.currentChunk.toNat_lt
      rw [only chunk returned]
      show (UInt64.ofNat (s.currentChunk.toNat * chunkSize)).toNat = _
      rw [UInt64.toNat_ofNat', Nat.mod_eq_of_lt]
      simp only [chunkSize]
      omega
    · intro chunk returned
      rw [only chunk returned]
      exact chunkAt_data few more
    · intro chunk returned
      rw [only chunk returned]
      exact beq_self_eq_true _
  · rw [if_neg more] at handed
    have none : ∀ chunk, (s.nextChunk blake3).1 ≠ .ok (some chunk) := by simp [handed]
    refine ⟨⟨_, handed⟩, iff_of_true handed ?_, ?_, ?_, ?_, ?_⟩
    · exact UInt32.toNat_inj.mp (Nat.le_antisymm inside (Nat.le_of_not_lt more))
    · exact fun chunk returned => absurd returned (none chunk)
    · exact fun chunk returned => absurd returned (none chunk)
    · exact fun chunk returned => absurd returned (none chunk)
    · exact fun chunk returned => absurd returned (none chunk)

/-- From any valid start and after any calls, a sender over the file and one over its
    bytes have given the same answers, and each goes on with the right slice. -/
theorem senders_hand_out_slices (blake3 : Bytes → FixedBytes 32) {data : Bytes}
    (few : chunkCount data < 2 ^ 32) {m : FileManifest} (manifest : ManifestOf blake3 data m)
    {startChunk : UInt32} (valid : startChunk ≤ m.totalChunks) (calls : List SenderCall) :
    ∃ file memory, FileSender.fromFile data m startChunk = .ok file ∧
      FileSender.fromBytes data m startChunk = .ok memory ∧
      (file.callAll blake3 calls).1 = (memory.callAll blake3 calls).1 ∧
      HandsOut blake3 data m (file.callAll blake3 calls).2 ∧
      HandsOut blake3 data m (memory.callAll blake3 calls).2 := by
  have covered : ∀ j, j < m.totalChunks.toNat → boundary m (j + 1) ≤ data.length := by
    obtain ⟨fileId, filename, rfl⟩ := manifest.eq_createManifestFromBytes
    exact honest_covered blake3 fileId filename (fits_of_few few)
  obtain ⟨file, openedFile, atFile⟩ := At.fromFile data valid
  obtain ⟨memory, openedBytes, atBytes⟩ := At.fromBytes data valid
  obtain ⟨fileAnswers, fileEnd⟩ := atFile.callAll blake3 covered calls
  obtain ⟨memoryAnswers, memoryEnd⟩ := atBytes.callAll blake3 covered calls
  exact ⟨file, memory, openedFile, openedBytes, fileAnswers.trans memoryAnswers.symm,
    fileEnd.handsOut few manifest, memoryEnd.handsOut few manifest⟩

/-- A short file, its only chunk twice, with a seek back and one that is rejected. -/
theorem short_file_handed_out :
    ∃ file memory, FileSender.fromFile [7, 8] (createManifestFromFile (fun _ => .fill 32 0) none [7, 8]) 0 =
        .ok file ∧
      FileSender.fromBytes [7, 8] (createManifestFromFile (fun _ => .fill 32 0) none [7, 8]) 0 = .ok memory ∧
      (file.callAll (fun _ => .fill 32 0) [.nextChunk, .seekToChunk 2, .seekToChunk 0]).1 =
        (memory.callAll (fun _ => .fill 32 0) [.nextChunk, .seekToChunk 2, .seekToChunk 0]).1 ∧
      HandsOut (fun _ => .fill 32 0) [7, 8] (createManifestFromFile (fun _ => .fill 32 0) none [7, 8])
        (file.callAll (fun _ => .fill 32 0) [.nextChunk, .seekToChunk 2, .seekToChunk 0]).2 ∧
      HandsOut (fun _ => .fill 32 0) [7, 8] (createManifestFromFile (fun _ => .fill 32 0) none [7, 8])
        (memory.callAll (fun _ => .fill 32 0) [.nextChunk, .seekToChunk 2, .seekToChunk 0]).2 :=
  senders_hand_out_slices (fun _ => .fill 32 0) (by decide) (.ofFile none) (by decide) _

end BridgeOS.Transfer
