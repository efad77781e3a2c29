import BridgeOS.Transfer.Delivery

/-! # Interrupted transfers

Sessions that die leave a `.part` file behind, possibly with a torn tail. As
long as every session had the same honest sender, what is left is a prefix of
the source, so the length alone says which chunks are there.
-/

namespace BridgeOS.Transfer

open PathBuf (Location)
open FileReceiver

section Interruptions

variable (blake3 : Bytes → FixedBytes 32) (destDir : PathBuf) (data : Bytes) (m : FileManifest)

/-- The disks between sessions. A session delivers some chunks and dies while any
    part of what comes next is being written. -/
inductive Interrupted : Disk Location → Prop where
  | fresh {disk} (absent : disk.read (partPathOf destDir m).location = none) : Interrupted disk
  | died {disk s s' r disk' handle torn} (n : Nat) (before : Interrupted disk)
      (started : FileSender.fromFile data m (toDir disk destDir m).1.nextExpectedChunk = .ok s)
      (delivered : deliver blake3 n s (toDir disk destDir m).1 (toDir disk destDir m).2 =
        (.ok (), s', r, disk'))
      (opened : disk'.file (partPathOf destDir m).location = some handle)
      (cut : torn <+: data.drop (disk'.content handle).length) :
      Interrupted (disk'.store handle (disk'.content handle ++ torn))

/-- Opening cuts at a chunk boundary, counts exactly the whole chunks, counts none
    whose bytes are not the source's, and whoever delivers the rest can finish. -/
structure Resumes (disk : Disk Location) : Prop where
  truncated : partBytes (toDir disk destDir m).2 destDir m = (partBytes disk destDir m).take
    ((partBytes disk destDir m).length / chunkSize * chunkSize)
  marked : ∀ i, i ∈ (toDir disk destDir m).1.receivedChunks ↔
    (i + 1) * chunkSize ≤ (partBytes disk destDir m).length
  agrees : ∀ i, i ∈ (toDir disk destDir m).1.receivedChunks →
    slice (partBytes (toDir disk destDir m).2 destDir m) (i * chunkSize) chunkSize =
      slice data (i * chunkSize) chunkSize
  finishes : ∃ s, FileSender.fromFile data m (toDir disk destDir m).1.nextExpectedChunk = .ok s ∧
    ∀ n, ∃ s' r disk', deliver blake3 n s (toDir disk destDir m).1 (toDir disk destDir m).2 =
        (.ok (), s', r, disk') ∧
      (m.totalChunks.toNat ≤ (toDir disk destDir m).1.nextExpectedChunk.toNat + n →
        ∃ disk'', r.finalizeFile blake3 disk' = .ok (finalPathOf destDir m, disk'') ∧
          disk''.read (finalPathOf destDir m).location = some data ∧
          disk''.read (partPathOf destDir m).location = none)

end Interruptions

section Honest

variable {blake3 : Bytes → FixedBytes 32} {fileId filename : String} {destDir : PathBuf}
  {data : Bytes} {disk : Disk Location}

section Few

variable (few : chunkCount data < 2 ^ 32)

include few

/-- A prefix of the source has no more whole chunks than the manifest. -/
theorem validChunks_of_initial {found : Bytes} (agrees : found <+: data) :
    validChunks (createManifestFromBytes blake3 fileId filename data) found.length =
      found.length / chunkSize := by
  have shorter := agrees.length_le
  rw [validChunks, honest_totalChunks blake3 fileId filename (fits_of_few few),
    Nat.mod_eq_of_lt few]
  unfold chunkCount chunkSize at *
  omega

theorem keptBytes_of_initial {found : Bytes} (agrees : found <+: data) :
    keptBytes (createManifestFromBytes blake3 fileId filename data) found =
      found.take (found.length / chunkSize * chunkSize) := by
  have total := honest_totalChunks blake3 fileId filename (fits_of_few few)
  rw [keptBytes, validChunks_of_initial few agrees]
  split
  · -- no chunks: the source is empty and so is what was found
    rename_i zero
    rw [zero, Nat.mod_eq_of_lt few] at total
    have shorter := agrees.length_le
    have empty : found.length = 0 := by
      unfold chunkCount chunkSize at total
      rw [UInt32.toNat_zero] at total
      omega
    rw [List.length_eq_zero_iff.mp empty]
    rfl
  · rfl

theorem length_keptBytes_of_initial {found : Bytes} (agrees : found <+: data) :
    (keptBytes (createManifestFromBytes blake3 fileId filename data) found).length =
      validChunks (createManifestFromBytes blake3 fileId filename data) found.length * chunkSize := by
  rw [keptBytes_of_initial few agrees, validChunks_of_initial few agrees, List.length_take]
  exact Nat.min_eq_left (Nat.div_mul_le_self _ _)

theorem keptBytes_initial {found : Bytes} (agrees : found <+: data) :
    keptBytes (createManifestFromBytes blake3 fileId filename data) found <+: data := by
  rw [keptBytes_of_initial few agrees]
  exact (List.take_prefix _ _).trans agrees

/-- Each session keeps the leftover a prefix of the source. -/
theorem Interrupted.part_initial
    (history : Interrupted blake3 destDir data (createManifestFromBytes blake3 fileId filename data)
      disk) :
    partBytes disk destDir (createManifestFromBytes blake3 fileId filename data) <+: data := by
  induction history with
  | fresh absent =>
      rw [partBytes, absent]
      exact List.nil_prefix
  | @died disk s s' r disk' handle torn n before started delivered opened cut ih =>
      obtain ⟨handle', s₀, same, named, state⟩ := InTransit.opening disk destDir data
        (createManifestFromBytes blake3 fileId filename data)
      cases same.symm.trans started
      obtain ⟨s₁, r₁, disk₁, run, kept, final⟩ :=
        state.run blake3 (honest_covered blake3 fileId filename (fits_of_few few)) n
      cases run.symm.trans delivered
      rw [kept] at opened
      cases named.symm.trans opened
      have flushed : disk'.content handle <+: data := by
        rw [final.content, ← length_keptBytes_of_initial few ih]
        exact append_initial (keptBytes_initial few ih) (List.take_prefix _ _)
      rw [partBytes, Disk.read, Disk.store_file, kept, named, Option.map_some, Option.getD_some,
        Disk.store_content_self]
      exact append_initial flushed cut

end Few

/-- However often and wherever the sessions before died. -/
theorem interrupted_resumes (few : chunkCount data < 2 ^ 32)
    (history : Interrupted blake3 destDir data (createManifestFromBytes blake3 fileId filename data)
      disk) :
    Resumes blake3 destDir data (createManifestFromBytes blake3 fileId filename data) disk := by
  have leftover := history.part_initial few
  obtain ⟨handle, s, started, named, state⟩ := InTransit.opening disk destDir data
    (createManifestFromBytes blake3 fileId filename data)
  have covered := honest_covered blake3 fileId filename (fits_of_few few)
  have whole := assembled_of_initial blake3 fileId filename few (keptBytes_initial few leftover)
  have shown : partBytes (toDir disk destDir (createManifestFromBytes blake3 fileId filename data)).2
      destDir (createManifestFromBytes blake3 fileId filename data) =
        keptBytes (createManifestFromBytes blake3 fileId filename data)
          (partBytes disk destDir (createManifestFromBytes blake3 fileId filename data)) := by
    simp [partBytes, Disk.read, named, state.content]
  have received : (toDir disk destDir
      (createManifestFromBytes blake3 fileId filename data)).1.receivedChunks = Finset.range
        ((partBytes disk destDir (createManifestFromBytes blake3 fileId filename data)).length /
          chunkSize) := by
    rw [state.opened, validChunks_of_initial few leftover]
  refine ⟨?_, ?_, ?_, ?_⟩
  · rw [shown, keptBytes_of_initial few leftover]
  · intro i
    rw [received, Finset.mem_range, Nat.lt_iff_add_one_le, Nat.le_div_iff_mul_le (by decide)]
  · intro i member
    rw [state.opened, Finset.mem_range] at member
    rw [shown]
    apply slice_of_initial (keptBytes_initial few leftover)
    rw [length_keptBytes_of_initial few leftover, ← Nat.succ_mul]
    exact Nat.mul_le_mul_right _ member
  · refine ⟨s, started, ?_⟩
    intro n
    obtain ⟨s', r, disk', delivered, kept, final⟩ := state.run blake3 covered n
    refine ⟨s', r, disk', delivered, ?_⟩
    intro enough
    rw [nextExpectedChunk_range (by rw [state.opened]) (by rw [state.opened]; exact state.inside)]
      at enough
    rw [Nat.min_eq_right enough, ← assembled, whole] at final
    exact final.finish blake3 rfl (by rw [kept]; exact named) rfl

end Honest

/-- A first session that died with two of three bytes written. -/
theorem torn_session_resumes :
    Resumes (fun _ => .fill 32 0) ⟨"/srv".toList⟩ [1, 2, 3]
      (createManifestFromBytes (fun _ => .fill 32 0) "id" "notes.txt" [1, 2, 3])
      ((toDir Disk.empty ⟨"/srv".toList⟩
        (createManifestFromBytes (fun _ => .fill 32 0) "id" "notes.txt" [1, 2, 3])).2.store 0 [1, 2]) :=
  interrupted_resumes (by decide)
    (.died 0 (.fresh rfl) rfl rfl (by decide) (by decide : [1, 2] <+: ([1, 2, 3] : Bytes)))

end BridgeOS.Transfer
