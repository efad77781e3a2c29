import BridgeOS.Transfer.Delivery

/-! # Leftovers of another file

Opening trusts the length of a `.part` file and nothing else, and a failed
finalization leaves the file where it is. So a leftover is either completed by
the next session or stands in the way of every later one: retrying never changes
the bytes that were wrong.
-/

namespace BridgeOS.Transfer

open PathBuf (Location)
open FileReceiver

section Retries

variable (blake3 : Bytes → FixedBytes 32) (destDir : PathBuf) (data : Bytes) (m : FileManifest)

/-- Some uninterrupted session puts the source under the final name; a session that
    fails is repeated on the disk it leaves. -/
inductive Delivers : Disk Location → Prop where
  | now {disk path} (done : (attempt blake3 destDir data m disk).1 = .ok path)
      (stored : (attempt blake3 destDir data m disk).2.read (finalPathOf destDir m).location =
        some data) : Delivers disk
  | retry {disk failure} (failed : (attempt blake3 destDir data m disk).1 = .error failure)
      (later : Delivers (attempt blake3 destDir data m disk).2) : Delivers disk

end Retries

/-- The whole chunks that are kept are the source's own; without chunks, where nothing
    is cut and nothing is sent, the leftover is the source already. -/
def Usable (m : FileManifest) (data found : Bytes) : Prop :=
  if m.totalChunks = 0 then found = data
  else chunkCount data < 2 ^ 32 ∧ found.take (validChunks m found.length * chunkSize) <+: data

section Assembly

variable {m : FileManifest} (data found : Bytes)

theorem assembled_no_chunks (zero : m.totalChunks = 0) : assembled m data found = found := by
  simp [assembled, keptBytes, validChunks, zero, boundary, slice]

theorem keptBytes_initial_assembled : keptBytes m found <+: assembled m data found :=
  List.prefix_append _ _

theorem length_assembled_le (some_chunks : m.totalChunks ≠ 0) :
    (assembled m data found).length ≤ m.totalChunks.toNat * chunkSize := by
  have kept := length_keptBytes found some_chunks
  have inside := Nat.mul_le_mul_right chunkSize (validChunks_le_total m found.length)
  have last := boundary_le_mul m m.totalChunks.toNat
  rw [assembled, List.length_append, kept, length_slice]
  omega

/-- What was kept once is kept again from the completed file. -/
theorem keptBytes_initial_again (some_chunks : m.totalChunks ≠ 0) :
    keptBytes m found <+: keptBytes m (assembled m data found) := by
  have long := (keptBytes_initial_assembled (m := m) data found).length_le
  have short := length_assembled_le data found some_chunks
  have kept := length_keptBytes found some_chunks
  have bound := m.totalChunks.toNat_lt
  have inside := validChunks_le_total m found.length
  have positive : 0 < chunkSize := by decide
  have more : validChunks m found.length ≤ validChunks m (assembled m data found).length := by
    have low : validChunks m found.length ≤ (assembled m data found).length / chunkSize := by
      rw [Nat.le_div_iff_mul_le positive, ← kept]
      exact long
    have high : (assembled m data found).length / chunkSize ≤ m.totalChunks.toNat :=
      Nat.div_le_of_le_mul (Nat.mul_comm _ _ ▸ short)
    rw [validChunks.eq_1 m (assembled m data found).length, Nat.mod_eq_of_lt (by omega)]
    exact Nat.le_min.mpr ⟨low, inside⟩
  rw [keptBytes.eq_1 m (assembled m data found), if_neg some_chunks, List.prefix_take_iff, kept]
  exact ⟨keptBytes_initial_assembled data found, Nat.mul_le_mul_right _ more⟩

end Assembly

section Honest

variable {blake3 : Bytes → FixedBytes 32} {fileId filename : String} {destDir : PathBuf}
  {data : Bytes} {disk : Disk Location}

theorem Usable.assembled {found : Bytes}
    (usable : Usable (createManifestFromBytes blake3 fileId filename data) data found) :
    assembled (createManifestFromBytes blake3 fileId filename data) data found = data := by
  unfold Usable at usable
  split at usable
  · rename_i zero
    rw [assembled_no_chunks data found zero]
    exact usable
  · rename_i some_chunks
    apply assembled_of_initial blake3 fileId filename usable.1
    rw [keptBytes, if_neg some_chunks]
    exact usable.2

/-- With more chunks than the manifest can count, the announced ones fall short. -/
theorem few_of_length_le (fits : data.length < 2 ^ 64)
    (short : data.length ≤
      (createManifestFromBytes blake3 fileId filename data).totalChunks.toNat * chunkSize) :
    chunkCount data < 2 ^ 32 := by
  rw [honest_totalChunks blake3 fileId filename fits] at short
  unfold chunkCount chunkSize at *
  omega

theorem usable_of_assembled {found : Bytes} (fits : data.length < 2 ^ 64)
    (same : assembled (createManifestFromBytes blake3 fileId filename data) data found = data) :
    Usable (createManifestFromBytes blake3 fileId filename data) data found := by
  unfold Usable
  split
  · rename_i zero
    rw [assembled_no_chunks data found zero] at same
    exact same
  · rename_i some_chunks
    have short := length_assembled_le data found some_chunks
    have kept := keptBytes_initial_assembled data found
      (m := createManifestFromBytes blake3 fileId filename data)
    rw [same] at short kept
    rw [keptBytes, if_neg some_chunks] at kept
    exact ⟨few_of_length_le fits short, kept⟩

theorem usable_of_usable_assembled {found : Bytes} {m : FileManifest}
    (usable : Usable m data (Transfer.assembled m data found)) : Usable m data found := by
  unfold Usable at usable ⊢
  split at usable
  · rename_i zero
    rw [if_pos zero]
    rw [assembled_no_chunks data found zero] at usable
    exact usable
  · rename_i some_chunks
    rw [if_neg some_chunks]
    have again := keptBytes_initial_again data found some_chunks
    rw [keptBytes, keptBytes, if_neg some_chunks, if_neg some_chunks] at again
    exact ⟨usable.1, again.trans usable.2⟩

/-- Whatever number of retries it takes, the leftover was usable from the start. -/
theorem Delivers.usable (fits : data.length < 2 ^ 64)
    (delivers : Delivers blake3 destDir data (createManifestFromBytes blake3 fileId filename data)
      disk) :
    Usable (createManifestFromBytes blake3 fileId filename data) data
      (partBytes disk destDir (createManifestFromBytes blake3 fileId filename data)) := by
  have covered := honest_covered blake3 fileId filename fits
  induction delivers with
  | @now disk path done stored =>
      apply usable_of_assembled fits
      by_cases hash : blake3 (Transfer.assembled
          (createManifestFromBytes blake3 fileId filename data) data (partBytes disk destDir
            (createManifestFromBytes blake3 fileId filename data))) = blake3 data
      · obtain ⟨disk', outcome, held⟩ := attempt_matching blake3 destDir disk covered hash
        rw [outcome] at stored
        exact Option.some.inj (held.symm.trans stored)
      · obtain ⟨disk', outcome, -⟩ := attempt_mismatching blake3 destDir disk covered hash
        rw [outcome] at done
        cases done
  | @retry disk failure failed later ih =>
      by_cases hash : blake3 (Transfer.assembled
          (createManifestFromBytes blake3 fileId filename data) data (partBytes disk destDir
            (createManifestFromBytes blake3 fileId filename data))) = blake3 data
      · obtain ⟨disk', outcome, -⟩ := attempt_matching blake3 destDir disk covered hash
        rw [outcome] at failed
        cases failed
      · obtain ⟨disk', outcome, left⟩ := attempt_mismatching blake3 destDir disk covered hash
        rw [outcome, left] at ih
        exact usable_of_usable_assembled ih

/-- A transfer gets through, on the first session or after retries, exactly when the
    chunks it found agree with the source. -/
theorem delivers_iff_usable (fits : data.length < 2 ^ 64) :
    Delivers blake3 destDir data (createManifestFromBytes blake3 fileId filename data) disk ↔
      Usable (createManifestFromBytes blake3 fileId filename data) data
        (partBytes disk destDir (createManifestFromBytes blake3 fileId filename data)) := by
  refine ⟨Delivers.usable fits, ?_⟩
  intro usable
  obtain ⟨disk', outcome, stored⟩ := attempt_matching blake3 destDir disk
    (honest_covered blake3 fileId filename fits) (congrArg blake3 usable.assembled)
  rw [usable.assembled] at stored
  exact .now (by rw [outcome]) (by rw [outcome]; exact stored)

end Honest

/-- Nothing left over: one session is enough. -/
theorem fresh_transfer_delivers :
    Usable (createManifestFromBytes (fun _ => .fill 32 0) "id" "notes.txt" [1, 2, 3]) [1, 2, 3] [] ∧
      Delivers (fun _ => .fill 32 0) ⟨"/srv".toList⟩ [1, 2, 3]
        (createManifestFromBytes (fun _ => .fill 32 0) "id" "notes.txt" [1, 2, 3]) Disk.empty := by
  have usable : Usable (createManifestFromBytes (fun _ => .fill 32 0) "id" "notes.txt" [1, 2, 3])
      [1, 2, 3] [] := by
    rw [Usable, if_neg (by decide)]
    exact ⟨by decide, List.nil_prefix⟩
  exact ⟨usable, (delivers_iff_usable (by decide)).mpr usable⟩

/-- A stand-in hash that sees the length and nothing else. -/
def lengthHash (bytes : Bytes) : FixedBytes 32 := .fill 32 (UInt8.ofNat bytes.length)

/-- A chunk left by a longer file of the same name is counted as the whole of a
    one-byte file. The hash is wrong then and after every retry. -/
theorem longer_leftover_blocks :
    (attempt lengthHash ⟨"/srv".toList⟩ [1] (createManifestFromBytes lengthHash "id" "a" [1])
      (.single (PathBuf.mk "/srv/a.part".toList).location (List.replicate chunkSize 0))).1 =
        .error (.error (.rootHashMismatch
          "0101010101010101010101010101010101010101010101010101010101010101"
          "0000000000000000000000000000000000000000000000000000000000000000")) ∧
    ¬ Delivers lengthHash ⟨"/srv".toList⟩ [1] (createManifestFromBytes lengthHash "id" "a" [1])
      (.single (PathBuf.mk "/srv/a.part".toList).location (List.replicate chunkSize 0)) := by
  have fits : ([1] : Bytes).length < 2 ^ 64 := by decide
  have path : partPathOf ⟨"/srv".toList⟩ (createManifestFromBytes lengthHash "id" "a" [1]) =
      ⟨"/srv/a.part".toList⟩ := by decide
  have found : partBytes (.single (PathBuf.mk "/srv/a.part".toList).location
      (List.replicate chunkSize 0)) ⟨"/srv".toList⟩
        (createManifestFromBytes lengthHash "id" "a" [1]) = List.replicate chunkSize 0 := by
    rw [partBytes, path, Disk.read_single, Option.getD_some]
  have counted : validChunks (createManifestFromBytes lengthHash "id" "a" [1])
      (List.replicate chunkSize (0 : UInt8)).length = 1 := by
    rw [List.length_replicate]
    decide
  have kept : keptBytes (createManifestFromBytes lengthHash "id" "a" [1])
      (List.replicate chunkSize 0) = List.replicate chunkSize 0 := by
    rw [keptBytes, if_neg (by decide), counted, Nat.one_mul, List.take_replicate, Nat.min_self]
  have whole : assembled (createManifestFromBytes lengthHash "id" "a" [1]) [1]
      (List.replicate chunkSize 0) = List.replicate chunkSize 0 := by
    rw [assembled, kept, counted, Nat.sub_eq_zero_of_le (by decide), slice_zero_length,
      List.append_nil]
  have hashed : lengthHash (List.replicate chunkSize 0) = .fill 32 0 := by
    rw [lengthHash, List.length_replicate]
    decide
  constructor
  · obtain ⟨disk', outcome, -⟩ := attempt_mismatching lengthHash ⟨"/srv".toList⟩ (.single
      (PathBuf.mk "/srv/a.part".toList).location (List.replicate chunkSize 0))
      (honest_covered lengthHash "id" "a" fits) (by rw [found, whole, hashed]; decide)
    rw [outcome, found, whole, hashed]
    rfl
  · intro delivers
    have same := (delivers.usable fits).assembled
    rw [found, whole] at same
    exact absurd (congrArg List.length same) (by rw [List.length_replicate]; decide)

end BridgeOS.Transfer
