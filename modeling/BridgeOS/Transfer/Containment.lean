import BridgeOS.Transfer.Receiver

/-! # Where a received file is written

The file name of a manifest is joined to the receive directory as it came off
the wire. The names the receiver then uses are entries of that directory for
exactly one kind of name: no directory part that moves, and a last segment that
is a name of its own. The `.part` suffix hides the second condition from the
temporary file, so both names have to be looked at.
-/

namespace BridgeOS.Transfer

open PathBuf (Location step?)
open FileReceiver

/-- The two names of a transfer and the one a successful finalization reports
    are entries of the receive directory itself. -/
def StaysInside (blake3 : Bytes → FixedBytes 32) (disk : Disk Location) (destDir : PathBuf)
    (m : FileManifest) : Prop :=
  (∀ finalPath partPath handle, (toDir disk destDir m).1.target = .file finalPath partPath handle →
    destDir.DirectChild partPath ∧ destDir.DirectChild finalPath) ∧
  ∀ chunks path disk',
    (receiveAll blake3 (toDir disk destDir m).1 (toDir disk destDir m).2 chunks).1.finalizeFile blake3
      (receiveAll blake3 (toDir disk destDir m).1 (toDir disk destDir m).2 chunks).2 =
        .ok (path, disk') → destDir.DirectChild path

/-- The text behind the last separator is a proper name, and the text in front of
    it stays in place; an absolute name has to spell out the directory itself. -/
def NamesEntryOf (destDir : PathBuf) (filename : String) : Prop :=
  (PathBuf.mk filename.toList).lastSegment ∉ [[], ['.'], ['.', '.']] ∧
    if (PathBuf.mk filename.toList).isAbsolute then
      destDir.location = ⟨true, (PathBuf.mk filename.toList).leading.filterMap step?⟩
    else (PathBuf.mk filename.toList).leading.filterMap step? = []

instance (destDir : PathBuf) (filename : String) : Decidable (NamesEntryOf destDir filename) :=
  inferInstanceAs (Decidable (_ ∧ _))

theorem step?_eq_down {segment name : List Char} :
    step? segment = some (.down name) ↔ segment ∉ [[], ['.'], ['.', '.']] ∧ name = segment := by
  unfold step?
  split
  · rename_i still
    rcases still with rfl | rfl <;> simp
  · rename_i moves
    split
    · rename_i up
      simp [up]
    · rename_i proper
      simp_all [eq_comm]

/-- With the suffix the last segment is always a name. -/
theorem step?_part (segment : List Char) :
    step? (segment ++ ".part".toList) = some (.down (segment ++ ".part".toList)) := by
  rw [step?_eq_down]
  have long : 5 ≤ (segment ++ ".part".toList).length := by
    rw [List.length_append]
    exact Nat.le_add_left 5 _
  refine ⟨?_, rfl⟩
  intro short
  simp only [List.mem_cons, List.not_mem_nil, or_false] at short
  rcases short with same | same | same <;> exact absurd (same ▸ long) (by decide)

theorem partPathOf_eq (destDir : PathBuf) (m : FileManifest) :
    partPathOf destDir m = destDir.join ((PathBuf.mk m.filename.toList).appendSuffix ".part".toList) := by
  simp only [partPathOf, PathBuf.appendSuffix, String.toList_append]

theorem paths_inside_iff (destDir : PathBuf) (m : FileManifest) :
    destDir.DirectChild (partPathOf destDir m) ∧ destDir.DirectChild (finalPathOf destDir m) ↔
      NamesEntryOf destDir m.filename := by
  have plain : '/' ∉ ".part".toList := by decide
  rw [partPathOf_eq]
  unfold finalPathOf NamesEntryOf PathBuf.DirectChild
  generalize PathBuf.mk m.filename.toList = name
  have absolutePart := name.isAbsolute_appendSuffix plain
  cases absolute : name.isAbsolute with
  | false =>
      rw [absolute] at absolutePart
      rw [PathBuf.location_join_relative absolute, PathBuf.location_join_relative absolutePart,
        PathBuf.segments_appendSuffix name plain, PathBuf.segments_eq name]
      simp only [List.filterMap_append, List.filterMap_cons, List.filterMap_nil, step?_part,
        PathBuf.Location.mk.injEq, true_and, List.append_cancel_left_eq, Bool.false_eq_true,
        if_false]
      constructor
      · rintro ⟨⟨_, inPlace⟩, shown, entry⟩
        have still : name.leading.filterMap step? = [] := by
          simpa using congrArg List.dropLast inPlace
        rw [still, List.nil_append] at entry
        cases moved : step? name.lastSegment with
        | none => simp [moved] at entry
        | some step =>
            simp only [moved, List.cons.injEq, and_true] at entry
            exact ⟨(step?_eq_down.mp (moved.trans (congrArg some entry))).1, still⟩
      · rintro ⟨proper, still⟩
        have named : step? name.lastSegment = some (.down name.lastSegment) :=
          step?_eq_down.mpr ⟨proper, rfl⟩
        simp [still, named]
  | true =>
      rw [absolute] at absolutePart
      rw [PathBuf.join_absolute absolute, PathBuf.join_absolute absolutePart]
      simp only [PathBuf.location, absolute, absolutePart, PathBuf.segments_appendSuffix name plain]
      rw [PathBuf.segments_eq name]
      simp only [List.filterMap_append, List.filterMap_cons, List.filterMap_nil, step?_part,
        PathBuf.Location.mk.injEq, if_true]
      constructor
      · rintro ⟨⟨_, rooted, inPlace⟩, shown, -, entry⟩
        have there := congrArg List.dropLast inPlace
        simp only [List.dropLast_concat] at there
        rw [there, List.append_cancel_left_eq] at entry
        cases moved : step? name.lastSegment with
        | none => simp [moved] at entry
        | some step =>
            simp only [moved, List.cons.injEq, and_true] at entry
            exact ⟨(step?_eq_down.mp (moved.trans (congrArg some entry))).1, rooted.symm, there.symm⟩
      · rintro ⟨proper, rooted, there⟩
        have named : step? name.lastSegment = some (.down name.lastSegment) :=
          step?_eq_down.mpr ⟨proper, rfl⟩
        simp [rooted, there, named]

theorem toDir_target (disk : Disk Location) (destDir : PathBuf) (m : FileManifest) :
    ∃ handle, (toDir disk destDir m).1.target =
      .file (finalPathOf destDir m) (partPathOf destDir m) handle := by
  obtain ⟨handle, opened, -⟩ := toDir_spec disk destDir m
  exact ⟨handle, by rw [opened]⟩

/-- A transfer stays inside the receive directory exactly for the names that name
    an entry of it; every other name is used all the same. -/
theorem staysInside_iff_namesEntryOf (blake3 : Bytes → FixedBytes 32) (disk : Disk Location)
    (destDir : PathBuf) (m : FileManifest) :
    StaysInside blake3 disk destDir m ↔ NamesEntryOf destDir m.filename := by
  obtain ⟨handle, target⟩ := toDir_target disk destDir m
  rw [← paths_inside_iff]
  constructor
  · intro stays
    exact stays.1 _ _ handle target
  · intro inside
    refine ⟨?_, ?_⟩
    · intro finalPath partPath other same
      obtain ⟨rfl, rfl, rfl⟩ : finalPathOf destDir m = finalPath ∧ partPathOf destDir m = partPath ∧
          handle = other := by
        simpa using target.symm.trans same
      exact inside
    · intro chunks path disk' done
      have kept := receiveAll_file blake3 target (toDir disk destDir m).2 chunks
      obtain ⟨-, -, rfl, -⟩ := (finalizeFile_eq_ok blake3 kept).mp done
      exact inside.2

/-- A `..` in the offered name leaves the directory. -/
theorem parent_name_escapes :
    ¬ StaysInside (fun _ => .fill 32 0) Disk.empty ⟨"/srv/recv".toList⟩
      (.new "id" "../authorized_keys" 3 (.fill 32 0)) := by
  intro stays
  obtain ⟨handle, target⟩ := toDir_target Disk.empty ⟨"/srv/recv".toList⟩
    (.new "id" "../authorized_keys" 3 (.fill 32 0))
  have named := (paths_inside_iff _ _).mp (stays.1 _ _ handle target)
  exact absurd named (by decide)

end BridgeOS.Transfer
