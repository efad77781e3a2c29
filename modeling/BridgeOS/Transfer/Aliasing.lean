import BridgeOS.Transfer.Receiver

/-! # What happens to a verified file

`finalize_file` renames the `.part` file and leaves the handle open, and the
`.part` name does not contain the file's identifier, so two receivers for files of
one name write to one file. A chunk that a receiver accepts later goes to whatever
file its handle was opened for, under whatever name that file has by then. While no
two receivers in use have one `.part` file, and none is called after it has
finalized its own, no handle in use is the file under a path that was returned.
-/

namespace BridgeOS.Transfer

open PathBuf (Location)
open FileReceiver

/-- The receivers of a directory, by number, and the disk they share, with the paths that
    `finalize_file` has returned and the receivers it has returned them for. -/
structure Desk where
  disk : Disk Location
  receiver : Nat → Option FileReceiver
  returned : List PathBuf
  finalized : Finset Nat

inductive ReceiverCall where
  | toDir (i : Nat) (manifest : FileManifest)
  | receiveChunk (i : Nat) (chunk : FileChunk)
  | finalizeFile (i : Nat)

def Desk.start (disk : Disk Location) : Desk := ⟨disk, fun _ => none, [], ∅⟩

section Calls

variable (blake3 : Bytes → FixedBytes 32) (destDir : PathBuf)

/-- A failed call changes nothing, and a finalized receiver can still be called. -/
def ReceiverCall.perform (desk : Desk) : ReceiverCall → Desk
  | .toDir i manifest =>
      let opened := FileReceiver.toDir desk.disk destDir manifest
      { desk with
        disk := opened.2
        receiver := Function.update desk.receiver i (some opened.1)
        finalized := desk.finalized.erase i }
  | .receiveChunk i chunk =>
      match desk.receiver i with
      | none => desk
      | some r =>
          match r.receiveChunk blake3 desk.disk chunk with
          | .ok (r', disk) => { desk with disk, receiver := Function.update desk.receiver i (some r') }
          | .error _ => desk
  | .finalizeFile i =>
      match desk.receiver i with
      | none => desk
      | some r =>
          match r.finalizeFile blake3 desk.disk with
          | .ok (path, disk) => { desk with
              disk, returned := desk.returned ++ [path], finalized := insert i desk.finalized }
          | .error _ => desk

/-- The calls one after the other. -/
def performAll (first : Desk) (calls : List ReceiverCall) : Desk :=
  calls.foldl (ReceiverCall.perform blake3 destDir) first

/-- No chunk received after a path was returned changes what can be read under it. -/
def StaysVerified (first : Desk) (calls : List ReceiverCall) : Prop :=
  ∀ before i chunk after, calls = before ++ .receiveChunk i chunk :: after →
    ∀ path ∈ (performAll blake3 destDir first before).returned,
      (performAll blake3 destDir first (before ++ [.receiveChunk i chunk])).disk.read path.location =
        (performAll blake3 destDir first before).disk.read path.location

namespace Desk

/-- The receiver is in use, with this `.part` file and this handle: it has been opened and
    has not been finalized since. -/
def Holds (desk : Desk) (i : Nat) (part : Location) (handle : Nat) : Prop :=
  i ∉ desk.finalized ∧ ∃ r finalPath partPath, desk.receiver i = some r ∧
    r.target = .file finalPath partPath handle ∧ partPath.location = part

/-- The `.part` file of a receiver that is opened is neither that of another one in use nor a
    file that was returned; and a receiver that has been finalized is left alone. -/
def Separate (desk : Desk) : ReceiverCall → Prop
  | .toDir i manifest =>
      (∀ j handle, desk.Holds j (partPathOf destDir manifest).location handle → j = i) ∧
        ∀ path ∈ desk.returned, path.location ≠ (partPathOf destDir manifest).location
  | .receiveChunk i _ => i ∉ desk.finalized
  | .finalizeFile i => i ∉ desk.finalized

/-- Every call keeps the receivers separate at its turn. -/
def SeparateAll (desk : Desk) : List ReceiverCall → Prop
  | [] => True
  | call :: rest => desk.Separate destDir call ∧ SeparateAll (call.perform blake3 destDir desk) rest

/-- Every receiver in use has a file of its own, and no returned path leads to it. -/
structure Sound (desk : Desk) : Prop where
  unlinked : ∀ a b f, desk.disk.file a = some f → desk.disk.file b = some f → a = b
  apart : ∀ i j part f g, desk.Holds i part f → desk.Holds j part g → i = j
  own : ∀ i part f name, desk.Holds i part f → desk.disk.file name = some f → name = part
  spared : ∀ i part f, desk.Holds i part f → ∀ path ∈ desk.returned, desk.disk.file path.location ≠ some f
  allocated : ∀ i part f, desk.Holds i part f → f < desk.disk.unused

variable {blake3 destDir} {desk : Desk}

theorem sound_start {disk : Disk Location}
    (unlinked : ∀ a b f, disk.file a = some f → disk.file b = some f → a = b) : (start disk).Sound := by
  have idle : ∀ {i part f}, ¬ (start disk).Holds i part f := by
    rintro i part f ⟨-, r, _, _, opened, -⟩
    cases opened
  exact ⟨unlinked, fun _ _ _ _ _ held => (idle held).elim, fun _ _ _ _ held => (idle held).elim,
    fun _ _ _ held => (idle held).elim, fun _ _ _ held => (idle held).elim⟩

variable (destDir) in
theorem toDir_opens (disk : Disk Location) (manifest : FileManifest) :
    let opened := disk.openOrCreate (partPathOf destDir manifest).location
    (toDir disk destDir manifest).1.target =
        .file (finalPathOf destDir manifest) (partPathOf destDir manifest) opened.1 ∧
      (toDir disk destDir manifest).2.file = opened.2.file ∧
      (toDir disk destDir manifest).2.unused = opened.2.unused := by
  unfold toDir
  dsimp only
  split <;> exact ⟨rfl, rfl, rfl⟩

/-- The receiver that is opened holds the file under its `.part` name, and the others hold
    what they held. -/
theorem holds_toDir {i j f : Nat} {manifest : FileManifest} {part : Location}
    (held : ((ReceiverCall.toDir i manifest).perform blake3 destDir desk).Holds j part f) :
    j = i ∧ part = (partPathOf destDir manifest).location ∧
        f = (desk.disk.openOrCreate (partPathOf destDir manifest).location).1 ∨
      j ≠ i ∧ desk.Holds j part f := by
  obtain ⟨unfinished, r, finalPath, partPath, there, kind, rfl⟩ := held
  by_cases here : j = i
  · subst here
    have same : Function.update desk.receiver j (some (FileReceiver.toDir desk.disk destDir manifest).1) j =
      some r := there
    cases (Function.update_self ..).symm.trans same
    cases (toDir_opens destDir desk.disk manifest).1.symm.trans kind
    exact .inl ⟨rfl, rfl, rfl⟩
  · refine .inr ⟨here, fun done => unfinished (Finset.mem_erase.mpr ⟨here, done⟩), r, finalPath, partPath, ?_,
      kind, rfl⟩
    exact (Function.update_of_ne here ..).symm.trans there

theorem Sound.toDir (sound : desk.Sound) {i : Nat} {manifest : FileManifest}
    (separate : desk.Separate destDir (.toDir i manifest)) :
    ((ReceiverCall.toDir i manifest).perform blake3 destDir desk).Sound := by
  obtain ⟨alone, unreturned⟩ := separate
  obtain ⟨-, file, unused⟩ := toDir_opens destDir desk.disk manifest
  let part := (partPathOf destDir manifest).location
  obtain ⟨origin, fresh, grows⟩ := desk.disk.openOrCreate_handle part
  replace file : ((ReceiverCall.toDir i manifest).perform blake3 destDir desk).disk.file =
    (desk.disk.openOrCreate part).2.file := file
  have opened : ∀ {name}, desk.disk.file name = some (desk.disk.openOrCreate part).1 → name = part :=
    Disk.eq_of_file_opened sound.unlinked
  constructor
  · rw [file]
    exact Disk.openOrCreate_unlinked sound.unlinked part
  · intro j k part' f g first second
    rcases holds_toDir first with ⟨rfl, rfl, -⟩ | ⟨elsewhere, held⟩
    · rcases holds_toDir second with ⟨rfl, -⟩ | ⟨-, held⟩
      · rfl
      · exact (alone _ _ held).symm
    · rcases holds_toDir second with ⟨rfl, rfl, -⟩ | ⟨-, held'⟩
      · exact alone _ _ held
      · exact sound.apart j k part' f g held held'
  · intro j part' f name held leads
    rw [file] at leads
    rcases holds_toDir held with ⟨-, rfl, rfl⟩ | ⟨-, held⟩
    · rcases Disk.file_openOrCreate leads with old | ⟨rfl, -⟩
      · exact opened old
      · rfl
    · rcases Disk.file_openOrCreate leads with old | ⟨rfl, rfl⟩
      · exact sound.own j part' f name held old
      · rcases origin with found | new
        · exact sound.own j part' _ part held found
        · exact absurd (sound.allocated j part' _ held) (Nat.not_lt.mpr (Nat.le_of_eq new.symm))
  · intro j part' f held path member leads
    rw [file] at leads
    rcases Disk.file_openOrCreate leads with old | ⟨same, -⟩
    · rcases holds_toDir held with ⟨-, rfl, rfl⟩ | ⟨-, held⟩
      · exact unreturned path member (opened old)
      · exact sound.spared j part' f held path member old
    · exact unreturned path member same
  · intro j part' f held
    show f < (FileReceiver.toDir desk.disk destDir manifest).2.unused
    rw [unused]
    rcases holds_toDir held with ⟨-, -, rfl⟩ | ⟨-, held⟩
    · exact fresh
    · exact Nat.lt_of_lt_of_le (sound.allocated j part' f held) grows

/-- A chunk goes to the handle if it goes anywhere, and the receiver keeps it. -/
theorem perform_receiveChunk (blake3 : Bytes → FixedBytes 32) (destDir : PathBuf) (desk : Desk) (i : Nat)
    (chunk : FileChunk) :
    let next := (ReceiverCall.receiveChunk i chunk).perform blake3 destDir desk
    (∀ {j part f}, next.Holds j part f → desk.Holds j part f) ∧ next.returned = desk.returned ∧
      (next.disk = desk.disk ∨ ∃ r finalPath partPath handle, desk.receiver i = some r ∧
        r.target = .file finalPath partPath handle ∧
        next.disk = desk.disk.write handle chunk.offset.toNat chunk.data) := by
  have replaced : ∀ {r r' : FileReceiver} {disk : Disk Location}, desk.receiver i = some r →
      (∀ a b h, r'.target = .file a b h → r.target = .file a b h) → ∀ {j part f},
      { desk with disk, receiver := Function.update desk.receiver i (some r') }.Holds j part f →
        desk.Holds j part f := by
    rintro r r' disk there keeps j part f ⟨unfinished, other, finalPath, partPath, opened, kind, rfl⟩
    by_cases here : j = i
    · subst here
      cases (Function.update_self ..).symm.trans opened
      exact ⟨unfinished, r, finalPath, partPath, there, keeps _ _ _ kind, rfl⟩
    · exact ⟨unfinished, other, finalPath, partPath, (Function.update_of_ne here ..).symm.trans opened, kind, rfl⟩
  unfold ReceiverCall.perform
  dsimp only
  cases there : desk.receiver i with
  | none => exact ⟨id, rfl, .inl rfl⟩
  | some r =>
      dsimp only
      cases received : r.receiveChunk blake3 desk.disk chunk with
      | error e => exact ⟨id, rfl, .inl rfl⟩
      | ok result =>
          unfold FileReceiver.receiveChunk at received
          split at received
          · cases received
          · cases target : r.target with
            | file finalPath partPath handle =>
                simp only [target] at received
                cases received
                exact ⟨replaced there fun _ _ _ kind => target.trans kind, rfl,
                  .inr ⟨r, finalPath, partPath, handle, rfl, target, rfl⟩⟩
            | memory buffer =>
                simp only [target] at received
                split at received
                · cases received
                  refine ⟨replaced there fun _ _ _ kind => ?_, rfl, .inl rfl⟩
                  cases kind
                · cases received

theorem Sound.receiveChunk (sound : desk.Sound) (i : Nat) (chunk : FileChunk) :
    ((ReceiverCall.receiveChunk i chunk).perform blake3 destDir desk).Sound := by
  obtain ⟨holds, returned, disk⟩ := perform_receiveChunk blake3 destDir desk i chunk
  have file : ((ReceiverCall.receiveChunk i chunk).perform blake3 destDir desk).disk.file = desk.disk.file ∧
      ((ReceiverCall.receiveChunk i chunk).perform blake3 destDir desk).disk.unused = desk.disk.unused := by
    rcases disk with same | ⟨_, _, _, _, -, -, written⟩
    · exact ⟨congrArg Disk.file same, congrArg Disk.unused same⟩
    · exact ⟨written ▸ rfl, written ▸ rfl⟩
  constructor
  · rw [file.1]
    exact sound.unlinked
  · exact fun j k part f g first second => sound.apart j k part f g (holds first) (holds second)
  · rw [file.1]
    exact fun j part f name held => sound.own j part f name (holds held)
  · rw [file.1, returned]
    exact fun j part f held => sound.spared j part f (holds held)
  · rw [file.2]
    exact fun j part f held => sound.allocated j part f (holds held)

/-- A file is finalized by moving it from its `.part` name to the path that is returned. -/
theorem perform_finalizeFile (blake3 : Bytes → FixedBytes 32) (destDir : PathBuf) (desk : Desk) (i : Nat) :
    (ReceiverCall.finalizeFile i).perform blake3 destDir desk = desk ∨
      ∃ r path partPath handle disk, desk.receiver i = some r ∧ r.target = .file path partPath handle ∧
        desk.disk.rename partPath.location path.location = some disk ∧
        (ReceiverCall.finalizeFile i).perform blake3 destDir desk = { desk with
          disk, returned := desk.returned ++ [path], finalized := insert i desk.finalized } := by
  unfold ReceiverCall.perform
  dsimp only
  cases there : desk.receiver i with
  | none => exact .inl rfl
  | some r =>
      dsimp only
      cases finalized : r.finalizeFile blake3 desk.disk with
      | error e => exact .inl rfl
      | ok result =>
          obtain ⟨path, disk⟩ := result
          cases target : r.target with
          | memory buffer =>
              simp only [FileReceiver.finalizeFile, target] at finalized
              split at finalized <;> cases finalized
          | file finalPath partPath handle =>
              obtain ⟨-, -, rfl, renamed⟩ := (finalizeFile_eq_ok blake3 target).mp finalized
              exact .inr ⟨r, path, partPath, handle, disk, rfl, target, renamed, rfl⟩

theorem Sound.finalizeFile (sound : desk.Sound) {i : Nat} (separate : i ∉ desk.finalized) :
    ((ReceiverCall.finalizeFile i).perform blake3 destDir desk).Sound := by
  rcases perform_finalizeFile blake3 destDir desk i with
    same | ⟨r, path, partPath, handle, disk, there, target, renamed, after⟩
  · rwa [same]
  rw [after]
  obtain ⟨unused, moved, source, named⟩ := Disk.file_rename renamed
  -- the file that is moved is no other receiver's: they do not share a name
  have others : ∀ {j part f}, { desk with
        disk, returned := desk.returned ++ [path], finalized := insert i desk.finalized }.Holds j part f →
      desk.Holds j part f ∧ f ≠ moved := by
    rintro j part f ⟨unfinished, opened⟩
    obtain ⟨elsewhere, before⟩ := not_or.mp (mt Finset.mem_insert.mpr unfinished)
    have held : desk.Holds j part f := ⟨before, opened⟩
    refine ⟨held, ?_⟩
    rintro rfl
    have shared := sound.own j part f _ held source
    exact elsewhere (sound.apart j i part f handle held ⟨separate, r, path, partPath, there, target, shared⟩)
  constructor
  · exact Disk.rename_unlinked sound.unlinked renamed
  · exact fun j k part f g first second => sound.apart j k part f g (others first).1 (others second).1
  · intro j part f name held leads
    rcases named name f leads with ⟨-, same⟩ | ⟨-, -, old⟩
    · exact absurd same (others held).2
    · exact sound.own j part f name (others held).1 old
  · intro j part f held other member leads
    rcases named _ f leads with ⟨-, same⟩ | ⟨apart, -, old⟩
    · exact absurd same (others held).2
    · rcases List.mem_append.mp member with earlier | last
      · exact sound.spared j part f (others held).1 other earlier old
      · exact apart (congrArg PathBuf.location (List.mem_singleton.mp last))
  · intro j part f held
    rw [unused]
    exact sound.allocated j part f (others held).1

theorem Sound.perform (sound : desk.Sound) {call : ReceiverCall} (separate : desk.Separate destDir call) :
    (call.perform blake3 destDir desk).Sound := by
  cases call with
  | toDir i manifest => exact sound.toDir separate
  | receiveChunk i chunk => exact sound.receiveChunk i chunk
  | finalizeFile i => exact sound.finalizeFile separate

variable (blake3 destDir) in
/-- What a receiver in use writes is under no returned path. -/
theorem Sound.read_receiveChunk (sound : desk.Sound) {i : Nat} (separate : i ∉ desk.finalized)
    (chunk : FileChunk) {path : PathBuf} (returned : path ∈ desk.returned) :
    ((ReceiverCall.receiveChunk i chunk).perform blake3 destDir desk).disk.read path.location =
      desk.disk.read path.location := by
  rcases (perform_receiveChunk blake3 destDir desk i chunk).2.2 with
    same | ⟨r, finalPath, partPath, handle, there, target, written⟩
  · rw [same]
  · rw [written]
    apply Disk.read_write_of_ne
    exact sound.spared i _ handle ⟨separate, r, finalPath, partPath, there, target, rfl⟩ path returned

theorem Sound.performAll (sound : desk.Sound) {before rest : List ReceiverCall}
    (separate : desk.SeparateAll blake3 destDir (before ++ rest)) :
    (performAll blake3 destDir desk before).Sound ∧
      (performAll blake3 destDir desk before).SeparateAll blake3 destDir rest := by
  induction before generalizing desk with
  | nil => exact ⟨sound, separate⟩
  | cons call before ih => exact ih (sound.perform separate.1) separate.2

end Desk

/-- In every run of a directory without hard links, any number of receivers and any order of
    their calls: while each call keeps the receivers separate, no chunk changes what is
    under a path that was returned. -/
theorem stays_verified (disk : Disk Location)
    (unlinked : ∀ a b f, disk.file a = some f → disk.file b = some f → a = b) (calls : List ReceiverCall)
    (separate : (Desk.start disk).SeparateAll blake3 destDir calls) :
    StaysVerified blake3 destDir (.start disk) calls := by
  rintro before i chunk after rfl path returned
  obtain ⟨sound, now, -⟩ := (Desk.sound_start unlinked).performAll separate
  have spared := sound.read_receiveChunk blake3 destDir now chunk returned
  rwa [performAll, List.foldl_append]

end Calls

/-- A stand-in hash that sees the first byte and nothing else. -/
def headHash (bytes : Bytes) : FixedBytes 32 := .fill 32 (bytes.headD 0)

/-- Two files with names of their own: the second goes on when the first is verified. -/
theorem separate_files_stay_verified :
    StaysVerified headHash ⟨"/srv".toList⟩ (.start .empty) [.toDir 0 (.new "a" "f" 1 (headHash [1])),
      .toDir 1 (.new "b" "g" 1 (headHash [2])), .receiveChunk 0 (.new headHash "a" 0 0 [1]), .finalizeFile 0,
      .receiveChunk 1 (.new headHash "b" 0 0 [2])] := by
  refine stays_verified headHash _ .empty (by simp [Disk.empty]) _
    ⟨⟨?_, by simp [Desk.start]⟩, ⟨?_, by decide⟩, show 0 ∉ Desk.finalized _ by decide,
      show 0 ∉ Desk.finalized _ by decide, show 1 ∉ Desk.finalized _ by decide, trivial⟩
  · rintro j handle ⟨-, r, _, _, there, -⟩
    cases there
  · rintro j handle ⟨-, r, finalPath, partPath, there, kind, same⟩
    change Function.update (fun _ => none) 0 (some _) j = some r at there
    by_cases first : j = 0
    · subst first
      cases (Function.update_self ..).symm.trans there
      cases kind
      exact absurd same (by decide)
    · cases (Function.update_of_ne first ..).symm.trans there

/-- Two files of one name: the first is verified as `[1]`, then a chunk of the second
    puts `[2]` in its place. The same happens with a second chunk of the first. -/
theorem verified_file_is_overwritten :
    let before : List ReceiverCall := [.toDir 0 (.new "a" "f" 1 (headHash [1])),
      .toDir 1 (.new "b" "f" 1 (headHash [2])), .receiveChunk 0 (.new headHash "a" 0 0 [1]), .finalizeFile 0]
    let reached calls := performAll headHash ⟨"/srv".toList⟩ (.start .empty) (before ++ calls)
    let bytes calls := (reached calls).disk.read (PathBuf.mk "/srv/f".toList).location
    (reached []).returned = [⟨"/srv/f".toList⟩] ∧ bytes [] = some [1] ∧
      bytes [.receiveChunk 1 (.new headHash "b" 0 0 [2])] = some [2] ∧
      bytes [.receiveChunk 0 (.new headHash "a" 0 0 [2])] = some [2] := by
  decide

end BridgeOS.Transfer
