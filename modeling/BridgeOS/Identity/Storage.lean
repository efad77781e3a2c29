import BridgeOS.Identity.Keys
import BridgeOS.Lib.Boundary
import BridgeOS.Lib.Crash

/-! # The file of the identity key

The key is written in place: the file is created or emptied, the bytes are written in
one part or several, and then the permissions are narrowed. Between the first of these
steps and the last byte the file holds neither key, and it has the permissions of any
other new file, or those it had before, until the end.

Error texts leave out what the hex decoder appends.
-/

namespace BridgeOS

inductive IoError where
  | notFound
  | other (text : String)
  deriving DecidableEq

/-- The errors of `IdentityError` that the key file can give. -/
inductive StorageError where
  | io (error : IoError)
  | invalidSecretKeyFile (text : String)
  deriving DecidableEq

/-- The permission bits of owner, group and others. -/
abbrev FileMode := BitVec 9

/-- Somebody may do more than the owner may read and write. -/
def FileMode.Wide (mode : FileMode) : Prop := mode &&& ~~~0o600#9 ≠ 0

instance (mode : FileMode) : Decidable mode.Wide := inferInstanceAs (Decidable (_ ≠ _))

theorem FileMode.not_wide_owner : ¬ FileMode.Wide 0o600#9 := by decide

structure KeyFile where
  content : Bytes
  mode : FileMode
  deriving DecidableEq

/-- The place of the key file: whether its directory is there, and the file in it. -/
structure KeyPlace where
  directory : Bool
  file : Option KeyFile
  inside : file.isSome = true → directory = true

inductive FileStep where
  | createDirAll
  | createOrTruncate
  | write (part : Bytes)
  | setPermissions (mode : FileMode)
  deriving DecidableEq

namespace KeyPlace

/-- The file as it is opened for writing. Only a new one gets its permissions from the mask. -/
def opened (umask : FileMode) (place : KeyPlace) : KeyFile :=
  match place.file with
  | some file => ⟨[], file.mode⟩
  | none => ⟨[], 0o666#9 &&& ~~~umask⟩

def update (place : KeyPlace) (change : KeyFile → KeyFile) : KeyPlace :=
  { place with
    file := place.file.map change
    inside := by simpa using place.inside }

def step (umask : FileMode) (place : KeyPlace) : FileStep → KeyPlace
  | .createDirAll => { place with directory := true, inside := fun _ => rfl }
  | .createOrTruncate =>
      if place.directory then ⟨true, some (place.opened umask), fun _ => rfl⟩ else place
  | .write part => place.update fun file => { file with content := file.content ++ part }
  | .setPermissions mode => place.update fun file => { file with mode }

abbrev after (umask : FileMode) (place : KeyPlace) (steps : List FileStep) : KeyPlace :=
  Crash.after (step umask) place steps

end KeyPlace

namespace IdentityKey

def fromBytes (bytes : FixedBytes 32) : IdentityKey := ⟨bytes⟩

def toBytes (key : IdentityKey) : FixedBytes 32 := key.signingKey

/-- The parts in which the key is handed to the system: each `write` takes some of the bytes
    that are left. -/
structure Parts (key : IdentityKey) where
  parts : List Bytes
  nonempty : ∀ part ∈ parts, part ≠ []
  joined : parts.flatten = key.toBytes.bytes

/-- All in one. -/
def whole (key : IdentityKey) : key.Parts where
  parts := [key.toBytes.bytes]
  nonempty := by
    intro part member
    rw [List.mem_singleton.mp member, ← List.length_pos_iff, key.toBytes.size]
    decide
  joined := by simp

end IdentityKey

namespace IdentityStorage

variable {key : IdentityKey}

def steps (parts : key.Parts) : List FileStep :=
  [.createDirAll, .createOrTruncate] ++ parts.parts.map FileStep.write ++
    [FileStep.setPermissions 0o600#9]

/-- `failing` is the first step that fails, and how. -/
def save (umask : FileMode) (place : KeyPlace) (parts : key.Parts) (failing : Option (Nat × String)) :
    Except StorageError Unit × KeyPlace :=
  match failing with
  | none => (.ok (), place.after umask (steps parts))
  | some (n, e) =>
      if n < (steps parts).length then
        (.error (.io (.other e)), place.after umask ((steps parts).take n))
      else (.ok (), place.after umask (steps parts))

def invalidLength (length : Nat) : StorageError :=
  .invalidSecretKeyFile s!"Expected 32 binary bytes or 64 hex characters, found {length} bytes"

/-- Thirty-two bytes, or their hexadecimal digits with white space around them. -/
def parse (content : Bytes) : Except StorageError IdentityKey :=
  if size : content.length = 32 then .ok (.fromBytes ⟨content, size⟩)
  else if content.length ≥ 64 then
    match String.fromUTF8? ⟨content.toArray⟩ with
    | none => .error (.invalidSecretKeyFile "File is not valid UTF-8 hex")
    | some text =>
        match Hex.decode (Text.trim text) with
        | none => .error (.invalidSecretKeyFile "Hex decode failed")
        | some decoded =>
            match FixedBytes.ofBytes? 32 decoded with
            | none => .error (.invalidSecretKeyFile "Decoded hex key is not 32 bytes")
            | some bytes => .ok (.fromBytes bytes)
  else .error (invalidLength content.length)

def load (place : KeyPlace) : Except StorageError IdentityKey :=
  match place.file with
  | none => .error (.io .notFound)
  | some file => parse file.content

/-- What a start of the program meets: the mask, the key that it would generate, and how
    saving that would go. -/
structure Start where
  umask : FileMode
  key : IdentityKey
  parts : key.Parts
  failing : Option (Nat × String)

def loadOrGenerate (place : KeyPlace) (start : Start) : Except StorageError IdentityKey × KeyPlace :=
  if place.file.isSome then (load place, place)
  else match save start.umask place start.parts start.failing with
    | (.error e, place) => (.error e, place)
    | (.ok _, place) => (.ok start.key, place)

def restarts (place : KeyPlace) (starts : List Start) : KeyPlace :=
  starts.foldl (fun place start => (loadOrGenerate place start).2) place

section Files

theorem parse_toBytes (key : IdentityKey) : parse key.toBytes.bytes = .ok key := dif_pos key.toBytes.size

theorem parse_short {content : Bytes} (short : content.length < 32) :
    parse content = .error (invalidLength content.length) := by
  rw [parse, dif_neg (by omega), if_neg (by omega)]

theorem load_of_file {place : KeyPlace} {file : KeyFile} (found : place.file = some file) :
    load place = parse file.content := by
  rw [load, found]

end Files

section Cuts

variable (umask : FileMode) (place : KeyPlace) {parts : key.Parts} {done : List FileStep}

def written (done : List FileStep) : Bytes :=
  done.flatMap fun
    | .write part => part
    | _ => []

/-- The file has been emptied, and does not hold the whole key yet. -/
def Torn (key : IdentityKey) (done : List FileStep) : Prop :=
  .createOrTruncate ∈ done ∧ written done ≠ key.toBytes.bytes

/-- Bytes are in the file, and someone may reach them that should not. -/
def Exposed (place : KeyPlace) : Prop :=
  ∃ file ∈ place.file, file.content ≠ [] ∧ file.mode.Wide

theorem written_writes (parts : List Bytes) : written (parts.map .write) = parts.flatten := by
  induction parts with
  | nil => rfl
  | cons part parts ih =>
      rw [written] at ih
      simp [written, ih]

/-- Where saving can be cut short: before the file is touched, somewhere in the writing, or
    not at all. -/
theorem cut_cases (cut : done <+: steps parts) :
    done = [] ∨ done = [.createDirAll] ∨
      (∃ early, early <+: parts.parts ∧ done = .createDirAll :: .createOrTruncate :: early.map .write) ∨
      done = steps parts := by
  rcases List.prefix_concat_iff.mp cut with whole | earlier
  · exact .inr (.inr (.inr whole))
  · rcases Crash.prefix_append_cases earlier with opening | ⟨rest, writing, rfl⟩
    · rcases List.prefix_cons_iff.mp opening with rfl | ⟨rest, rfl, more⟩
      · exact .inl rfl
      · rcases List.prefix_cons_iff.mp more with rfl | ⟨rest, rfl, none⟩
        · exact .inr (.inl rfl)
        · rw [List.prefix_nil.mp none]
          exact .inr (.inr (.inl ⟨[], List.nil_prefix, rfl⟩))
    · obtain ⟨others, split⟩ := writing
      obtain ⟨early, late, parted, rfl, -⟩ := List.map_eq_append_iff.mp split.symm
      exact .inr (.inr (.inl ⟨early, ⟨late, parted.symm⟩, rfl⟩))

theorem file_after_opening :
    (place.after umask [.createDirAll, .createOrTruncate]).file = some (place.opened umask) := rfl

theorem opened_content : (place.opened umask).content = [] := by
  unfold KeyPlace.opened
  split <;> rfl

variable {place} in
theorem file_after_writes {file : KeyFile} (parts : List Bytes) (found : place.file = some file) :
    (place.after umask (parts.map .write)).file =
      some { file with content := file.content ++ parts.flatten } := by
  induction parts generalizing place file with
  | nil => simpa using found
  | cons part parts ih =>
      have next : (place.step umask (.write part)).file =
          some { file with content := file.content ++ part } := by
        simp [KeyPlace.step, KeyPlace.update, found]
      rw [List.map_cons, KeyPlace.after, Crash.after_cons]
      simpa using ih next

theorem file_after_writing (early : List Bytes) :
    (place.after umask (.createDirAll :: .createOrTruncate :: early.map .write)).file =
      some ⟨early.flatten, (place.opened umask).mode⟩ := by
  have writes := file_after_writes umask early (file_after_opening umask place)
  rw [opened_content, List.nil_append] at writes
  exact writes

variable (parts) in
theorem file_after_steps :
    (place.after umask (steps parts)).file = some ⟨key.toBytes.bytes, 0o600#9⟩ := by
  have writing := file_after_writing umask place parts.parts
  rw [parts.joined] at writing
  rw [steps, KeyPlace.after, Crash.after_append]
  simp only [Crash.after_cons, Crash.after_nil, KeyPlace.step, KeyPlace.update]
  exact congrArg (Option.map _) writing

/-- What the file is when saving is cut short. -/
theorem cut_spec (cut : done <+: steps parts) :
    .createOrTruncate ∉ done ∧ (place.after umask done).file = place.file ∨
      .createOrTruncate ∈ done ∧ written done <+: key.toBytes.bytes ∧
        ∃ mode, (mode = (place.opened umask).mode ∨ mode = 0o600#9) ∧
          (place.after umask done).file = some ⟨written done, mode⟩ := by
  rcases cut_cases cut with rfl | rfl | ⟨early, begins, rfl⟩ | rfl
  · exact .inl ⟨by simp, rfl⟩
  · exact .inl ⟨by simp, rfl⟩
  · right
    have bytes : written (.createDirAll :: .createOrTruncate :: early.map .write) = early.flatten :=
      written_writes early
    refine ⟨by simp, ?_, (place.opened umask).mode, .inl rfl, ?_⟩
    · rw [bytes, ← parts.joined]
      obtain ⟨late, parted⟩ := begins
      rw [← parted, List.flatten_append]
      exact List.prefix_append early.flatten late.flatten
    · rw [bytes]
      exact file_after_writing umask place early
  · right
    have bytes : written (steps parts) = key.toBytes.bytes := by
      rw [← parts.joined, ← written_writes]
      simp [written, steps]
    refine ⟨by simp [steps], ?_, 0o600#9, .inr rfl, ?_⟩
    · rw [bytes]
    · rw [bytes]
      exact file_after_steps umask place parts

theorem length_written_lt {done : List FileStep} (begins : written done <+: key.toBytes.bytes)
    (partly : written done ≠ key.toBytes.bytes) : (written done).length < 32 := by
  have short := begins.length_le
  rw [key.toBytes.size] at short
  refine Nat.lt_of_le_of_ne short fun full => partly (begins.eq_of_length ?_)
  rw [full, key.toBytes.size]

theorem load_of_torn (cut : done <+: steps parts) (torn : Torn key done) :
    load (place.after umask done) = .error (invalidLength (written done).length) := by
  rcases cut_spec umask place cut with ⟨untouched, -⟩ | ⟨-, begins, mode, -, found⟩
  · exact absurd torn.1 untouched
  · rw [load_of_file found]
    exact parse_short (length_written_lt begins torn.2)

theorem load_of_not_torn (cut : done <+: steps parts) (sound : ¬ Torn key done) :
    load (place.after umask done) = load place ∨ load (place.after umask done) = .ok key := by
  rcases cut_spec umask place cut with ⟨-, same⟩ | ⟨touched, -, mode, -, found⟩
  · left
    rw [load, load, same]
  · right
    have whole : written done = key.toBytes.bytes := by
      by_contra partly
      exact sound ⟨touched, partly⟩
    rw [load_of_file found, whole]
    exact parse_toBytes key

variable (parts) in
/-- The bytes are open to others exactly if the file is when it is opened. -/
theorem exposed_iff : (∃ done, done <+: steps parts ∧ .createOrTruncate ∈ done ∧
    Exposed (place.after umask done)) ↔ (place.opened umask).mode.Wide := by
  constructor
  · rintro ⟨done, cut, touched, file, held, -, wide⟩
    rcases cut_spec umask place cut with ⟨untouched, -⟩ | ⟨-, -, mode, narrowed, found⟩
    · exact absurd touched untouched
    · cases found.symm.trans held
      rcases narrowed with same | restricted
      · exact same ▸ wide
      · rw [restricted] at wide
        exact absurd wide FileMode.not_wide_owner
  · intro wide
    -- all is written, and the permissions are still to be set
    refine ⟨.createDirAll :: .createOrTruncate :: parts.parts.map .write, ?_, by simp, _,
      file_after_writing umask place parts.parts, ?_, wide⟩
    · exact List.prefix_append _ _
    · rw [parts.joined, ← List.length_pos_iff, key.toBytes.size]
      decide

end Cuts

/-- For whatever was there before, however the bytes are parted and wherever saving is cut
    short. Between the emptying of the file and its last byte the file is invalid; at every
    other point the key is the old one or the new one. Nobody else can reach the bytes exactly
    if the file is opened with no more permissions than it has in the end. -/
theorem save_cut_short (umask : FileMode) (place : KeyPlace) (key : IdentityKey) (parts : key.Parts) :
    (∀ done, done <+: steps parts → Torn key done →
        load (place.after umask done) = .error (invalidLength (written done).length)) ∧
      (∀ done, done <+: steps parts → ¬ Torn key done →
        load (place.after umask done) = load place ∨
          load (place.after umask done) = .ok key) ∧
      ((∀ done, done <+: steps parts → .createOrTruncate ∈ done →
          ¬ Exposed (place.after umask done)) ↔ ¬ (place.opened umask).mode.Wide) ∧
      (place.after umask (steps parts)).file = some ⟨key.toBytes.bytes, 0o600#9⟩ := by
  refine ⟨fun done cut torn => load_of_torn umask place cut torn,
    fun done cut sound => load_of_not_torn umask place cut sound, ?_,
    file_after_steps umask place parts⟩
  rw [← exposed_iff umask place parts]
  simp

section Example

def oldKey : IdentityKey := ⟨.fill 32 1⟩

def newKey : IdentityKey := ⟨.fill 32 2⟩

def oldPlace : KeyPlace := ⟨true, some ⟨oldKey.toBytes.bytes, 0o600#9⟩, fun _ => rfl⟩

def newPlace : KeyPlace := ⟨false, none, by simp⟩

/-- A crash behind the opening loses the old key and leaves an invalid file. A new file has the
    key in it before it is closed to others. -/
theorem save_tears_and_exposes :
    ([.createDirAll, .createOrTruncate] <+: steps newKey.whole ∧ load oldPlace = .ok oldKey ∧
        load (oldPlace.after 0o022#9 [.createDirAll, .createOrTruncate]) =
          .error (.invalidSecretKeyFile
            "Expected 32 binary bytes or 64 hex characters, found 0 bytes")) ∧
      [.createDirAll, .createOrTruncate, .write newKey.toBytes.bytes] <+: steps newKey.whole ∧
        (newPlace.after 0o022#9
            [.createDirAll, .createOrTruncate, .write newKey.toBytes.bytes]).file =
          some ⟨newKey.toBytes.bytes, 0o644#9⟩ ∧ FileMode.Wide 0o644#9 := by
  refine ⟨⟨List.prefix_append _ _, parse_toBytes oldKey, ?_⟩, List.prefix_append _ _, rfl, by decide⟩
  exact parse_short (by decide : ([] : Bytes).length < 32)

end Example

theorem load_after_steps (umask : FileMode) (place : KeyPlace) {key : IdentityKey} (parts : key.Parts) :
    load (place.after umask (steps parts)) = .ok key := by
  rw [load_of_file (file_after_steps umask place parts)]
  exact parse_toBytes key

section Restarts

theorem loadOrGenerate_of_file {place : KeyPlace} (found : place.file.isSome = true) (start : Start) :
    loadOrGenerate place start = (load place, place) := if_pos found

/-- A file that is there is never written again. -/
theorem restarts_of_file {place : KeyPlace} (found : place.file.isSome = true) (starts : List Start) :
    restarts place starts = place := by
  induction starts with
  | nil => rfl
  | cons start starts ih =>
      rw [restarts, List.foldl_cons, loadOrGenerate_of_file found]
      exact ih

theorem loadOrGenerate_restarts {place : KeyPlace} (found : place.file.isSome = true) (starts : List Start)
    (next : Start) : (loadOrGenerate (restarts place starts) next).1 = load place := by
  rw [restarts_of_file found, loadOrGenerate_of_file found]

/-- A start that was cut short in the middle keeps every later one from succeeding. -/
theorem torn_forever (umask : FileMode) (place : KeyPlace) {key : IdentityKey} {parts : key.Parts}
    {done : List FileStep} (cut : done <+: steps parts) (torn : Torn key done) (starts : List Start)
    (next : Start) :
    (loadOrGenerate (restarts (place.after umask done) starts) next).1 =
      .error (invalidLength (written done).length) := by
  have found : (place.after umask done).file.isSome = true := by
    rcases cut_spec umask place cut with ⟨untouched, -⟩ | ⟨-, -, mode, -, file⟩
    · exact absurd torn.1 untouched
    · rw [file]
      rfl
  exact (loadOrGenerate_restarts found starts next).trans (load_of_torn umask place cut torn)

/-- A call that fails leaves what a crash at the same step would. -/
theorem save_cases (umask : FileMode) (place : KeyPlace) {key : IdentityKey} (parts : key.Parts)
    (failing : Option (Nat × String)) :
    save umask place parts failing = (.ok (), place.after umask (steps parts)) ∨
      ∃ e done, done <+: steps parts ∧
        save umask place parts failing = (.error (.io (.other e)), place.after umask done) := by
  unfold save
  cases failing with
  | none => exact .inl rfl
  | some failure =>
      dsimp only
      split
      · exact .inr ⟨failure.2, (steps parts).take failure.1, List.take_prefix .., rfl⟩
      · exact .inl rfl

/-- A start that succeeds leaves its key in the file. -/
theorem loadOrGenerate_eq_ok {place : KeyPlace} {start : Start} {key : IdentityKey}
    (started : (loadOrGenerate place start).1 = .ok key) :
    (loadOrGenerate place start).2.file.isSome = true ∧
      load (loadOrGenerate place start).2 = .ok key := by
  by_cases found : place.file.isSome = true
  · rw [loadOrGenerate_of_file found] at started ⊢
    exact ⟨found, started⟩
  · unfold loadOrGenerate at started ⊢
    rw [if_neg found] at started ⊢
    rcases save_cases start.umask place start.parts start.failing with saved | ⟨e, done, -, failed⟩
    · rw [saved] at started ⊢
      cases started
      exact ⟨congrArg Option.isSome (file_after_steps ..), load_after_steps ..⟩
    · rw [failed] at started
      cases started

/-- The key of a start that succeeded is the key of every later one. -/
theorem identity_kept {place : KeyPlace} {start : Start} {key : IdentityKey}
    (started : (loadOrGenerate place start).1 = .ok key) (starts : List Start) (next : Start) :
    (loadOrGenerate (restarts (loadOrGenerate place start).2 starts) next).1 = .ok key := by
  obtain ⟨found, loaded⟩ := loadOrGenerate_eq_ok started
  exact (loadOrGenerate_restarts found starts next).trans loaded

/-- Where a start that finds no file can fail: before the file is there, with a part of the key in
    it, or with all of it. -/
theorem loadOrGenerate_failed {place : KeyPlace} (fresh : place.file = none) {start : Start} {done : List FileStep}
    (cut : done <+: steps start.parts) :
    (place.after start.umask done).file = none ∨
      (∀ starts next, ∃ n < 32,
        (loadOrGenerate (restarts (place.after start.umask done) starts) next).1 = .error (invalidLength n)) ∨
      (place.after start.umask done).file.isSome = true ∧ load (place.after start.umask done) = .ok start.key := by
  rcases cut_spec start.umask place cut with ⟨-, same⟩ | ⟨touched, begins, mode, -, found⟩
  · exact .inl (same.trans fresh)
  · by_cases whole : written done = start.key.toBytes.bytes
    · refine .inr (.inr ⟨congrArg Option.isSome found, ?_⟩)
      rw [load_of_file found, whole]
      exact parse_toBytes start.key
    · refine .inr (.inl fun starts next => ⟨_, length_written_lt begins whole, ?_⟩)
      exact torn_forever start.umask place cut ⟨touched, whole⟩ starts next

/-- A start that finds no file decides about all later ones. It fails and leaves no file; or it fails,
    and no later start succeeds; or every later start has its key, also if it has failed itself. -/
theorem start_decides (place : KeyPlace) (fresh : place.file = none) (start : Start) :
    let result := (loadOrGenerate place start).1
    let left := (loadOrGenerate place start).2
    ((∃ e, result = .error (.io (.other e))) ∧ (left.file = none ∨
        ∀ starts next, ∃ n < 32, (loadOrGenerate (restarts left starts) next).1 = .error (invalidLength n))) ∨
      ((∃ e, result = .error (.io (.other e))) ∨ result = .ok start.key) ∧
        ∀ starts next, (loadOrGenerate (restarts left starts) next).1 = .ok start.key := by
  have missing : ¬ place.file.isSome = true := by simp [fresh]
  have kept : ∀ {left : KeyPlace}, left.file.isSome = true → load left = .ok start.key → ∀ starts next,
      (loadOrGenerate (restarts left starts) next).1 = .ok start.key :=
    fun found loaded starts next => (loadOrGenerate_restarts found starts next).trans loaded
  dsimp only
  rcases save_cases start.umask place start.parts start.failing with saved | ⟨e, done, cut, failed⟩
  · have ran : loadOrGenerate place start = (.ok start.key, place.after start.umask (steps start.parts)) := by
      rw [loadOrGenerate, if_neg missing, saved]
    rw [ran]
    exact .inr ⟨.inr rfl, kept (congrArg Option.isSome (file_after_steps ..)) (load_after_steps ..)⟩
  · have ran : loadOrGenerate place start = (.error (.io (.other e)), place.after start.umask done) := by
      rw [loadOrGenerate, if_neg missing, failed]
    rw [ran]
    rcases loadOrGenerate_failed fresh cut with none | torn | ⟨found, loaded⟩
    · exact .inl ⟨⟨e, rfl⟩, .inl none⟩
    · exact .inl ⟨⟨e, rfl⟩, .inr torn⟩
    · exact .inr ⟨.inl ⟨e, rfl⟩, kept found loaded⟩

/-- The permissions cannot be set: the start fails, and the next one has its key. -/
theorem start_decides_without_permissions :
    (loadOrGenerate newPlace ⟨0o022#9, newKey, newKey.whole, some (3, "EPERM")⟩).1 = .error (.io (.other "EPERM")) ∧
      (loadOrGenerate (loadOrGenerate newPlace ⟨0o022#9, newKey, newKey.whole, some (3, "EPERM")⟩).2
        ⟨0o022#9, oldKey, oldKey.whole, none⟩).1 = .ok newKey := by
  have failed : (loadOrGenerate newPlace ⟨0o022#9, newKey, newKey.whole, some (3, "EPERM")⟩).1 =
      .error (.io (.other "EPERM")) := rfl
  refine ⟨failed, ?_⟩
  rcases start_decides newPlace rfl ⟨0o022#9, newKey, newKey.whole, some (3, "EPERM")⟩ with
    ⟨-, none | torn⟩ | ⟨-, kept⟩
  · cases none
  · obtain ⟨n, -, refused⟩ := torn [] ⟨0o022#9, oldKey, oldKey.whole, none⟩
    cases refused
  · exact kept [] _

end Restarts

end IdentityStorage

end BridgeOS
