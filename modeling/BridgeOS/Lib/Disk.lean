import BridgeOS.Lib.Bytes
import Mathlib.Logic.Function.Basic

/-! # A disk of named files

Names lead to files and files hold bytes. A handle is the file, not the name:
renaming keeps the file, and a handle opened earlier goes on writing to it.
The counter of unused files is a field of the disk together with the fact that
no name leads to an unused one, so a newly created file is always empty and
never shared with an older name.
-/

structure Disk (Name : Type) where
  file : Name → Option Nat
  content : Nat → Bytes
  unused : Nat
  allocated : ∀ name f, file name = some f → f < unused

namespace Disk

variable {Name : Type}

def empty : Disk Name := ⟨fun _ => none, fun _ => [], 0, by simp⟩

def read (d : Disk Name) (name : Name) : Option Bytes := (d.file name).map d.content

def store (d : Disk Name) (f : Nat) (bytes : Bytes) : Disk Name :=
  { d with content := Function.update d.content f bytes }

def setLen (d : Disk Name) (f n : Nat) : Disk Name := d.store f (resize 0 (d.content f) n)

def write (d : Disk Name) (f offset : Nat) (data : Bytes) : Disk Name :=
  d.store f (writeAt 0 (d.content f) offset data)

@[simp] theorem store_file (d : Disk Name) (f : Nat) (bytes : Bytes) :
    (d.store f bytes).file = d.file := rfl

@[simp] theorem store_content_self (d : Disk Name) (f : Nat) (bytes : Bytes) :
    (d.store f bytes).content f = bytes := by simp [store]

@[simp] theorem setLen_content (d : Disk Name) (f n : Nat) :
    (d.setLen f n).content f = resize 0 (d.content f) n := store_content_self ..

@[simp] theorem write_file (d : Disk Name) (f offset : Nat) (data : Bytes) :
    (d.write f offset data).file = d.file := rfl

@[simp] theorem write_content (d : Disk Name) (f offset : Nat) (data : Bytes) :
    (d.write f offset data).content f = writeAt 0 (d.content f) offset data :=
  store_content_self ..

/-- A write reaches the name of its file and no other one. -/
theorem read_write_of_ne {d : Disk Name} {f : Nat} {name : Name} (other : d.file name ≠ some f)
    (offset : Nat) (data : Bytes) : (d.write f offset data).read name = d.read name := by
  unfold read
  rw [write_file]
  cases found : d.file name with
  | none => rfl
  | some g =>
      have apart : g ≠ f := fun same => other (found.trans (congrArg some same))
      simp [write, store, apart]

variable [DecidableEq Name]

/-- A disk with one file. -/
def single (name : Name) (bytes : Bytes) : Disk Name where
  file other := if other = name then some 0 else none
  content _ := bytes
  unused := 1
  allocated := by
    intro other f named
    split at named <;> cases named
    exact Nat.one_pos

@[simp] theorem read_single (name : Name) (bytes : Bytes) :
    (single name bytes).read name = some bytes := by simp [read, single]

/-- Open for reading and writing, creating an empty file when there is none. -/
def openOrCreate (d : Disk Name) (name : Name) : Nat × Disk Name :=
  match d.file name with
  | some f => (f, d)
  | none => (d.unused,
      { file := Function.update d.file name (some d.unused)
        content := Function.update d.content d.unused []
        unused := d.unused + 1
        allocated := by
          intro other f found
          rw [Function.update_apply] at found
          split at found
          · cases found
            exact Nat.lt_succ_self _
          · exact Nat.lt_succ_of_lt (d.allocated other f found) })

/-- Move the file under `source` to `target`, replacing what was there.
    `none` when there is nothing to move. -/
def rename (d : Disk Name) (source target : Name) : Option (Disk Name) :=
  match found : d.file source with
  | none => none
  | some f => some
      { d with
        file := Function.update (Function.update d.file source none) target (some f)
        allocated := by
          intro name g named
          simp only [Function.update_apply] at named
          split at named
          · cases named
            exact d.allocated source f found
          · split at named
            · cases named
            · exact d.allocated name g named }

theorem openOrCreate_spec (d : Disk Name) (name : Name) :
    (d.openOrCreate name).2.file name = some (d.openOrCreate name).1 ∧
      (d.openOrCreate name).2.content (d.openOrCreate name).1 = (d.read name).getD [] := by
  unfold openOrCreate read
  split <;> rename_i found
  · simp [found]
  · simp [found]

/-- The file that is opened was under the name, or is a new one. -/
theorem openOrCreate_handle (d : Disk Name) (name : Name) :
    (d.file name = some (d.openOrCreate name).1 ∨ (d.openOrCreate name).1 = d.unused) ∧
      (d.openOrCreate name).1 < (d.openOrCreate name).2.unused ∧ d.unused ≤ (d.openOrCreate name).2.unused := by
  unfold openOrCreate
  split <;> rename_i found
  · exact ⟨.inl found, d.allocated _ _ found, Nat.le_refl _⟩
  · exact ⟨.inr rfl, Nat.lt_succ_self _, Nat.le_succ _⟩

theorem file_openOrCreate {d : Disk Name} {name other : Name} {f : Nat}
    (named : (d.openOrCreate name).2.file other = some f) :
    d.file other = some f ∨ other = name ∧ f = (d.openOrCreate name).1 := by
  unfold openOrCreate at named ⊢
  split at named <;> rename_i found
  · exact .inl named
  · dsimp only at named ⊢
    rw [Function.update_apply] at named
    split at named <;> rename_i same
    · exact .inr ⟨same, (Option.some.inj named).symm⟩
    · exact .inl named

/-- The target is the only name that leads to another file than before. -/
theorem file_rename {d d' : Disk Name} {source target : Name} (renamed : d.rename source target = some d') :
    d'.unused = d.unused ∧ ∃ f, d.file source = some f ∧ ∀ name g, d'.file name = some g →
      name = target ∧ g = f ∨ name ≠ target ∧ name ≠ source ∧ d.file name = some g := by
  unfold rename at renamed
  split at renamed
  · cases renamed
  · rename_i f found
    cases renamed
    refine ⟨rfl, f, found, fun name g named => ?_⟩
    simp only [Function.update_apply] at named
    split at named <;> rename_i atTarget
    · exact .inl ⟨atTarget, (Option.some.inj named).symm⟩
    · split at named <;> rename_i atSource
      · cases named
      · exact .inr ⟨atTarget, atSource, named⟩

section Unlinked

variable {d : Disk Name} (unlinked : ∀ a b f, d.file a = some f → d.file b = some f → a = b)

include unlinked

/-- No other name leads to the file that is opened. -/
theorem eq_of_file_opened {name other : Name} (leads : d.file other = some (d.openOrCreate name).1) :
    other = name := by
  rcases (d.openOrCreate_handle name).1 with found | new
  · exact unlinked _ _ _ leads found
  · exact absurd (d.allocated _ _ leads) (Nat.not_lt.mpr (Nat.le_of_eq new.symm))

theorem openOrCreate_unlinked (name a b : Name) (f : Nat) (first : (d.openOrCreate name).2.file a = some f)
    (second : (d.openOrCreate name).2.file b = some f) : a = b := by
  rcases file_openOrCreate first with old | ⟨rfl, rfl⟩
  · rcases file_openOrCreate second with old' | ⟨rfl, rfl⟩
    · exact unlinked a b f old old'
    · exact eq_of_file_opened unlinked old
  · rcases file_openOrCreate second with old' | ⟨rfl, -⟩
    · exact (eq_of_file_opened unlinked old').symm
    · rfl

theorem rename_unlinked {d' : Disk Name} {source target : Name} (renamed : d.rename source target = some d')
    (a b : Name) (f : Nat) (first : d'.file a = some f) (second : d'.file b = some f) : a = b := by
  obtain ⟨-, moved, found, named⟩ := file_rename renamed
  rcases named a f first with ⟨rfl, rfl⟩ | ⟨-, apart, old⟩
  · rcases named b f second with ⟨rfl, -⟩ | ⟨-, apart', old'⟩
    · rfl
    · exact absurd (unlinked _ _ _ old' found) apart'
  · rcases named b f second with ⟨rfl, rfl⟩ | ⟨-, -, old'⟩
    · exact absurd (unlinked _ _ _ old found) apart
    · exact unlinked a b f old old'

end Unlinked

/-- The target holds the moved bytes and the source is gone. -/
theorem rename_spec {d : Disk Name} {source target : Name} {f : Nat} (different : source ≠ target)
    (found : d.file source = some f) :
    ∃ d', d.rename source target = some d' ∧ d'.read target = some (d.content f) ∧
      d'.read source = none := by
  unfold rename
  split
  · simp_all
  · rename_i g named
    cases found.symm.trans named
    refine ⟨_, rfl, ?_, ?_⟩
    · simp [read]
    · simp [read, Function.update_of_ne different]

end Disk
