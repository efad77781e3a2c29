import Mathlib.Data.List.Basic
import Mathlib.Tactic.Common

/-! # Lexical paths

Paths in the Unix form: a character string cut at `/`. Joining follows the
standard library: an absolute argument replaces the base, everything else is
appended, and `..` is kept as it stands. `location` forgets what a path walk
ignores (empty segments and `.`), so two spellings of one place are equal.
-/

structure PathBuf where
  chars : List Char
  deriving DecidableEq

namespace PathBuf

/-- The pieces between separators, empty ones included. -/
def segmentsOf : List Char → List (List Char)
  | [] => [[]]
  | c :: rest =>
      if c = '/' then [] :: segmentsOf rest
      else match segmentsOf rest with
        | [] => [[c]]
        | first :: others => (c :: first) :: others

/-- One move of a path walk. -/
inductive Step where
  | up
  | down (name : List Char)
  deriving DecidableEq

/-- Empty segments and `.` do not move. -/
def step? (segment : List Char) : Option Step :=
  if segment = [] ∨ segment = ['.'] then none
  else if segment = ['.', '.'] then some .up
  else some (.down segment)

/-- Where a path leads: from the root or from the current directory. -/
structure Location where
  rooted : Bool
  steps : List Step
  deriving DecidableEq

def segments (p : PathBuf) : List (List Char) := segmentsOf p.chars

def isAbsolute (p : PathBuf) : Bool := p.chars.head? == some '/'

def location (p : PathBuf) : Location := ⟨p.isAbsolute, p.segments.filterMap step?⟩

/-- `Path::join`: the separator is added only when the base does not end in one. -/
def join (base arg : PathBuf) : PathBuf :=
  if arg.isAbsolute then arg
  else match base.chars.getLast? with
    | none => arg
    | some last => if last = '/' then ⟨base.chars ++ arg.chars⟩ else ⟨base.chars ++ '/' :: arg.chars⟩

/-- An entry of `dir` itself, not of a directory below or above it. -/
def DirectChild (dir p : PathBuf) : Prop :=
  ∃ name, p.location = ⟨dir.location.rooted, dir.location.steps ++ [.down name]⟩

/-- The text behind the last separator. -/
def lastSegment (p : PathBuf) : List Char := p.segments.getLast?.getD []

/-- The segments in front of the last one. -/
def leading (p : PathBuf) : List (List Char) := p.segments.dropLast

/-- Add a suffix such as a file extension. -/
def appendSuffix (p : PathBuf) (suffix : List Char) : PathBuf := ⟨p.chars ++ suffix⟩

theorem segmentsOf_ne_nil (cs : List Char) : segmentsOf cs ≠ [] := by
  cases cs with
  | nil => simp [segmentsOf]
  | cons c rest =>
      simp only [segmentsOf]
      split
      · simp
      · split <;> simp

theorem segmentsOf_append_separator (a b : List Char) :
    segmentsOf (a ++ '/' :: b) = segmentsOf a ++ segmentsOf b := by
  induction a with
  | nil => simp [segmentsOf]
  | cons c rest ih =>
      simp only [List.cons_append, segmentsOf, ih]
      split
      · rfl
      · cases first : segmentsOf rest with
        | nil => exact absurd first (segmentsOf_ne_nil rest)
        | cons s others => simp

/-- A suffix without separators only grows the last segment. -/
theorem segmentsOf_append_suffix (a suffix : List Char) (plain : '/' ∉ suffix) :
    segmentsOf (a ++ suffix) =
      (segmentsOf a).dropLast ++ [(segmentsOf a).getLast?.getD [] ++ suffix] := by
  induction a with
  | nil =>
      simp only [List.nil_append, segmentsOf, List.dropLast_singleton, List.getLast?_singleton,
        Option.getD_some]
      induction suffix with
      | nil => rfl
      | cons c rest ih =>
          simp only [List.mem_cons, not_or] at plain
          simp only [segmentsOf, if_neg (Ne.symm plain.1), ih plain.2]
  | cons c rest ih =>
      simp only [List.cons_append, segmentsOf, ih]
      split
      · cases tail : segmentsOf rest with
        | nil => exact absurd tail (segmentsOf_ne_nil rest)
        | cons s others => simp [List.getLast?_cons_cons]
      · cases tail : segmentsOf rest with
        | nil => exact absurd tail (segmentsOf_ne_nil rest)
        | cons s others =>
            cases others with
            | nil => simp
            | cons t more => simp [List.getLast?_cons_cons]

theorem segments_eq (p : PathBuf) : p.segments = p.leading ++ [p.lastSegment] := by
  have nonempty : p.segments ≠ [] := segmentsOf_ne_nil p.chars
  unfold leading lastSegment
  rw [List.getLast?_eq_some_getLast nonempty, Option.getD_some, List.dropLast_append_getLast]

theorem segments_appendSuffix (p : PathBuf) {suffix : List Char} (plain : '/' ∉ suffix) :
    (p.appendSuffix suffix).segments = p.leading ++ [p.lastSegment ++ suffix] :=
  segmentsOf_append_suffix p.chars suffix plain

theorem isAbsolute_appendSuffix (p : PathBuf) {suffix : List Char} (plain : '/' ∉ suffix) :
    (p.appendSuffix suffix).isAbsolute = p.isAbsolute := by
  cases chars : p.chars with
  | cons c rest => simp [isAbsolute, appendSuffix, chars]
  | nil =>
      cases suffix with
      | nil => simp [isAbsolute, appendSuffix, chars]
      | cons c rest =>
          have different : c ≠ '/' := fun same => plain (same ▸ List.mem_cons_self)
          simp [isAbsolute, appendSuffix, chars, different]

/-- Joining a relative path walks on from where the base leads. -/
theorem location_join_relative {base arg : PathBuf} (relative : arg.isAbsolute = false) :
    (base.join arg).location =
      ⟨base.location.rooted, base.location.steps ++ arg.segments.filterMap step?⟩ := by
  unfold join
  rw [relative]
  cases last : base.chars.getLast? with
  | none =>
      have empty : base.chars = [] := List.getLast?_eq_none_iff.mp last
      simp [location, isAbsolute, segments, empty, segmentsOf, step?]
      simpa [isAbsolute] using relative
  | some c =>
      obtain ⟨front, split⟩ : ∃ front, base.chars = front ++ [c] := by
        obtain ⟨front, same⟩ := List.getLast?_eq_some_iff.mp last
        exact ⟨front, same⟩
      have head : ∀ tail, (base.chars ++ tail).head? = base.chars.head? := by
        intro tail
        rw [split]
        cases front <;> simp
      simp only [Bool.false_eq_true, if_false]
      split
      · rename_i slash
        subst slash
        simp only [location, isAbsolute, segments, head]
        rw [split, List.append_assoc, List.singleton_append, segmentsOf_append_separator,
          segmentsOf_append_separator]
        simp [segmentsOf, step?]
      · simp only [location, isAbsolute, segments, head, segmentsOf_append_separator,
          List.filterMap_append]

theorem join_absolute {base arg : PathBuf} (absolute : arg.isAbsolute = true) :
    base.join arg = arg := by simp [join, absolute]

/-- Both kinds of argument at once: only the place the walk starts from differs. -/
theorem location_join (base arg : PathBuf) :
    (base.join arg).location = ⟨arg.isAbsolute || base.location.rooted,
      (if arg.isAbsolute then [] else base.location.steps) ++ arg.segments.filterMap step?⟩ := by
  cases absolute : arg.isAbsolute with
  | false => simpa using location_join_relative absolute
  | true => simp [join_absolute absolute, location, absolute]

end PathBuf
