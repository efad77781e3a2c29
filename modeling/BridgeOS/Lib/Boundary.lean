import BridgeOS.Lib.Bytes
import BridgeOS.Lib.Text
import Mathlib.Data.Nat.Find
import Mathlib.Data.String.Basic

/-! # Cutting a text at a character boundary

A boundary is the size of a prefix. The last boundary at or before a limit is that of
the longest prefix that fits, and as no character takes more than four bytes, at most
three bytes of the limit are left unused.
-/

namespace Text

open String (utf8Len)

variable {text before : List Char} {limit position : Nat}

theorem length_utf8 (text : String) : (utf8 text).length = utf8Len text.toList := by
  rw [String.utf8Len_toList]
  rfl

theorem length_utf8_ofList (text : List Char) : (utf8 (String.ofList text)).length = utf8Len text := by
  rw [length_utf8, String.toList_ofList]

theorem isCharBoundary_iff :
    isCharBoundary text position = true ↔ ∃ before, before <+: text ∧ utf8Len before = position := by
  induction text generalizing position with
  | nil =>
      cases position with
      | zero => exact iff_of_true rfl ⟨[], List.prefix_refl _, rfl⟩
      | succ position => simp [isCharBoundary]
  | cons c rest ih =>
      cases position with
      | zero => exact iff_of_true rfl ⟨[], List.nil_prefix, rfl⟩
      | succ position =>
          rw [isCharBoundary, Bool.and_eq_true, decide_eq_true_iff, ih]
          · constructor
            · rintro ⟨fits, before, begins, size⟩
              refine ⟨c :: before, List.cons_prefix_cons.mpr ⟨rfl, begins⟩, ?_⟩
              rw [String.utf8Len_cons]
              omega
            · rintro ⟨before, begins, size⟩
              cases before with
              | nil => cases size
              | cons d before =>
                  obtain ⟨rfl, inside⟩ := List.cons_prefix_cons.mp begins
                  rw [String.utf8Len_cons] at size
                  exact ⟨by omega, before, inside, by omega⟩
          · exact Nat.succ_ne_zero _

theorem truncate_of_prefix (begins : before <+: text) : truncate text (utf8Len before) = before := by
  obtain ⟨after, rfl⟩ := begins
  induction before with
  | nil => cases after <;> rfl
  | cons c before ih =>
      have nonempty : utf8Len (c :: before) ≠ 0 := by
        rw [Ne, String.utf8Len_eq_zero]
        exact List.cons_ne_nil c before
      rw [List.cons_append, truncate]
      · rw [String.utf8Len_cons, Nat.add_sub_cancel, ih]
      · exact nonempty

theorem isCharBoundary_zero (text : List Char) : isCharBoundary text 0 = true :=
  isCharBoundary_iff.mpr ⟨[], List.nil_prefix, rfl⟩

/-- There always is a last boundary, if only the beginning. -/
theorem isCharBoundary_last (text : List Char) (limit : Nat) :
    isCharBoundary text (Nat.findGreatest (fun position => isCharBoundary text position = true) limit) =
      true :=
  Nat.findGreatest_spec (P := fun position => isCharBoundary text position = true) (Nat.zero_le limit)
    (isCharBoundary_zero text)

/-- A search that goes down one byte at a time finds it. -/
theorem eq_last_of_steps {search : Nat → Nat} (zero : search 0 = 0)
    (succ : ∀ limit, search (limit + 1) =
      if isCharBoundary text (limit + 1) then limit + 1 else search limit) (limit : Nat) :
    search limit = Nat.findGreatest (fun position => isCharBoundary text position = true) limit := by
  induction limit with
  | zero => exact zero
  | succ limit ih => rw [succ, ih, Nat.findGreatest_succ]

/-- What is left of a text that is cut at the last boundary within the limit. -/
def cut (text : List Char) (limit : Nat) : List Char :=
  truncate text (Nat.findGreatest (fun position => isCharBoundary text position = true) limit)

theorem cut_spec (text : List Char) (limit : Nat) :
    cut text limit <+: text ∧
      utf8Len (cut text limit) =
        Nat.findGreatest (fun position => isCharBoundary text position = true) limit := by
  obtain ⟨before, begins, size⟩ := isCharBoundary_iff.mp (isCharBoundary_last text limit)
  rw [cut, ← size, truncate_of_prefix begins]
  exact ⟨begins, rfl⟩

theorem utf8Len_cut_le (text : List Char) (limit : Nat) : utf8Len (cut text limit) ≤ limit := by
  rw [(cut_spec text limit).2]
  exact Nat.findGreatest_le limit

/-- No prefix that fits is longer. -/
theorem prefix_cut (begins : before <+: text) (fits : utf8Len before ≤ limit) :
    before <+: cut text limit := by
  obtain ⟨shorter, size⟩ := cut_spec text limit
  have least : utf8Len before ≤ utf8Len (cut text limit) := by
    rw [size]
    exact Nat.le_findGreatest fits (isCharBoundary_iff.mpr ⟨before, begins, rfl⟩)
  rcases List.prefix_or_prefix_of_prefix begins shorter with inside | outside
  · exact inside
  · obtain ⟨rest, rfl⟩ := outside
    rw [String.utf8Len_append] at least
    have nothing : rest = [] := String.utf8Len_eq_zero.mp (by omega)
    rw [nothing, List.append_nil]

theorem cut_of_fits (fits : utf8Len text ≤ limit) : cut text limit = text :=
  (cut_spec text limit).1.eq_of_length_le (prefix_cut (List.prefix_refl text) fits).length_le

theorem le_utf8Len_cut (long : limit ≤ utf8Len text) : limit ≤ utf8Len (cut text limit) + 3 := by
  by_contra short
  obtain ⟨rest, split⟩ := (cut_spec text limit).1
  cases rest with
  | nil =>
      rw [List.append_nil] at split
      rw [split] at short
      omega
  | cons c rest =>
      have begins : cut text limit ++ [c] <+: text := ⟨rest, (List.append_assoc ..).trans split⟩
      have size := c.utf8Size_le_four
      have fits : utf8Len (cut text limit ++ [c]) ≤ limit := by
        rw [String.utf8Len_append, String.utf8Len_cons, String.utf8Len_nil]
        omega
      have longer := (prefix_cut begins fits).length_le
      rw [List.length_append, List.length_singleton] at longer
      omega

/-- The longest beginning of a text that fits. -/
structure LongestPrefix (limit : Nat) (text short : String) : Prop where
  begins : short.toList <+: text.toList
  fits : (utf8 short).length ≤ limit
  longest : ∀ other : String, other.toList <+: text.toList → (utf8 other).length ≤ limit →
    other.toList <+: short.toList

theorem longestPrefix_cut (limit : Nat) (text : String) :
    LongestPrefix limit text (String.ofList (cut text.toList limit)) := by
  refine ⟨?_, ?_, fun other begins fits => ?_⟩
  · rw [String.toList_ofList]
    exact (cut_spec text.toList limit).1
  · rw [length_utf8_ofList]
    exact utf8Len_cut_le text.toList limit
  · rw [length_utf8] at fits
    rw [String.toList_ofList]
    exact prefix_cut begins fits

theorem le_length_cut {limit : Nat} {text : String} (shorter : String.ofList (cut text.toList limit) ≠ text) :
    limit ≤ (utf8 (String.ofList (cut text.toList limit))).length + 3 := by
  rw [length_utf8_ofList]
  by_cases fits : utf8Len text.toList ≤ limit
  · rw [cut_of_fits fits, String.ofList_toList] at shorter
    exact absurd rfl shorter
  · exact le_utf8Len_cut (Nat.le_of_not_le fits)

end Text
