import BridgeOS.Lib.Hex
import Mathlib.Data.Nat.Digits.Defs

/-! # Numbers in hexadecimal

As many digits as the number has, and one for zero. Reading them multiplies and adds,
and gives up where the number gets too large.
-/

namespace Hex

variable {n bound : Nat}

/-- The digits of a number, the lowest first. -/
def numerals (n : Nat) : List Nat := if n = 0 then [0] else Nat.digits 16 n

def lower (n : Nat) : String := String.ofList ((numerals n).reverse.map digit)

def accumulate (bound value : Nat) (c : Char) : Option Nat := do
  let digit ← value? c
  if 16 * value + digit < bound then some (16 * value + digit) else none

theorem numerals_ne_nil (n : Nat) : numerals n ≠ [] := by
  rw [numerals]
  split
  · exact List.cons_ne_nil _ _
  · rename_i nonzero
    exact Nat.digits_ne_nil_iff_ne_zero.mpr nonzero

theorem lt_of_mem_numerals {d : Nat} (member : d ∈ numerals n) : d < 16 := by
  rw [numerals] at member
  split at member
  · rw [List.mem_singleton.mp member]
    decide
  · exact Nat.digits_lt_base (by decide) member

theorem ofDigits_numerals (n : Nat) : Nat.ofDigits 16 (numerals n) = n := by
  rw [numerals]
  split
  · rename_i zero
    rw [zero, Nat.ofDigits_singleton]
  · exact Nat.ofDigits_digits 16 n

/-- No sign is taken for a digit. -/
theorem digit_ne_plus {d : Nat} (small : d < 16) : digit d ≠ '+' := by
  intro same
  have read := value?_digit small
  rw [same] at read
  cases read

/-- The highest digit comes first, and none of the numbers on the way is larger than the last. -/
theorem foldlM_accumulate {digits : List Nat} (small : ∀ d ∈ digits, d < 16)
    (fits : Nat.ofDigits 16 digits < bound) :
    (digits.reverse.map digit).foldlM (accumulate bound) 0 = some (Nat.ofDigits 16 digits) := by
  induction digits with
  | nil => rfl
  | cons d digits ih =>
      rw [Nat.ofDigits_cons] at fits ⊢
      have higher := ih (fun e member => small e (List.mem_cons_of_mem d member)) (by omega)
      rw [List.reverse_cons, List.map_append, List.foldlM_append, higher]
      have next : accumulate bound (Nat.ofDigits 16 digits) (digit d) = some (d + 16 * Nat.ofDigits 16 digits) := by
        simp [accumulate, value?_digit (small d List.mem_cons_self), Nat.add_comm, fits]
      simp [next]

theorem foldlM_lower (fits : n < bound) : (lower n).toList.foldlM (accumulate bound) 0 = some n := by
  rw [lower, String.toList_ofList, foldlM_accumulate (fun d => lt_of_mem_numerals), ofDigits_numerals]
  rwa [ofDigits_numerals]

theorem lower_starts (n : Nat) : ∃ c rest, (lower n).toList = c :: rest ∧ c ≠ '+' := by
  rw [lower, String.toList_ofList]
  rcases shape : (numerals n).reverse with _ | ⟨d, rest⟩
  · exact absurd (List.reverse_eq_nil_iff.mp shape) (numerals_ne_nil n)
  · have member : d ∈ numerals n := List.mem_reverse.mp (shape ▸ List.mem_cons_self)
    exact ⟨digit d, rest.map digit, rfl, digit_ne_plus (lt_of_mem_numerals member)⟩

end Hex
