import Mathlib.Data.List.Basic
import Mathlib.Tactic.Common

/-! # UTF-16

Code units of a text, and the reading of code units that puts a replacement
character where they are not those of a text.
-/

namespace Utf16

/-- One unit, or a pair of surrogates for a character beyond the first plane. -/
def encodeChar (c : Char) : List UInt16 :=
  if c.toNat < 0x10000 then [UInt16.ofNat c.toNat]
  else [UInt16.ofNat (0xD800 + (c.toNat - 0x10000) / 0x400),
    UInt16.ofNat (0xDC00 + (c.toNat - 0x10000) % 0x400)]

def encode (text : List Char) : List UInt16 := text.flatMap encodeChar

def replacement : Char := '�'

/-- A leading surrogate takes the trailing one behind it along; every other surrogate
    is replaced. -/
def decodeLossy : List UInt16 → List Char
  | [] => []
  | unit :: rest =>
      if unit.toNat < 0xD800 ∨ 0xDFFF < unit.toNat then Char.ofNat unit.toNat :: decodeLossy rest
      else if 0xDC00 ≤ unit.toNat then replacement :: decodeLossy rest
      else match rest with
        | [] => [replacement]
        | next :: further =>
            if 0xDC00 ≤ next.toNat ∧ next.toNat ≤ 0xDFFF then
              Char.ofNat (0x10000 + (unit.toNat - 0xD800) * 0x400 + (next.toNat - 0xDC00)) ::
                decodeLossy further
            else replacement :: decodeLossy (next :: further)

/-- No character is a surrogate. -/
theorem toNat_cases (c : Char) : c.toNat < 0xD800 ∨ 0xDFFF < c.toNat ∧ c.toNat < 0x110000 := by
  have valid := c.valid
  unfold UInt32.isValidChar Nat.isValidChar at valid
  exact valid

theorem decodeLossy_encodeChar (c : Char) (rest : List UInt16) :
    decodeLossy (encodeChar c ++ rest) = c :: decodeLossy rest := by
  have range := toNat_cases c
  unfold encodeChar
  split
  · rename_i small
    have unit : (UInt16.ofNat c.toNat).toNat = c.toNat := by
      rw [UInt16.toNat_ofNat', Nat.mod_eq_of_lt small]
    rw [List.singleton_append, decodeLossy.eq_def]
    dsimp only
    rw [unit, if_pos (by omega), Char.ofNat_toNat]
  · rename_i large
    have leading : (UInt16.ofNat (0xD800 + (c.toNat - 0x10000) / 0x400)).toNat =
        0xD800 + (c.toNat - 0x10000) / 0x400 := by
      rw [UInt16.toNat_ofNat', Nat.mod_eq_of_lt (by omega)]
    have trailing : (UInt16.ofNat (0xDC00 + (c.toNat - 0x10000) % 0x400)).toNat =
        0xDC00 + (c.toNat - 0x10000) % 0x400 := by
      rw [UInt16.toNat_ofNat', Nat.mod_eq_of_lt (by omega)]
    have joined : 0x10000 + (0xD800 + (c.toNat - 0x10000) / 0x400 - 0xD800) * 0x400 +
        (0xDC00 + (c.toNat - 0x10000) % 0x400 - 0xDC00) = c.toNat := by omega
    rw [List.cons_append, List.singleton_append, decodeLossy.eq_def]
    dsimp only
    rw [leading, trailing, if_neg (by omega), if_neg (by omega), if_pos (by omega), joined,
      Char.ofNat_toNat]

/-- What was written is read. -/
theorem decodeLossy_encode (text : List Char) : decodeLossy (encode text) = text := by
  induction text with
  | nil => rfl
  | cons c rest ih => rw [encode, List.flatMap_cons, ← encode, decodeLossy_encodeChar, ih]

/-- Only the null character has a unit of zero. -/
theorem zero_mem_encodeChar {c : Char} : 0 ∈ encodeChar c ↔ c = '\x00' := by
  have range := toNat_cases c
  constructor
  · unfold encodeChar
    split
    · rename_i small
      intro zero
      have unit : (UInt16.ofNat c.toNat).toNat = c.toNat := by
        rw [UInt16.toNat_ofNat', Nat.mod_eq_of_lt small]
      rw [← List.mem_singleton.mp zero] at unit
      exact Char.toNat_inj.mp unit.symm
    · intro zero
      exfalso
      rw [List.mem_cons, List.mem_singleton] at zero
      rcases zero with leading | trailing
      · have unit := congrArg UInt16.toNat leading
        rw [UInt16.toNat_ofNat', Nat.mod_eq_of_lt (by omega), UInt16.toNat_zero] at unit
        omega
      · have unit := congrArg UInt16.toNat trailing
        rw [UInt16.toNat_ofNat', Nat.mod_eq_of_lt (by omega), UInt16.toNat_zero] at unit
        omega
  · rintro rfl
    decide

/-- Reading a text with a terminator up to the first zero unit gives the text up to its
    first null character. -/
theorem takeWhile_encode (text : List Char) (rest : List UInt16) :
    (encode text ++ 0 :: rest).takeWhile (· ≠ 0) = encode (text.takeWhile (· ≠ '\x00')) := by
  induction text with
  | nil => simp [encode]
  | cons c text ih =>
      rw [encode, List.flatMap_cons, ← encode, List.append_assoc]
      by_cases null : c = '\x00'
      · subst null
        simp [encode, encodeChar]
      · have units : ∀ unit ∈ encodeChar c, decide (unit ≠ 0) = true := by
          intro unit member
          refine decide_eq_true ?_
          rintro rfl
          exact null (zero_mem_encodeChar.mp member)
        rw [List.takeWhile_append_of_pos units, ih, List.takeWhile_cons_of_pos (by simpa using null),
          encode, encode, List.flatMap_cons]

end Utf16
