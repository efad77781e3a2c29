import BridgeOS.Lib.Bytes
import Mathlib.Tactic.IntervalCases

/-! # Hexadecimal text

Lower-case output, either case accepted on input, as the usual codecs do. Only
the direction `decode ∘ encode` is an identity: two spellings of one byte string
decode alike.
-/

namespace Hex

def digit (n : Nat) : Char := if n < 10 then Char.ofNat (48 + n) else Char.ofNat (87 + n)

def value? (c : Char) : Option Nat :=
  if 48 ≤ c.toNat ∧ c.toNat ≤ 57 then some (c.toNat - 48)
  else if 97 ≤ c.toNat ∧ c.toNat ≤ 102 then some (c.toNat - 87)
  else if 65 ≤ c.toNat ∧ c.toNat ≤ 70 then some (c.toNat - 55)
  else none

def encodeChars : Bytes → List Char
  | [] => []
  | b :: rest => digit (b.toNat / 16) :: digit (b.toNat % 16) :: encodeChars rest

/-- An odd number of digits and every other character are rejected. -/
def decodeChars : List Char → Option Bytes
  | [] => some []
  | [_] => none
  | hi :: lo :: rest => do
      let h ← value? hi
      let l ← value? lo
      let bytes ← decodeChars rest
      some (UInt8.ofNat (16 * h + l) :: bytes)

def encode (bytes : Bytes) : String := String.ofList (encodeChars bytes)

def decode (text : String) : Option Bytes := decodeChars text.toList

theorem value?_digit {n : Nat} (small : n < 16) : value? (digit n) = some n := by
  interval_cases n <;> decide

theorem decodeChars_encodeChars (bytes : Bytes) : decodeChars (encodeChars bytes) = some bytes := by
  induction bytes with
  | nil => rfl
  | cons b rest ih =>
      have bound : b.toNat < 256 := b.toNat_lt
      have joined : UInt8.ofNat (16 * (b.toNat / 16) + b.toNat % 16) = b := by
        rw [Nat.div_add_mod]
        exact UInt8.ofNat_toNat
      simp only [encodeChars, decodeChars, value?_digit (show b.toNat / 16 < 16 by omega),
        value?_digit (Nat.mod_lt b.toNat (by decide : 16 > 0)), ih, Option.bind_eq_bind,
        Option.bind_some, joined]

@[simp] theorem decode_encode (bytes : Bytes) : decode (encode bytes) = some bytes := by
  simp only [decode, encode, String.toList_ofList, decodeChars_encodeChars]

theorem length_encodeChars (bytes : Bytes) : (encodeChars bytes).length = 2 * bytes.length := by
  induction bytes with
  | nil => rfl
  | cons b rest ih =>
      simp only [encodeChars, List.length_cons, ih]
      omega

/-- A character takes four bytes at most. -/
theorem length_utf8_encode_le (bytes : Bytes) : (utf8 (encode bytes)).length ≤ 8 * bytes.length := by
  have size : ∀ chars : List Char, chars.utf8Encode.size ≤ 4 * chars.length := by
    intro chars
    induction chars with
    | nil => exact Nat.le_refl 0
    | cons c rest ih =>
        rw [List.utf8Encode_cons, ByteArray.size_append, List.length_cons]
        have one : (List.utf8Encode [c]).size ≤ 4 := by
          rw [List.utf8Encode_singleton]
          simpa using Char.utf8Size_le_four c
        omega
  have chars := size (encodeChars bytes)
  rw [length_encodeChars] at chars
  have same : (utf8 (encode bytes)).length = (encodeChars bytes).utf8Encode.size := rfl
  omega

end Hex
