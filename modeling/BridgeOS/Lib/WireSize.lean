import BridgeOS.Lib.Postcard
import Mathlib.Data.Nat.Log

/-! # How long an encoding is

The exact length of each form of the wire format, from the lengths of its parts.
-/

namespace Codec

variable {α β : Type}

theorem length_encodeVarint (k n : Nat) : (encodeVarint (k + 1) n).length = min (Nat.log 128 n) k + 1 := by
  induction k generalizing n with
  | zero =>
      rw [encodeVarint]
      split
      · simp
      · simp [encodeVarint]
  | succ k ih =>
      rw [encodeVarint]
      split
      · rename_i short
        simp [Nat.log_of_lt short]
      · rename_i long
        have groups : Nat.log 128 n = Nat.log 128 (n / 128) + 1 :=
          Nat.log_of_one_lt_of_le (by decide) (Nat.le_of_not_lt long)
        rw [List.length_cons, ih, groups]
        omega

/-- A length, or a number of 64 bits, has ten groups of seven bits at most. -/
def varintSize (n : Nat) : Nat := min (Nat.log 128 n) 9 + 1

/-- So many bytes behind their number. -/
def lengthSize (n : Nat) : Nat := varintSize n + n

def bytesSize (data : Bytes) : Nat := lengthSize data.length

def textSize (text : String) : Nat := bytesSize (utf8 text)

def optionSize (size : α → Nat) : Option α → Nat
  | none => 1
  | some a => size a + 1

theorem varintSize_le (n : Nat) : varintSize n ≤ 10 := by
  rw [varintSize]
  omega

theorem length_u64 (n : UInt64) : (u64.encode n).length = varintSize n.toNat := length_encodeVarint 9 _

theorem length_bool (b : Bool) : (bool.encode b).length = 1 := rfl

theorem length_fixed {n : Nat} (a : FixedBytes n) : ((fixed n).encode a).length = n := a.size

theorem length_bytes (data : Bytes) : (bytes.encode data).length = bytesSize data := by
  rw [bytes, List.length_append, length_encodeVarint]
  rfl

theorem length_string (text : String) : (string.encode text).length = textSize text := length_bytes (utf8 text)

theorem length_pair (c : Codec α) (d : Codec β) (value : α × β) :
    ((pair c d).encode value).length = (c.encode value.1).length + (d.encode value.2).length :=
  List.length_append

theorem length_option {c : Codec α} {size : α → Nat} (sizes : ∀ a, (c.encode a).length = size a)
    (value : Option α) : ((option c).encode value).length = optionSize size value := by
  cases value with
  | none => rfl
  | some a => exact congrArg Nat.succ (sizes a)

end Codec

namespace Variants

variable {α : Type}

/-- An index is a single byte. -/
theorem length_codec (variants : Variants α) (few : variants.count ≤ 128) (a : α) :
    ((variants.codec few).encode a).length = (variants.encode a).length + 1 := by
  have small : Nat.log 128 (variants.index a) = 0 :=
    Nat.log_of_lt (Nat.lt_of_lt_of_le (variants.index_lt a) few)
  rw [codec, List.length_append, Codec.length_encodeVarint, small]
  omega

end Variants
