import BridgeOS.Lib.Bytes
import Mathlib.Algebra.Group.Nat.Defs

/-! # The postcard wire format

Values are written without field names or padding: integers as little-endian
groups of seven bits, sequences behind their length, alternatives behind their
index. A codec reads a value off the front of a byte string and leaves the rest.
The one law says that what was written is read back, whatever follows it; it is
asked only of encodings whose length is a machine integer.
-/

structure Codec (α : Type) where
  encode : α → Bytes
  decode : Bytes → Option (α × Bytes)
  decode_encode : ∀ a rest, (encode a).length < 2 ^ 64 → decode (encode a ++ rest) = some (a, rest)

namespace Codec

variable {α β : Type}

section Varints

/-- At most `k` groups; the top bit of a byte says that another one follows. -/
def encodeVarint : Nat → Nat → Bytes
  | 0, _ => []
  | k + 1, n =>
      if n < 128 then [UInt8.ofNat n] else UInt8.ofNat (n % 128 + 128) :: encodeVarint k (n / 128)

theorem length_encodeVarint_le (k n : Nat) : (encodeVarint k n).length ≤ k := by
  induction k generalizing n with
  | zero => exact Nat.le_refl _
  | succ k ih =>
      rw [encodeVarint]
      split
      · simp
      · simpa using ih (n / 128)

/-- The last possible byte may not exceed `last`; a longer number is malformed, a
    shorter number with superfluous zero groups is not. -/
def decodeVarint (last : Nat) : Nat → Bytes → Option (Nat × Bytes)
  | 0, _ => none
  | _ + 1, [] => none
  | k + 1, b :: rest =>
      if b.toNat < 128 then
        if k = 0 ∧ last < b.toNat then none else some (b.toNat, rest)
      else (decodeVarint last k rest).map fun found => (b.toNat - 128 + 128 * found.1, found.2)

theorem decodeVarint_encodeVarint {last k n : Nat} (rest : Bytes)
    (small : n < 128 ^ k * (last + 1)) (group : last < 128) :
    decodeVarint last (k + 1) (encodeVarint (k + 1) n ++ rest) = some (n, rest) := by
  induction k generalizing n with
  | zero =>
      rw [Nat.pow_zero, Nat.one_mul] at small
      have byte : (UInt8.ofNat n).toNat = n := by
        rw [UInt8.toNat_ofNat', Nat.mod_eq_of_lt (by omega)]
      simp [encodeVarint, decodeVarint, show n < 128 by omega, byte, show ¬ last < n by omega]
  | succ k ih =>
      rw [encodeVarint]
      split
      · rename_i short
        have byte : (UInt8.ofNat n).toNat = n := by
          rw [UInt8.toNat_ofNat', Nat.mod_eq_of_lt (by omega)]
        simp [decodeVarint, short, byte]
      · have byte : (UInt8.ofNat (n % 128 + 128)).toNat = n % 128 + 128 := by
          rw [UInt8.toNat_ofNat', Nat.mod_eq_of_lt (by omega)]
        have next := ih (n := n / 128) (by
          rw [Nat.div_lt_iff_lt_mul (by decide)]
          rw [Nat.pow_succ, Nat.mul_right_comm] at small
          exact small)
        rw [List.cons_append, decodeVarint, byte, if_neg (by omega), next]
        simp only [Option.map_some, Option.some.injEq, Prod.mk.injEq, and_true]
        omega

/-- A varint of `k + 1` bytes as a codec for the numbers below `128 ^ k * (last + 1)`. -/
def varint (last k : Nat) (group : last < 128) : Codec (Fin (128 ^ k * (last + 1))) where
  encode n := encodeVarint (k + 1) n
  decode bytes := (decodeVarint last (k + 1) bytes).bind fun found =>
    if small : found.1 < 128 ^ k * (last + 1) then some (⟨found.1, small⟩, found.2) else none
  decode_encode := by
    intro n rest _
    simp [decodeVarint_encodeVarint rest n.isLt group]

end Varints

/-- The same bytes for another type. -/
def map (c : Codec α) (forth : α → β) (back : β → α) (inverse : ∀ b, forth (back b) = b) : Codec β where
  encode b := c.encode (back b)
  decode bytes := (c.decode bytes).map fun found => (forth found.1, found.2)
  decode_encode := by
    intro b rest fits
    simp [c.decode_encode (back b) rest fits, inverse]

/-- The same bytes for the values that pass a check. -/
def filterMap (c : Codec α) (forth : α → Option β) (back : β → α)
    (inverse : ∀ b, forth (back b) = some b) : Codec β where
  encode b := c.encode (back b)
  decode bytes := (c.decode bytes).bind fun found => (forth found.1).map fun b => (b, found.2)
  decode_encode := by
    intro b rest fits
    simp [c.decode_encode (back b) rest fits, inverse]

def u16 : Codec UInt16 :=
  (varint 3 2 (by decide)).map (fun n => UInt16.ofNat n) (fun n => ⟨n.toNat, n.toNat_lt⟩)
    (fun n => UInt16.ofNat_toNat)

def u32 : Codec UInt32 :=
  (varint 15 4 (by decide)).map (fun n => UInt32.ofNat n) (fun n => ⟨n.toNat, n.toNat_lt⟩)
    (fun n => UInt32.ofNat_toNat)

def u64 : Codec UInt64 :=
  (varint 1 9 (by decide)).map (fun n => UInt64.ofNat n) (fun n => ⟨n.toNat, n.toNat_lt⟩)
    (fun n => UInt64.ofNat_toNat)

def byte : Codec UInt8 where
  encode b := [b]
  decode
    | [] => none
    | b :: rest => some (b, rest)
  decode_encode _ _ _ := rfl

/-- One value after the other. -/
def pair (c : Codec α) (d : Codec β) : Codec (α × β) where
  encode p := c.encode p.1 ++ d.encode p.2
  decode bytes := (c.decode bytes).bind fun first =>
    (d.decode first.2).map fun second => ((first.1, second.1), second.2)
  decode_encode := by
    intro p rest fits
    rw [List.length_append] at fits
    rw [List.append_assoc, c.decode_encode p.1 _ (by omega)]
    simp [d.decode_encode p.2 rest (by omega)]

def unit : Codec Unit where
  encode _ := []
  decode bytes := some ((), bytes)
  decode_encode _ _ _ := rfl

/-- An array whose length both sides know. -/
def fixed (n : Nat) : Codec (FixedBytes n) where
  encode a := a.bytes
  decode bytes := (FixedBytes.ofBytes? n (bytes.take n)).map fun a => (a, bytes.drop n)
  decode_encode := by
    intro a rest _
    have taken : (a.bytes ++ rest).take n = a.bytes := List.take_left' a.size
    have dropped : (a.bytes ++ rest).drop n = rest := List.drop_left' a.size
    simp [taken, dropped]

/-- Bytes behind their length. -/
def bytes : Codec Bytes where
  encode data := encodeVarint 10 data.length ++ data
  decode input := (decodeVarint 1 10 input).bind fun found =>
    if found.1 ≤ found.2.length then some (found.2.take found.1, found.2.drop found.1) else none
  decode_encode := by
    intro data rest fits
    rw [List.length_append] at fits
    rw [List.append_assoc, decodeVarint_encodeVarint (k := 9) (data ++ rest) (by omega) (by decide)]
    simp

/-- Text is its UTF-8 bytes; other bytes are rejected. -/
def string : Codec String :=
  bytes.filterMap (fun data => String.fromUTF8? ⟨data.toArray⟩) utf8 (by
    intro s
    have array : ByteArray.mk (utf8 s).toArray = s.toByteArray :=
      congrArg ByteArray.mk Array.toArray_toList
    rw [array, String.fromUTF8?, dif_pos s.isValidUTF8]
    rfl)

def bool : Codec Bool :=
  byte.filterMap (fun b => if b = 0 then some false else if b = 1 then some true else none)
    (fun b => if b then 1 else 0) (by decide)

def option (c : Codec α) : Codec (Option α) where
  encode
    | none => [0]
    | some a => 1 :: c.encode a
  decode
    | [] => none
    | tag :: rest =>
        if tag = 0 then some (none, rest)
        else if tag = 1 then (c.decode rest).map fun found => (some found.1, found.2)
        else none
  decode_encode := by
    intro value rest fits
    cases value with
    | none => rfl
    | some a =>
        simp only [List.length_cons] at fits
        simp [c.decode_encode a rest (by omega)]

/-- How many bytes a value takes: from the first number to the second. -/
def Takes (c : Codec α) (a : α) (least most : Nat) : Prop :=
  least ≤ (c.encode a).length ∧ (c.encode a).length ≤ most

section Lengths

variable {c : Codec α} {d : Codec β} {a : α} {b : β} {least most least' most' : Nat}

theorem takes_varint (last k : Nat) (group : last < 128) (n : Fin (128 ^ k * (last + 1))) :
    (varint last k group).Takes n 0 (k + 1) :=
  ⟨Nat.zero_le _, length_encodeVarint_le (k + 1) n⟩

theorem Takes.map {forth : α → β} {back : β → α} {inverse : ∀ b, forth (back b) = b}
    (takes : c.Takes (back b) least most) : (c.map forth back inverse).Takes b least most := takes

theorem Takes.filterMap {forth : α → Option β} {back : β → α} {inverse : ∀ b, forth (back b) = some b}
    (takes : c.Takes (back b) least most) : (c.filterMap forth back inverse).Takes b least most := takes

theorem takes_u16 (n : UInt16) : u16.Takes n 0 3 := (takes_varint 3 2 (by decide) _).map

theorem takes_u32 (n : UInt32) : u32.Takes n 0 5 := (takes_varint 15 4 (by decide) _).map

theorem takes_u64 (n : UInt64) : u64.Takes n 0 10 := (takes_varint 1 9 (by decide) _).map

theorem takes_bool (b : Bool) : bool.Takes b 1 1 := ⟨Nat.le_refl 1, Nat.le_refl 1⟩

theorem Takes.pair (first : c.Takes a least most) (second : d.Takes b least' most') :
    (pair c d).Takes (a, b) (least + least') (most + most') := by
  rw [Takes, Codec.pair, List.length_append]
  exact ⟨Nat.add_le_add first.1 second.1, Nat.add_le_add first.2 second.2⟩

theorem takes_fixed {n : Nat} (a : FixedBytes n) : (fixed n).Takes a n n :=
  ⟨Nat.le_of_eq a.size.symm, Nat.le_of_eq a.size⟩

theorem takes_bytes (data : Bytes) : bytes.Takes data data.length (data.length + 10) := by
  have size := length_encodeVarint_le 10 data.length
  rw [Takes, bytes, List.length_append]
  omega

theorem takes_string (s : String) : string.Takes s (utf8 s).length ((utf8 s).length + 10) :=
  (takes_bytes (utf8 s)).filterMap

end Lengths

end Codec

/-- The bodies of an enumeration's variants, told apart by their index. -/
structure Variants (α : Type) where
  count : Nat
  index : α → Nat
  encode : α → Bytes
  decode : Nat → Bytes → Option (α × Bytes)
  index_lt : ∀ a, index a < count
  decode_encode : ∀ a rest, (encode a).length < 2 ^ 64 →
    decode (index a) (encode a ++ rest) = some (a, rest)

namespace Variants

variable {α β : Type}

/-- A last variant. -/
def single (c : Codec α) : Variants α where
  count := 1
  index _ := 0
  encode := c.encode
  decode
    | 0, bytes => c.decode bytes
    | _ + 1, _ => none
  index_lt _ := by decide
  decode_encode := c.decode_encode

/-- One more variant in front. -/
def cons (c : Codec α) (others : Variants β) : Variants (α ⊕ β) where
  count := others.count + 1
  index
    | .inl _ => 0
    | .inr b => others.index b + 1
  encode
    | .inl a => c.encode a
    | .inr b => others.encode b
  decode
    | 0, bytes => (c.decode bytes).map fun found => (.inl found.1, found.2)
    | i + 1, bytes => (others.decode i bytes).map fun found => (.inr found.1, found.2)
  index_lt := by
    rintro (a | b)
    · exact Nat.succ_pos _
    · exact Nat.succ_lt_succ (others.index_lt b)
  decode_encode := by
    rintro (a | b) rest fits
    · simp [c.decode_encode a rest fits]
    · simp [others.decode_encode b rest fits]

/-- An enumeration: the index of the variant, then its body. -/
def codec (variants : Variants α) (few : variants.count ≤ 128) : Codec α where
  encode a := Codec.encodeVarint 5 (variants.index a) ++ variants.encode a
  decode bytes := (Codec.decodeVarint 15 5 bytes).bind fun found => variants.decode found.1 found.2
  decode_encode := by
    intro a rest fits
    rw [List.length_append] at fits
    have small := variants.index_lt a
    rw [List.append_assoc, Codec.decodeVarint_encodeVarint (k := 4) _ (by omega) (by decide)]
    simpa using variants.decode_encode a rest (by omega)

theorem few_four_units :
    (cons Codec.unit (cons Codec.unit (cons Codec.unit (single Codec.unit)))).count ≤ 128 := by decide

/-- An alternative takes what its value takes, and its index. -/
theorem takes_codec {variants : Variants α} {few : variants.count ≤ 128} {a : α} {c : Codec β} {b : β}
    {least most : Nat} (takes : c.Takes b least most) (same : variants.encode a = c.encode b) :
    (variants.codec few).Takes a least (most + 5) := by
  have tag := Codec.length_encodeVarint_le 5 (variants.index a)
  obtain ⟨lower, upper⟩ := takes
  rw [Codec.Takes, codec, List.length_append, same]
  omega

end Variants
