import Mathlib.Data.List.Basic
import Mathlib.Tactic.Common

/-! # Byte arrays of fixed length and in-place file contents

`FixedBytes n` is an array whose length is part of its type, so a nonce, a key
or a digest of the wrong size cannot be written down. File contents are plain
lists; `resize` and `writeAt` are the two ways a file handle changes them, with
the POSIX rule that a gap left by a write past the end reads as zeros.
-/

abbrev Bytes := List UInt8

/-- The UTF-8 bytes of a text. -/
def utf8 (text : String) : Bytes := text.toUTF8.data.toList

theorem utf8_append (a b : String) : utf8 (a ++ b) = utf8 a ++ utf8 b := by
  simp [utf8]

theorem utf8_inj {a b : String} : utf8 a = utf8 b ↔ a = b := by
  constructor
  · intro same
    exact String.toByteArray_inj.mp (ByteArray.ext (Array.toList_inj.mp same))
  · rintro rfl
    rfl

/-- An array of exactly `n` bytes. -/
structure FixedBytes (n : Nat) where
  bytes : Bytes
  size : bytes.length = n
  deriving DecidableEq

namespace FixedBytes

@[ext] theorem ext {n : Nat} {a b : FixedBytes n} (same : a.bytes = b.bytes) : a = b := by
  cases a
  cases b
  simp_all

/-- Every byte equal to `b`. -/
def fill (n : Nat) (b : UInt8) : FixedBytes n := ⟨List.replicate n b, List.length_replicate⟩

/-- Read an array back from a slice, rejecting every other length. -/
def ofBytes? (n : Nat) (bs : Bytes) : Option (FixedBytes n) :=
  if h : bs.length = n then some ⟨bs, h⟩ else none

@[simp] theorem ofBytes?_bytes {n : Nat} (a : FixedBytes n) : ofBytes? n a.bytes = some a := by
  simp [ofBytes?, a.size]

/-- Concatenations of arrays are split by their static lengths alone. -/
theorem append_inj {n : Nat} {a a' : FixedBytes n} {rest rest' : Bytes}
    (same : a.bytes ++ rest = a'.bytes ++ rest') : a = a' ∧ rest = rest' := by
  obtain ⟨left, right⟩ := List.append_inj same (a.size.trans a'.size.symm)
  exact ⟨FixedBytes.ext left, right⟩

end FixedBytes

section Contents

variable {α : Type} (zero : α)

/-- Cut to `n` elements, or extend with `zero` up to `n`. -/
def resize (l : List α) (n : Nat) : List α := l.take n ++ List.replicate (n - l.length) zero

/-- Overwrite from `offset` on. Writing nothing changes nothing, even past the end. -/
def writeAt (l : List α) (offset : Nat) (data : List α) : List α :=
  if data.isEmpty then l else resize zero l offset ++ data ++ l.drop (offset + data.length)

/-- The `n` elements from `offset` on, fewer when the list ends earlier. -/
def slice (l : List α) (offset n : Nat) : List α := (l.drop offset).take n

@[simp] theorem length_resize (l : List α) (n : Nat) : (resize zero l n).length = n := by
  simp only [resize, List.length_append, List.length_take, List.length_replicate]
  omega

variable {l data : List α} {offset : Nat}

theorem resize_of_le {n : Nat} (inside : n ≤ l.length) :
    resize zero l n = l.take n := by
  simp [resize, Nat.sub_eq_zero_of_le inside]

@[simp] theorem writeAt_nil (l : List α) (offset : Nat) : writeAt zero l offset [] = l := rfl

theorem writeAt_of_ne_nil (offset : Nat) (nonempty : data ≠ []) :
    writeAt zero l offset data =
      resize zero l offset ++ data ++ l.drop (offset + data.length) := by
  simp [writeAt, nonempty]

theorem length_writeAt (offset : Nat) (nonempty : data ≠ []) :
    (writeAt zero l offset data).length = max l.length (offset + data.length) := by
  rw [writeAt_of_ne_nil zero offset nonempty]
  simp only [List.length_append, length_resize, List.length_drop]
  omega

/-- Writing at the very end appends. -/
theorem writeAt_length (l data : List α) : writeAt zero l l.length data = l ++ data := by
  by_cases empty : data = []
  · simp [empty]
  · rw [writeAt_of_ne_nil zero _ empty, resize_of_le zero (Nat.le_refl _)]
    simp

theorem getElem?_slice (l : List α) (start n i : Nat) :
    (slice l start n)[i]? = if i < n then l[start + i]? else none := by
  simp only [slice, List.getElem?_take, List.getElem?_drop]

theorem getElem?_resize {n i : Nat} (inside : i < l.length) (kept : i < n) :
    (resize zero l n)[i]? = l[i]? := by
  rw [resize, List.getElem?_append_left (by simp only [List.length_take]; omega),
    List.getElem?_take, if_pos kept]

/-- Positions in front of the write keep their old element. -/
theorem getElem?_writeAt_before {i : Nat} (before : i < offset) (inside : i < l.length) :
    (writeAt zero l offset data)[i]? = l[i]? := by
  by_cases empty : data = []
  · simp [empty]
  · rw [writeAt_of_ne_nil zero offset empty, List.append_assoc,
      List.getElem?_append_left (by simpa using before), getElem?_resize zero inside before]

/-- A gap in front of the write is filled. -/
theorem getElem?_writeAt_gap {i : Nat} (before : i < offset) (beyond : l.length ≤ i) :
    (writeAt zero l offset data)[i]? = none ∨ (writeAt zero l offset data)[i]? = some zero := by
  by_cases empty : data = []
  · left
    simpa [empty] using beyond
  · right
    rw [writeAt_of_ne_nil zero offset empty, List.append_assoc,
      List.getElem?_append_left (by simpa using before), resize, List.getElem?_append_right (by simp; omega),
      List.getElem?_replicate, if_pos]
    simp only [List.length_take]
    omega

/-- Positions behind the written range keep their old element. -/
theorem getElem?_writeAt_after {i : Nat} (after : offset + data.length ≤ i) :
    (writeAt zero l offset data)[i]? = l[i]? := by
  by_cases empty : data = []
  · simp [empty]
  · have head : (resize zero l offset ++ data).length = offset + data.length := by simp
    rw [writeAt_of_ne_nil zero offset empty, List.getElem?_append_right (by omega), head,
      List.getElem?_drop, Nat.add_sub_of_le after]

/-- The written range reads back exactly what was written. -/
theorem slice_writeAt_self (l data : List α) (offset : Nat) :
    slice (writeAt zero l offset data) offset data.length = data := by
  by_cases empty : data = []
  · simp [empty, slice]
  · rw [writeAt_of_ne_nil zero offset empty, slice, List.append_assoc,
      List.drop_left' (length_resize zero l offset), List.take_left' rfl]

/-- A range that ends before the write, inside the old contents, is untouched. -/
theorem slice_writeAt_before {start n : Nat} (before : start + n ≤ offset) (inside : start + n ≤ l.length) :
    slice (writeAt zero l offset data) start n = slice l start n := by
  apply List.ext_getElem?
  intro i
  simp only [getElem?_slice]
  split
  · exact getElem?_writeAt_before zero (by omega) (by omega)
  · rfl

/-- A range that starts behind the written one is untouched. -/
theorem slice_writeAt_after {start n : Nat} (after : offset + data.length ≤ start) :
    slice (writeAt zero l offset data) start n = slice l start n := by
  apply List.ext_getElem?
  intro i
  simp only [getElem?_slice]
  split
  · exact getElem?_writeAt_after zero (by omega)
  · rfl

end Contents

/-- Two neighbouring slices join. -/
theorem slice_append_slice {α : Type} (l : List α) (start n m : Nat) :
    slice l start n ++ slice l (start + n) m = slice l start (n + m) := by
  simp only [slice, List.take_add, List.drop_drop]

theorem slice_zero_length {α : Type} (l : List α) (start : Nat) : slice l start 0 = [] := by
  simp [slice]

/-- A prefix stays one when it is continued by the front of what follows it. -/
theorem append_initial {α : Type} {front next l : List α} (before : front <+: l)
    (after : next <+: l.drop front.length) : front ++ next <+: l := by
  obtain ⟨rest, rfl⟩ := before
  rw [List.drop_left] at after
  exact (List.prefix_append_right_inj front).mpr after

theorem slice_of_initial {α : Type} {front l : List α} {start n : Nat} (before : front <+: l)
    (inside : start + n ≤ front.length) : slice front start n = slice l start n := by
  obtain ⟨rest, rfl⟩ := before
  rw [slice, slice, List.drop_append_of_le_length (by omega), List.take_append_of_le_length]
  rw [List.length_drop]
  omega

theorem length_slice {α : Type} (l : List α) (start n : Nat) :
    (slice l start n).length = min n (l.length - start) := by simp [slice]
