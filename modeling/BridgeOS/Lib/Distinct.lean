import Mathlib.Data.List.Nodup

/-! # Adding what is not there yet

A list that grows at its end by what it does not hold. Additions bring in no
repetition and remove none.
-/

namespace Distinct

variable {α : Type} [DecidableEq α]

def add (known : List α) (a : α) : List α := if a ∈ known then known else known ++ [a]

def addAll (known new : List α) : List α := new.foldl add known

@[simp] theorem addAll_nil (known : List α) : addAll known [] = known := rfl

@[simp] theorem addAll_cons (known : List α) (a : α) (new : List α) :
    addAll known (a :: new) = addAll (add known a) new := rfl

@[simp] theorem mem_add {known : List α} {a b : α} : b ∈ add known a ↔ b ∈ known ∨ b = a := by
  unfold add
  split
  · rename_i there
    refine ⟨Or.inl, ?_⟩
    rintro (old | rfl)
    · exact old
    · exact there
  · simp

@[simp] theorem mem_addAll {known new : List α} {b : α} :
    b ∈ addAll known new ↔ b ∈ known ∨ b ∈ new := by
  induction new generalizing known with
  | nil => simp
  | cons a new ih => rw [addAll_cons, ih, mem_add, List.mem_cons, or_assoc]

@[simp] theorem nodup_add {known : List α} {a : α} : (add known a).Nodup ↔ known.Nodup := by
  unfold add
  split
  · rfl
  · rename_i missing
    have apart : ∀ b ∈ known, b ≠ a := fun b member same => missing (same ▸ member)
    simpa [List.nodup_append] using fun _ => apart

@[simp] theorem nodup_addAll {known new : List α} : (addAll known new).Nodup ↔ known.Nodup := by
  induction new generalizing known with
  | nil => rfl
  | cons a new ih => rw [addAll_cons, ih, nodup_add]

end Distinct
