import Mathlib.Data.List.AList

/-! # Finite tables changed entry by entry -/

namespace AList

variable {α : Type} {β : α → Type}

def mapValues (f : (a : α) → β a → β a) (table : AList β) : AList β where
  entries := table.entries.map fun entry => ⟨entry.1, f entry.1 entry.2⟩
  nodupKeys := by
    have keys : (table.entries.map fun entry => (⟨entry.1, f entry.1 entry.2⟩ : Sigma β)).keys =
        table.entries.keys := List.map_map ..
    rw [List.NodupKeys, keys]
    exact table.nodupKeys

def retain (keep : α → Bool) (table : AList β) : AList β where
  entries := table.entries.filter fun entry => keep entry.1
  nodupKeys := table.nodupKeys.sublist List.filter_sublist

/-- What is kept depends on the value too. -/
def filterValues (keep : (a : α) → β a → Bool) (table : AList β) : AList β where
  entries := table.entries.filter fun entry => keep entry.1 entry.2
  nodupKeys := table.nodupKeys.sublist List.filter_sublist

variable [DecidableEq α]

/-- Changes the value of one key, if it has one. -/
def modify (table : AList β) (a : α) (f : β a → β a) : AList β :=
  match table.lookup a with
  | none => table
  | some b => table.insert a (f b)

theorem lookup_modify (table : AList β) (a : α) (f : β a → β a) :
    (table.modify a f).lookup a = (table.lookup a).map f := by
  unfold modify
  split
  · rename_i missing
    rw [missing]
    rfl
  · rename_i b found
    rw [found]
    exact lookup_insert table

theorem lookup_modify_ne {a a' : α} (table : AList β) (f : β a → β a) (other : a' ≠ a) :
    (table.modify a f).lookup a' = table.lookup a' := by
  unfold modify
  split
  · rfl
  · exact lookup_insert_ne other

theorem lookup_mapValues (f : (a : α) → β a → β a) (table : AList β) (a : α) :
    (table.mapValues f).lookup a = (table.lookup a).map (f a) :=
  List.dlookup_map₂ a

theorem lookup_retain (keep : α → Bool) (table : AList β) (a : α) :
    (table.retain keep).lookup a = if keep a then table.lookup a else none := by
  ext b
  rw [← Option.mem_def, ← Option.mem_def, mem_lookup_iff]
  simp only [retain, List.mem_filter]
  split
  · rename_i kept
    rw [mem_lookup_iff]
    simp [kept]
  · rename_i dropped
    simp [dropped]

theorem mem_lookup_filterValues {keep : (a : α) → β a → Bool} {table : AList β} {a : α} {b : β a} :
    b ∈ (table.filterValues keep).lookup a ↔ b ∈ table.lookup a ∧ keep a b = true := by
  rw [mem_lookup_iff, mem_lookup_iff]
  exact List.mem_filter

section Plain

variable {γ : Type} {table : AList fun _ : α => γ} {a a' : α} {c c' : γ}

theorem lookup_insert_eq_some : (table.insert a c).lookup a' = some c' ↔
    (a' = a ∧ c' = c) ∨ (a' ≠ a ∧ table.lookup a' = some c') := by
  by_cases same : a' = a
  · subst same
    rw [lookup_insert, Option.some_inj]
    simp [eq_comm]
  · rw [lookup_insert_ne same]
    simp [same]

theorem lookup_erase_eq_some : (table.erase a).lookup a' = some c' ↔ a' ≠ a ∧ table.lookup a' = some c' := by
  by_cases same : a' = a
  · subst same
    simp
  · rw [lookup_erase_ne same]
    simp [same]

/-- No two keys have the same value. -/
def Apart (table : AList fun _ : α => γ) : Prop :=
  ∀ a a' c, table.lookup a = some c → table.lookup a' = some c → a = a'

theorem Apart.insert (apart : table.Apart) (only : ∀ a', table.lookup a' = some c → a' = a) :
    (table.insert a c).Apart := by
  intro a₁ a₂ c' found₁ found₂
  rcases lookup_insert_eq_some.mp found₁ with ⟨rfl, rfl⟩ | ⟨other₁, old₁⟩
  · rcases lookup_insert_eq_some.mp found₂ with ⟨rfl, -⟩ | ⟨-, old₂⟩
    · rfl
    · exact (only a₂ old₂).symm
  · rcases lookup_insert_eq_some.mp found₂ with ⟨rfl, rfl⟩ | ⟨-, old₂⟩
    · exact only a₁ old₁
    · exact apart a₁ a₂ c' old₁ old₂

theorem Apart.erase (apart : table.Apart) (a : α) : (table.erase a).Apart := by
  intro a₁ a₂ c found₁ found₂
  exact apart a₁ a₂ c (lookup_erase_eq_some.mp found₁).2 (lookup_erase_eq_some.mp found₂).2

theorem Apart.nodup_values (apart : table.Apart) : (table.entries.map Sigma.snd).Nodup := by
  refine List.Nodup.map_on ?_ table.nodupKeys.nodup
  rintro ⟨a, c⟩ member ⟨a', c'⟩ member' rfl
  have same := apart a a' c (mem_lookup_iff.mpr member) (mem_lookup_iff.mpr member')
  subst same
  rfl

end Plain

end AList
