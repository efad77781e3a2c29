import Mathlib.Data.List.DropRight
import Mathlib.Data.List.Nodup
import Mathlib.Tactic.Common

/-! # The most recent distinct elements

A window of bounded size that forgets its oldest element when a new one comes.
An element that is already in it is not moved to the front, so the age of an
element is the number of different elements that came after it.
-/

namespace Recent

variable {α : Type} {capacity : Nat} {l : List α} {a b : α} {counts : α → Bool} {n k : Nat}

/-- The element is in the window, and at most `n` of those that came after it count. -/
def Behind (counts : α → Bool) (n : Nat) (l : List α) (a : α) : Prop :=
  ∃ older newer, l = older ++ a :: newer ∧ newer.countP counts ≤ n

namespace Behind

theorem mem (behind : Behind counts n l a) : a ∈ l := by
  obtain ⟨older, newer, rfl, -⟩ := behind
  exact List.mem_append_right _ List.mem_cons_self

theorem mono (behind : Behind counts n l a) (more : n ≤ k) : Behind counts k l a := by
  obtain ⟨older, newer, shape, few⟩ := behind
  exact ⟨older, newer, shape, Nat.le_trans few more⟩

/-- All but one of the elements behind it count. -/
theorem length_newer_le {older newer : List α} {exempt : α} (distinct : (older ++ a :: newer).Nodup)
    (others : ∀ x, counts x = false → x = exempt) : newer.length ≤ newer.countP counts + 1 := by
  have single : (newer.filter fun x => !counts x).length ≤ 1 := by
    have apart : (newer.filter fun x => !counts x).Nodup :=
      (List.nodup_cons.mp (List.nodup_append.mp distinct).2.1).2.filter _
    have same : ∀ x ∈ newer.filter fun x => !counts x, x = exempt := by
      intro x member
      exact others x (by simpa using (List.mem_filter.mp member).2)
    rw [List.eq_replicate_of_mem same] at apart
    exact List.nodup_replicate.mp apart
  have split := List.length_eq_countP_add_countP counts (l := newer)
  have counted : newer.countP (fun x => decide ¬ counts x = true) =
      (newer.filter fun x => !counts x).length := by
    rw [List.countP_eq_length_filter]
    congr 2
    funext x
    cases counts x <;> rfl
  omega

end Behind

variable [DecidableEq α]

def push (capacity : Nat) (l : List α) (a : α) : List α :=
  if a ∈ l then l else (if capacity ≤ l.length then l.tail else l) ++ [a]

theorem push_of_mem (known : a ∈ l) : push capacity l a = l := if_pos known

theorem push_of_not_mem (new : a ∉ l) :
    push capacity l a = (if capacity ≤ l.length then l.tail else l) ++ [a] := if_neg new

theorem mem_push_self : a ∈ push capacity l a := by
  by_cases known : a ∈ l
  · rw [push_of_mem known]
    exact known
  · rw [push_of_not_mem known]
    exact List.mem_append_right _ List.mem_cons_self

theorem mem_of_mem_push (member : b ∈ push capacity l a) : b ∈ l ∨ b = a := by
  unfold push at member
  split at member
  · exact .inl member
  · rcases List.mem_append.mp member with old | new
    · split at old
      · exact .inl (List.mem_of_mem_tail old)
      · exact .inl old
    · exact .inr (List.mem_singleton.mp new)

/-- What is forgotten for a new element. -/
def forgotten (capacity : Nat) (l : List α) (a : α) : Option α :=
  if a ∈ l then none else if capacity ≤ l.length then l.head? else none

theorem forgotten_of_mem (known : a ∈ l) : forgotten capacity l a = none := if_pos known

theorem forgotten_of_room (room : l.length < capacity) : forgotten capacity l a = none := by
  unfold forgotten
  rw [if_neg (Nat.not_le_of_lt room), ite_self]

theorem mem_push_iff (distinct : l.Nodup) (other : b ≠ a) :
    b ∈ push capacity l a ↔ b ∈ l ∧ forgotten capacity l a ≠ some b := by
  unfold push forgotten
  by_cases known : a ∈ l
  · simp [known]
  · by_cases full : capacity ≤ l.length
    · cases l with
      | nil => simp [other]
      | cons oldest rest =>
          rw [if_neg known, if_neg known, if_pos full, if_pos full]
          have apart : oldest ∉ rest := (List.nodup_cons.mp distinct).1
          have last : b ∈ rest ++ [a] ↔ b ∈ rest := by simp [other]
          rw [List.tail_cons, last, List.mem_cons, List.head?_cons, ne_eq, Option.some.injEq]
          constructor
          · intro member
            refine ⟨.inr member, ?_⟩
            rintro rfl
            exact apart member
          · rintro ⟨rfl | member, distinct⟩
            · exact absurd rfl distinct
            · exact member
    · simp [known, full, other]

theorem getLast?_push_of_not_mem (new : a ∉ l) : (push capacity l a).getLast? = some a := by
  rw [push_of_not_mem new, List.getLast?_append_of_ne_nil _ (List.cons_ne_nil _ _)]
  rfl

theorem length_push_le_succ : (push capacity l a).length ≤ l.length + 1 := by
  unfold push
  split
  · exact Nat.le_succ _
  · rw [List.length_append, List.length_singleton]
    split
    · rw [List.length_tail]
      omega
    · exact Nat.le_refl _

theorem nodup_push (distinct : l.Nodup) : (push capacity l a).Nodup := by
  by_cases known : a ∈ l
  · rwa [push_of_mem known]
  · rw [push_of_not_mem known, List.nodup_append]
    refine ⟨?_, List.nodup_singleton a, ?_⟩
    · split
      · exact distinct.tail
      · exact distinct
    · intro x old y new same
      rw [List.mem_singleton.mp new] at same
      subst same
      split at old
      · exact known (List.mem_of_mem_tail old)
      · exact known old

namespace Behind

theorem push_self (new : a ∉ l) : Behind counts 0 (push capacity l a) a := by
  rw [push_of_not_mem new]
  exact ⟨_, [], rfl, Nat.zero_le _⟩

/-- An element is not forgotten before the window is full of younger ones. -/
theorem push {exempt : α} (behind : Behind counts n l a) (distinct : l.Nodup)
    (others : ∀ x, counts x = false → x = exempt) (room : n + 2 < capacity) :
    Behind counts (n + if counts b then 1 else 0) (push capacity l b) a := by
  obtain ⟨older, newer, rfl, few⟩ := behind
  by_cases known : b ∈ older ++ a :: newer
  · rw [push_of_mem known]
    exact ⟨older, newer, rfl, Nat.le_trans few (Nat.le_add_right _ _)⟩
  · have grown : (newer ++ [b]).countP counts ≤ n + if counts b then 1 else 0 := by
      rw [List.countP_append, List.countP_singleton]
      exact Nat.add_le_add_right few _
    rw [push_of_not_mem known]
    by_cases full : capacity ≤ (older ++ a :: newer).length
    · rw [if_pos full]
      have short := length_newer_le distinct others
      cases older with
      | nil =>
          rw [List.nil_append, List.length_cons] at full
          omega
      | cons oldest older => exact ⟨older, newer ++ [b], by simp, grown⟩
    · rw [if_neg full]
      exact ⟨older, newer ++ [b], by simp, grown⟩

end Behind

/-- The window on a log is its end; a new element goes to the end of both. -/
theorem push_rtake {log : List α} (positive : 0 < capacity) (new : a ∉ log.rtake capacity) :
    push capacity (log.rtake capacity) a = (log ++ [a]).rtake capacity := by
  obtain ⟨n, rfl⟩ : ∃ n, capacity = n + 1 := ⟨capacity - 1, by omega⟩
  rw [push_of_not_mem new, List.rtake_concat_succ]
  congr 1
  by_cases full : n + 1 ≤ log.length
  · have size : n + 1 ≤ (log.rtake (n + 1)).length := by
      simp only [List.rtake, List.length_drop]
      omega
    rw [if_pos size, List.rtake, List.rtake, List.tail_drop]
    congr 1
    omega
  · have size : ¬ n + 1 ≤ (log.rtake (n + 1)).length := by
      simp only [List.rtake, List.length_drop]
      omega
    rw [if_neg size, List.rtake, List.rtake]
    congr 1
    omega

/-- The window after further elements. -/
def pushAll (capacity : Nat) (l : List α) (xs : List α) : List α := xs.foldl (push capacity) l

theorem pushAll_snoc (xs : List α) :
    pushAll capacity l (xs ++ [a]) = push capacity (pushAll capacity l xs) a := by
  simp [pushAll]

/-- After elements that are all new it is still the end of the log. -/
theorem pushAll_rtake {log xs : List α} (positive : 0 < capacity) (distinct : (log ++ xs).Nodup) :
    pushAll capacity (log.rtake capacity) xs = (log ++ xs).rtake capacity := by
  induction xs generalizing log with
  | nil => rw [List.append_nil, pushAll, List.foldl_nil]
  | cons x xs ih =>
      have new : x ∉ log.rtake capacity := fun old =>
        (List.nodup_append.mp distinct).2.2 x (List.mem_of_mem_drop old) x List.mem_cons_self rfl
      have longer : log ++ x :: xs = log ++ [x] ++ xs := List.append_cons log x xs
      rw [longer] at distinct ⊢
      rw [pushAll, List.foldl_cons, ← pushAll, push_rtake positive new, ih distinct]

/-- As many new elements as there are places leave nothing else in the window. -/
theorem not_mem_pushAll_of_crowd {xs : List α} (positive : 0 < capacity) (small : l.length ≤ capacity)
    (distinct : (l ++ xs).Nodup) (many : capacity ≤ xs.length) (old : a ∈ l) :
    a ∉ pushAll capacity l xs := by
  intro kept
  have whole : l.rtake capacity = l := by rw [List.rtake, Nat.sub_eq_zero_of_le small, List.drop_zero]
  rw [← whole, pushAll_rtake positive distinct, List.rtake] at kept
  have late : a ∈ xs := by
    have long : l.length ≤ (l ++ xs).length - capacity := by
      rw [List.length_append]
      omega
    have within := (List.drop_sublist_drop_left (l ++ xs) long).mem kept
    rwa [List.drop_left] at within
  exact (List.nodup_append.mp distinct).2.2 a old a late rfl

/-- Each element is new to the window when its turn comes. -/
def AllNew (capacity : Nat) : List α → List α → Prop
  | _, [] => True
  | l, a :: rest => a ∉ l ∧ AllNew capacity (push capacity l a) rest

theorem allNew_snoc {xs : List α} (new : AllNew capacity l xs) (last : a ∉ pushAll capacity l xs) :
    AllNew capacity l (xs ++ [a]) := by
  induction xs generalizing l with
  | nil => exact ⟨last, trivial⟩
  | cons x xs ih => exact ⟨new.1, ih new.2 last⟩

end Recent
