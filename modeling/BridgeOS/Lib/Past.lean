import Mathlib.Data.List.Induction

/-! # What has held since

A history lists what happened, the last thing last. Something began at one point of it and
was kept at every later one. Each point is told together with the history before it.
-/

namespace Past

variable {Event Other : Type}

/-- The past operator "since" of temporal logic. -/
def Since (begins keeps : List Event → Event → Prop) (history : List Event) : Prop :=
  ∃ before event later, history = before ++ event :: later ∧ begins before event ∧
    ∀ done next rest, later = done ++ next :: rest → keeps (before ++ event :: done) next

variable {begins keeps : List Event → Event → Prop}

theorem not_since_nil : ¬ Since begins keeps [] := by
  rintro ⟨before, event, later, impossible, -⟩
  simp at impossible

theorem since_snoc {history : List Event} {last : Event} :
    Since begins keeps (history ++ [last]) ↔
      begins history last ∨ Since begins keeps history ∧ keeps history last := by
  constructor
  · rintro ⟨before, event, later, split, began, kept⟩
    rcases List.eq_nil_or_concat later with rfl | ⟨front, final, rfl⟩
    · obtain ⟨rfl, ends⟩ := List.append_inj' split rfl
      obtain rfl := List.head_eq_of_cons_eq ends
      exact .inl began
    · rw [List.concat_eq_append, ← List.cons_append, ← List.append_assoc] at split
      obtain ⟨rfl, ends⟩ := List.append_inj' split rfl
      obtain rfl := List.head_eq_of_cons_eq ends
      refine .inr ⟨⟨before, event, front, rfl, began, fun done next rest inside => ?_⟩, kept front last [] ?_⟩
      · exact kept done next (rest ++ [last]) (by simp [inside])
      · simp
  · rintro (began | ⟨⟨before, event, later, rfl, began, kept⟩, ended⟩)
    · exact ⟨history, last, [], rfl, began, by simp⟩
    · refine ⟨before, event, later ++ [last], by simp, began, fun done next rest split => ?_⟩
      rcases List.eq_nil_or_concat rest with rfl | ⟨front, final, rfl⟩
      · obtain ⟨rfl, ends⟩ := List.append_inj' split rfl
        obtain rfl := List.head_eq_of_cons_eq ends
        exact ended
      · rw [List.concat_eq_append, ← List.cons_append, ← List.append_assoc] at split
        obtain ⟨inside, -⟩ := List.append_inj' split rfl
        exact kept done next front inside

/-- What begins and ends at each point as it says has held since it began. -/
theorem iff_since (holds : List Event → Prop) (never : ¬ holds [])
    (snoc : ∀ history last, holds (history ++ [last]) ↔ begins history last ∨ holds history ∧ keeps history last)
    (history : List Event) : holds history ↔ Since begins keeps history := by
  induction history using List.reverseRecOn with
  | nil => exact iff_of_false never not_since_nil
  | append_singleton history last ih => rw [snoc, since_snoc, ih]

/-- Of a history in which only some events count. -/
theorem since_filterMap (counts : Other → Option Event) (history : List Other) :
    Since begins keeps (history.filterMap counts) ↔
      Since (fun before event => ∃ seen ∈ counts event, begins (before.filterMap counts) seen)
        (fun before event => ∀ seen ∈ counts event, keeps (before.filterMap counts) seen) history := by
  refine iff_since (fun history => Since begins keeps (history.filterMap counts)) not_since_nil
    (fun history last => ?_) history
  cases found : counts last with
  | none => simp [List.filterMap_append, found]
  | some seen => simp [List.filterMap_append, found, since_snoc]

end Past
