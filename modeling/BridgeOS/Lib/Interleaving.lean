import Mathlib.Data.List.Basic

/-! # Many runs at once

A history lists what happened in the order it happened, each event with the run
it belongs to. What one run saw is its projection; a history of independent runs
is any list all of whose projections are runs.
-/

abbrev History (Id Event : Type) := List (Id × Event)

namespace History

variable {Id Event : Type} [DecidableEq Id]

def project (id : Id) (history : History Id Event) : List Event :=
  history.filterMap fun entry => if entry.1 = id then some entry.2 else none

theorem mem_project {id : Id} {history : History Id Event} {event : Event} :
    event ∈ history.project id ↔ (id, event) ∈ history := by
  simp only [project, List.mem_filterMap]
  constructor
  · rintro ⟨⟨other, found⟩, member, kept⟩
    split at kept
    · rename_i same
      cases same
      cases kept
      exact member
    · cases kept
  · intro member
    exact ⟨(id, event), member, if_pos rfl⟩

end History
