import Mathlib.Data.List.Infix

/-! # Steps that a crash may cut short

Each step happens or does not. A crash leaves what the steps before it made of the state,
and so does a step that fails.
-/

namespace Crash

variable {State Step : Type} (apply : State → Step → State)

def after (s : State) (steps : List Step) : State := steps.foldl apply s

@[simp] theorem after_nil (s : State) : after apply s [] = s := rfl

@[simp] theorem after_cons (s : State) (step : Step) (steps : List Step) :
    after apply s (step :: steps) = after apply (apply s step) steps := rfl

@[simp] theorem after_append (s : State) (first second : List Step) :
    after apply s (first ++ second) = after apply (after apply s first) second :=
  List.foldl_append

/-- Two parts are cut short in the first or in the second. -/
theorem prefix_append_cases {done first second : List Step} (cut : done <+: first ++ second) :
    done <+: first ∨ ∃ rest, rest <+: second ∧ done = first ++ rest := by
  rcases List.prefix_or_prefix_of_prefix cut (List.prefix_append first second) with inside | outside
  · exact .inl inside
  · obtain ⟨rest, rfl⟩ := outside
    exact .inr ⟨rest, (List.prefix_append_right_inj first).mp cut, rfl⟩

end Crash
