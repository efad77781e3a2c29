import Mathlib.Tactic.Common

/-! # Fallible steps in sequence

Early returns are written as `reject` steps, so that a chain of checks inverts
one link at a time instead of by unfolding the monad.
-/

namespace Checks

variable {ε α β : Type}

/-- Leave with `e` when the condition holds. -/
def reject (bad : Prop) [Decidable bad] (e : ε) : Except ε Unit :=
  if bad then .error e else .ok ()

@[simp] theorem reject_eq_ok {bad : Prop} [Decidable bad] {e : ε} {u : Unit} :
    reject bad e = .ok u ↔ ¬ bad := by
  unfold reject
  split <;> simp [*]

theorem bind_eq_ok {x : Except ε α} {f : α → Except ε β} {b : β} :
    (x >>= f) = .ok b ↔ ∃ a, x = .ok a ∧ f a = .ok b := by
  cases x with
  | error e => simp [bind, Except.bind]
  | ok a => simp [bind, Except.bind]

end Checks
