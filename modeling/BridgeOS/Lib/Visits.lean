import Mathlib.Data.List.Basic

/-! # Runs of a transition system

A run lists the moves that were made, each with the state in which it was made. What is to
hold in every state of every run is proved of one move.
-/

inductive Visits {State Move : Type} (Step : State → Move → State → Prop) (first : State) :
    List (State × Move) → State → Prop where
  | start : Visits Step first [] first
  | step {visits : List (State × Move)} {s s' : State} {move : Move} (run : Visits Step first visits s)
      (taken : Step s move s') : Visits Step first (visits ++ [(s, move)]) s'

namespace Visits

variable {State Move : Type} {Step : State → Move → State → Prop} {P : State → Prop} {Q : State → Move → Prop}
  {first s : State} {visits : List (State × Move)}

theorem trans {t : State} {later : List (State × Move)} (run : Visits Step first visits s)
    (rest : Visits Step s later t) : Visits Step first (visits ++ later) t := by
  induction rest with
  | start =>
      rw [List.append_nil]
      exact run
  | step _ taken ih =>
      rw [← List.append_assoc]
      exact ih.step taken

/-- What a move keeps under a condition, a run keeps if all its moves meet the condition. -/
theorem keeps (run : Visits Step first visits s) (start : P first)
    (step : ∀ {s s' move}, Step s move s' → Q s move → P s → P s')
    (all : ∀ visit ∈ visits, Q visit.1 visit.2) : P s := by
  induction run with
  | start => exact start
  | step _ taken ih =>
      rw [List.forall_mem_append, List.forall_mem_singleton] at all
      exact step taken all.2 (ih all.1)

/-- What every move keeps. -/
theorem invariant (run : Visits Step first visits s) (start : P first)
    (step : ∀ {s s' move}, Step s move s' → P s → P s') : P s :=
  run.keeps (Q := fun _ _ => True) start (fun taken _ => step taken) fun _ _ => trivial

/-- If a move keeps a property exactly under a condition, then the property holds all along
    a run exactly if all its moves meet the condition. -/
theorem always_iff {R : State → Prop} (run : Visits Step first visits s) (sound : R first)
    (kept : ∀ {s s' move}, Step s move s' → R s → R s') (start : P first)
    (step : ∀ {s s' move}, Step s move s' → R s → P s → (P s' ↔ Q s move)) :
    ((∀ visit ∈ visits, P visit.1) ∧ P s) ↔ ∀ visit ∈ visits, Q visit.1 visit.2 := by
  induction run with
  | start => simp [start]
  | step run taken ih =>
      have here := run.invariant sound kept
      simp only [List.forall_mem_append, List.forall_mem_singleton]
      constructor
      · rintro ⟨⟨before, now⟩, after⟩
        exact ⟨ih.mp ⟨before, now⟩, (step taken here now).mp after⟩
      · rintro ⟨before, meets⟩
        obtain ⟨earlier, now⟩ := ih.mpr before
        exact ⟨⟨earlier, now⟩, (step taken here now).mpr meets⟩

end Visits
