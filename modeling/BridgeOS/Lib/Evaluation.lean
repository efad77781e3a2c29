import BridgeOS.Lib.Proc

/-! # Programs in deterministic surroundings

If the state of the surroundings determines every answer, a program has one
outcome. So has a loop of programs, once it is given enough rounds.
-/

namespace Proc

variable {Call : Type} {Answer : Call → Type} {ε α β S T : Type}
  (answer : S → (c : Call) → Answer c × S)

def eval : Proc Call Answer ε α → S → Except ε α × S
  | .ok a, s => (.ok a, s)
  | .error e, s => (.error e, s)
  | .ask c next, s => (next (answer s c).1).eval (answer s c).2

/-- The outcome of a loop, unless it takes more rounds than these. -/
def loop (body : T → Proc Call Answer ε (T ⊕ α)) : Nat → T → S → Option (Except ε α × S)
  | 0, _, _ => none
  | rounds + 1, t, s =>
      match (body t).eval answer s with
      | (.ok (.inl t'), s') => loop body rounds t' s'
      | (.ok (.inr a), s') => some (.ok a, s')
      | (.error e, s') => some (.error e, s')

variable {answer}

@[simp] theorem eval_ok (a : α) (s : S) :
    (Proc.ok a : Proc Call Answer ε α).eval answer s = (.ok a, s) := rfl

@[simp] theorem eval_error (e : ε) (s : S) :
    (Proc.error e : Proc Call Answer ε α).eval answer s = (.error e, s) := rfl

@[simp] theorem eval_ask (c : Call) (next : Answer c → Proc Call Answer ε α) (s : S) :
    (Proc.ask c next).eval answer s = (next (answer s c).1).eval answer (answer s c).2 := rfl

theorem eval_bind (p : Proc Call Answer ε α) (f : α → Proc Call Answer ε β) (s : S) :
    (p >>= f).eval answer s =
      match p.eval answer s with
      | (.ok a, s') => (f a).eval answer s'
      | (.error e, s') => (.error e, s') := by
  induction p generalizing s with
  | ok a => rfl
  | error e => rfl
  | ask c next ih => exact ih _ _

/-- A loop whose round comes back to its top goes on from there. -/
theorem loop_more {body : T → Proc Call Answer ε (T ⊕ α)} {t t' : T} {s s' : S} (rounds : Nat)
    (round : (body t).eval answer s = (.ok (.inl t'), s')) :
    loop answer body (rounds + 1) t s = loop answer body rounds t' s' := by
  simp only [loop, round]

end Proc
