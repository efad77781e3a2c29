import BridgeOS.Lib.Proc

/-! # Contracts for programs

A contract says in which state a question may be put and how the state may have
changed when it is answered. A program keeps it, with a condition on its result,
if it never puts a question that the contract forbids. The state need not be one
the program knows: it can record what has happened so far.
-/

structure Contract (Call : Type) (Answer : Call → Type) (σ : Type) where
  may : σ → Call → Prop
  moves : σ → Proc.Event Call Answer → σ → Prop

namespace Proc

variable {Call : Type} {Answer : Call → Type} {ε α β σ : Type}

def Keeps (k : Contract Call Answer σ) (R : σ → α → Prop) : σ → Proc Call Answer ε α → Prop
  | s, .ok a => R s a
  | _, .error _ => True
  | s, .ask c next => k.may s c ∧ ∀ answer s', k.moves s ⟨c, answer⟩ s' → (next answer).Keeps k R s'

variable {k : Contract Call Answer σ} {R : σ → α → Prop} {s s' : σ} {p : Proc Call Answer ε α}

theorem keeps_bind {f : α → Proc Call Answer ε β} {R' : σ → β → Prop} (first : p.Keeps k R s)
    (rest : ∀ s a, R s a → (f a).Keeps k R' s) : (p >>= f).Keeps k R' s := by
  induction p generalizing s with
  | ok a => exact rest s a first
  | error e => trivial
  | ask c next ih =>
      refine ⟨first.1, ?_⟩
      intro answer s' moved
      exact ih answer (first.2 answer s' moved)

theorem keeps_request {c : Call} {f : Answer c → Proc Call Answer ε β} {R' : σ → β → Prop} (may : k.may s c)
    (rest : ∀ answer s', k.moves s ⟨c, answer⟩ s' → (f answer).Keeps k R' s') :
    (request c >>= f).Keeps k R' s := ⟨may, rest⟩

theorem keeps_orFail {δ : Type} {convert : δ → ε} {result : Except δ α}
    (ok : ∀ a, result = .ok a → R s a) : (orFail convert result : Proc Call Answer ε α).Keeps k R s := by
  cases result with
  | error e => trivial
  | ok a => exact ok a rfl

theorem Keeps.weaken {R' : σ → α → Prop} (kept : p.Keeps k R s) (weaker : ∀ s a, R s a → R' s a) : p.Keeps k R' s := by
  induction p generalizing s with
  | ok a => exact weaker s a kept
  | error e => trivial
  | ask c next ih =>
      refine ⟨kept.1, ?_⟩
      intro answer s' moved
      exact ih answer (kept.2 answer s' moved)

/-- What is promised in a state is promised in another one that forbids and allows no more. -/
theorem Keeps.transfer (kept : p.Keeps k R s) (may : ∀ c, k.may s c → k.may s' c)
    (moves : ∀ event t, k.moves s' event t → k.moves s event t) (result : ∀ a, R s a → R s' a) :
    p.Keeps k R s' := by
  cases p with
  | ok a => exact result a kept
  | error e => trivial
  | ask c next =>
      refine ⟨may c kept.1, ?_⟩
      intro answer t moved
      exact kept.2 answer t (moves _ t moved)

/-- A program all of whose questions leave a fact alone. -/
theorem AllCalls.keeps {P : Call → Prop} {I : σ → Prop} (all : p.AllCalls P) (may : ∀ s c, I s → P c → k.may s c)
    (stays : ∀ s c answer s', I s → P c → k.moves s ⟨c, answer⟩ s' → I s') (start : I s) :
    p.Keeps k (fun s _ => I s) s := by
  induction p generalizing s with
  | ok a => exact start
  | error e => trivial
  | ask c next ih =>
      refine ⟨may s c start all.1, ?_⟩
      intro answer s' moved
      exact ih answer (all.2 answer) (stays s c answer s' start all.1 moved)

/-- A program put to a larger interface keeps a contract there that follows along. -/
theorem Keeps.lift {Call' : Type} {Answer' : Call' → Type} {ε' τ : Type} {wrap : Call → Call'}
    {read : ∀ c, Answer' (wrap c) → Answer c} {convert : ε → ε'} {k' : Contract Call' Answer' τ}
    {R' : τ → α → Prop} (Rel : σ → τ → Prop) (kept : p.Keeps k R s)
    (may : ∀ s t c, Rel s t → k.may s c → k'.may t (wrap c))
    (moves : ∀ s t c answer t', Rel s t → k.may s c → k'.moves t ⟨wrap c, answer⟩ t' → ∃ s', k.moves s ⟨c, read
      c answer⟩ s' ∧ Rel s' t')
    (result : ∀ s t a, Rel s t → R s a → R' t a) {t : τ} (related : Rel s t) :
    (p.lift wrap read convert).Keeps k' R' t := by
  induction p generalizing s t with
  | ok a => exact result s t a related kept
  | error e => trivial
  | ask c next ih =>
      refine ⟨may s t c related kept.1, ?_⟩
      intro answer t' moved
      obtain ⟨s', moved', related'⟩ := moves s t c answer t' related kept.1 moved
      exact ih (read c answer) (kept.2 _ s' moved') related'

end Proc
