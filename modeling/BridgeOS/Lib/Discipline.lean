import BridgeOS.Lib.Proc

/-! # Programs that observe a discipline

Which questions a program may ask depends on a mode, and each answered question may
change the mode. A program observes the discipline if it does so however it is
answered, and if what it ends with, be it a result or an error, goes with the mode it
ends in.
-/

structure Discipline (Call : Type) (Answer : Call → Type) (Mode : Type) where
  allows : Mode → Call → Prop
  turn : Mode → Proc.Event Call Answer → Mode

/-- Where a list of events leads. -/
def Discipline.after {Call : Type} {Answer : Call → Type} {Mode : Type} (d : Discipline Call Answer Mode)
    (m : Mode) (events : List (Proc.Event Call Answer)) : Mode := events.foldl d.turn m

namespace Proc

variable {Call : Type} {Answer : Call → Type} {Mode ε α β : Type} {d : Discipline Call Answer Mode}

def Observes (d : Discipline Call Answer Mode) (returns : Mode → α → Prop) (fails : Mode → Prop) :
    Mode → Proc Call Answer ε α → Prop
  | m, .ok a => returns m a
  | m, .error _ => fails m
  | m, .ask c next =>
      d.allows m c ∧ ∀ answer, Observes d returns fails (d.turn m ⟨c, answer⟩) (next answer)

variable {returns : Mode → α → Prop} {fails : Mode → Prop} {m : Mode} {p : Proc Call Answer ε α}

theorem observes_bind {after : Mode → β → Prop} {f : α → Proc Call Answer ε β}
    (observes : p.Observes d (fun m a => (f a).Observes d after fails m) fails m) :
    (p >>= f).Observes d after fails m := by
  induction p generalizing m with
  | ok a => exact observes
  | error e => exact observes
  | ask c next ih => exact ⟨observes.1, fun answer => ih answer (observes.2 answer)⟩

theorem observes_request {c : Call} {f : Answer c → Proc Call Answer ε β} {after : Mode → β → Prop}
    (allowed : d.allows m c) (rest : ∀ answer, (f answer).Observes d after fails (d.turn m ⟨c, answer⟩)) :
    (request c >>= f).Observes d after fails m := ⟨allowed, rest⟩

theorem Observes.mono {returns' : Mode → α → Prop} {fails' : Mode → Prop}
    (observes : p.Observes d returns fails m) (more : ∀ m a, returns m a → returns' m a)
    (worse : ∀ m, fails m → fails' m) : p.Observes d returns' fails' m := by
  induction p generalizing m with
  | ok a => exact more m a observes
  | error e => exact worse m observes
  | ask c next ih => exact ⟨observes.1, fun answer => ih answer (observes.2 answer)⟩

/-- What an attempt ends in is the mode of the result or of the failure. -/
theorem Observes.attempt {ε' : Type} {fails' : Mode → Prop} {outcomes : Mode → Except ε α → Prop}
    (observes : p.Observes d returns fails m) (good : ∀ m a, returns m a → outcomes m (.ok a))
    (bad : ∀ m e, fails m → outcomes m (.error e)) :
    (p.attempt : Proc Call Answer ε' (Except ε α)).Observes d outcomes fails' m := by
  induction p generalizing m with
  | ok a => exact good m a observes
  | error e => exact bad m e observes
  | ask c next ih => exact ⟨observes.1, fun answer => ih answer (observes.2 answer)⟩

theorem Observes.lift {Call' : Type} {Answer' : Call' → Type} {ε' : Type} {d' : Discipline Call' Answer' Mode}
    {wrap : Call → Call'} {read : ∀ c, Answer' (wrap c) → Answer c} {convert : ε → ε'}
    (observes : p.Observes d returns fails m) (allowed : ∀ m c, d.allows m c → d'.allows m (wrap c))
    (turns : ∀ m c answer, d'.turn m ⟨wrap c, answer⟩ = d.turn m ⟨c, read c answer⟩) :
    (p.lift wrap read convert).Observes d' returns fails m := by
  induction p generalizing m with
  | ok a => exact observes
  | error e => exact observes
  | ask c next ih =>
      refine ⟨allowed m c observes.1, fun answer => ?_⟩
      rw [turns]
      exact ih _ (observes.2 _)

/-- Questions that are allowed in every mode of a set and lead out of none of them. -/
theorem observes_of_within {P : Call → Prop} {R : α → Prop} {calm : Mode → Prop}
    (within : p.Within (fun _ => True) P R) (inside : calm m) (allowed : ∀ m c, calm m → P c → d.allows m c)
    (stays : ∀ m event, calm m → P event.call → calm (d.turn m event)) :
    p.Observes d (fun m a => calm m ∧ R a) calm m := by
  induction p generalizing m with
  | ok a => exact ⟨inside, within⟩
  | error e => exact inside
  | ask c next ih =>
      exact ⟨allowed m c inside within.1, fun answer =>
        ih answer (within.2 answer trivial) (stays m ⟨c, answer⟩ inside within.1)⟩

/-- A fact about the mode and the surroundings that every allowed question keeps still
    holds where a run has led. -/
theorem Observes.along {σ : Type} {Handles : σ → Event Call Answer → σ → Prop} {I : Mode → σ → Prop}
    {q : Proc Call Answer ε α} {events : List (Event Call Answer)} {s s' : σ}
    (observes : p.Observes d returns fails m) (run : Runs p events q) (along : Along Handles s events s')
    (step : ∀ m event s s', d.allows m event.call → Handles s event s' → I m s → I (d.turn m event) s')
    (start : I m s) : I (d.after m events) s' ∧ q.Observes d returns fails (d.after m events) := by
  induction run generalizing m s with
  | stop p =>
      cases along
      exact ⟨start, observes⟩
  | @ask c next answer events q rest ih =>
      obtain ⟨middle, handled, along⟩ := along
      exact ih (observes.2 answer) along (step m ⟨c, answer⟩ s middle observes.1 handled start)

end Proc
