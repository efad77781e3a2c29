import Mathlib.Logic.Basic
import Mathlib.Tactic.Common

/-! # Programs that ask their surroundings

An asynchronous function is a tree: it has a result, it has failed, or it asks a
question and goes on with the answer. What happens between two questions is
pure. A run is the list of questions with their answers; everything the
surroundings may do is in the choice of answers, so a statement about all runs
is a statement about all schedules, peers and users.
-/

inductive Proc (Call : Type) (Answer : Call → Type) (ε α : Type) where
  | ok (a : α)
  | error (e : ε)
  | ask (c : Call) (next : Answer c → Proc Call Answer ε α)

namespace Proc

variable {Call : Type} {Answer : Call → Type} {ε α β : Type}

def bind : Proc Call Answer ε α → (α → Proc Call Answer ε β) → Proc Call Answer ε β
  | .ok a, f => f a
  | .error e, _ => .error e
  | .ask c next, f => .ask c (fun answer => (next answer).bind f)

instance : Monad (Proc Call Answer ε) where
  pure := .ok
  bind := bind

/-- Ask one question and return the answer. -/
def request (c : Call) : Proc Call Answer ε (Answer c) := .ask c .ok

/-- The `?` operator: go on with the value or leave with the converted error. -/
def orFail {δ : Type} (convert : δ → ε) : Except δ α → Proc Call Answer ε α
  | .ok a => .ok a
  | .error e => .error (convert e)

/-- Put the questions of a smaller interface to a larger one. -/
def lift {Call' : Type} {Answer' : Call' → Type} {ε' : Type} (wrap : Call → Call')
    (read : ∀ c, Answer' (wrap c) → Answer c) (convert : ε → ε') :
    Proc Call Answer ε α → Proc Call' Answer' ε' α
  | .ok a => .ok a
  | .error e => .error (convert e)
  | .ask c next => .ask (wrap c) (fun answer => (next (read c answer)).lift wrap read convert)

/-- Go on with the outcome, whatever it is. -/
def attempt {ε' : Type} : Proc Call Answer ε α → Proc Call Answer ε' (Except ε α)
  | .ok a => .ok (.ok a)
  | .error e => .ok (.error e)
  | .ask c next => .ask c (fun answer => (next answer).attempt)

/-- The top of a loop: a program that ends in the loop's state starts another round. -/
def resume {σ : Type} (body : σ → Proc Call Answer ε (σ ⊕ α)) :
    Proc Call Answer ε (σ ⊕ α) → Proc Call Answer ε (σ ⊕ α)
  | .ok (.inl s) => body s
  | p => p

structure Event (Call : Type) (Answer : Call → Type) where
  call : Call
  answer : Answer call

/-- A program proceeds to another one along the questions it asked. -/
inductive Runs : Proc Call Answer ε α → List (Event Call Answer) → Proc Call Answer ε α → Prop where
  | stop (p) : Runs p [] p
  | ask {c next answer events q} (rest : Runs (next answer) events q) :
      Runs (.ask c next) (⟨c, answer⟩ :: events) q

/-- It has returned or failed. -/
def Finished : Proc Call Answer ε α → Prop
  | .ask _ _ => False
  | _ => True

/-- Every question that can come up satisfies the predicate. -/
def AllCalls (P : Call → Prop) : Proc Call Answer ε α → Prop
  | .ok _ => True
  | .error _ => True
  | .ask c next => P c ∧ ∀ answer, (next answer).AllCalls P

/-- As long as the answers are possible ones, every question satisfies the one
    predicate and a result the other. -/
def Within (possible : Event Call Answer → Prop) (P : Call → Prop) (R : α → Prop) :
    Proc Call Answer ε α → Prop
  | .ok a => R a
  | .error _ => True
  | .ask c next => P c ∧ ∀ answer, possible ⟨c, answer⟩ → (next answer).Within possible P R

/-- However it is answered, the program fails with one of these errors. -/
def Fails (E : ε → Prop) : Proc Call Answer ε α → Prop
  | .ok _ => False
  | .error e => E e
  | .ask _ next => ∀ answer, (next answer).Fails E

/-- Once such an event has happened, the program can only fail with one of these errors. -/
def FailsUpon (P : Event Call Answer → Prop) (E : ε → Prop) : Proc Call Answer ε α → Prop
  | .ok _ => True
  | .error _ => True
  | .ask c next => ∀ answer, (P ⟨c, answer⟩ → (next answer).Fails E) ∧ (next answer).FailsUpon P E

/-- Until `Q` holds of what is left, every question satisfies the predicate, and an event
    that stops the program is answered with an error. -/
inductive Leads (P : Call → Prop) (stops : Event Call Answer → Prop) (Q : Proc Call Answer ε α → Prop) :
    Proc Call Answer ε α → Prop where
  | reached {p} (here : Q p) : Leads P stops Q p
  | failed (e : ε) : Leads P stops Q (.error e)
  | ask {c next} (asked : P c) (stopped : ∀ answer, stops ⟨c, answer⟩ → ∃ e, next answer = .error e)
      (rest : ∀ answer, Leads P stops Q (next answer)) : Leads P stops Q (.ask c next)

@[simp] theorem pure_eq (a : α) : (pure a : Proc Call Answer ε α) = .ok a := rfl

@[simp] theorem ok_bind (a : α) (f : α → Proc Call Answer ε β) :
    (Proc.ok a : Proc Call Answer ε α) >>= f = f a := rfl

@[simp] theorem error_bind (e : ε) (f : α → Proc Call Answer ε β) :
    (Proc.error e : Proc Call Answer ε α) >>= f = .error e := rfl

@[simp] theorem ask_bind (c : Call) (next : Answer c → Proc Call Answer ε α)
    (f : α → Proc Call Answer ε β) :
    Proc.ask c next >>= f = .ask c (fun answer => next answer >>= f) := rfl

@[simp] theorem request_bind (c : Call) (f : Answer c → Proc Call Answer ε β) :
    request c >>= f = .ask c f := rfl

variable {δ : Type} {f : α → Proc Call Answer ε β}

@[simp] theorem orFail_ok (convert : δ → ε) (a : α) :
    (orFail convert (.ok a) : Proc Call Answer ε α) = .ok a := rfl

@[simp] theorem orFail_error (convert : δ → ε) (e : δ) :
    (orFail convert (.error e) : Proc Call Answer ε α) = .error (convert e) := rfl

section Lifting

variable {Call' : Type} {Answer' : Call' → Type} {ε' : Type} (wrap : Call → Call')
  (read : ∀ c, Answer' (wrap c) → Answer c) (convert : ε → ε')

@[simp] theorem lift_ok (a : α) :
    (Proc.ok a : Proc Call Answer ε α).lift wrap read convert = .ok a := rfl

@[simp] theorem lift_error (e : ε) :
    (Proc.error e : Proc Call Answer ε α).lift wrap read convert = .error (convert e) := rfl

@[simp] theorem lift_ask (c : Call) (next : Answer c → Proc Call Answer ε α) :
    (Proc.ask c next).lift wrap read convert =
      .ask (wrap c) (fun answer => (next (read c answer)).lift wrap read convert) := rfl

@[simp] theorem lift_request (c : Call) :
    (request c : Proc Call Answer ε (Answer c)).lift wrap read convert =
      .ask (wrap c) (fun answer => .ok (read c answer)) := rfl

end Lifting

section Endings

variable {a b : α} {e : ε} {c : Call} {next : Answer c → Proc Call Answer ε α}
  {events : List (Event Call Answer)} {p q : Proc Call Answer ε α}

@[simp] theorem runs_ok : Runs (.ok a) events q ↔ events = [] ∧ q = .ok a := by
  constructor
  · intro run
    cases run
    exact ⟨rfl, rfl⟩
  · rintro ⟨rfl, rfl⟩
    exact .stop _

@[simp] theorem runs_error : Runs (.error e) events q ↔ events = [] ∧ q = .error e := by
  constructor
  · intro run
    cases run
    exact ⟨rfl, rfl⟩
  · rintro ⟨rfl, rfl⟩
    exact .stop _

/-- A program that has a result has asked its first question. -/
theorem runs_ask_ok : Runs (.ask c next) events (.ok b) ↔
    ∃ answer rest, events = ⟨c, answer⟩ :: rest ∧ Runs (next answer) rest (.ok b) := by
  constructor
  · intro run
    cases run with
    | ask rest => exact ⟨_, _, rfl, rest⟩
  · rintro ⟨answer, rest, rfl, run⟩
    exact .ask run

theorem runs_ask : Runs (.ask c next) events q ↔
    (events = [] ∧ q = .ask c next) ∨
      ∃ answer rest, events = ⟨c, answer⟩ :: rest ∧ Runs (next answer) rest q := by
  constructor
  · intro run
    cases run with
    | stop => exact .inl ⟨rfl, rfl⟩
    | ask rest => exact .inr ⟨_, _, rfl, rest⟩
  · rintro (⟨rfl, rfl⟩ | ⟨answer, rest, rfl, run⟩)
    · exact .stop _
    · exact .ask run

theorem Runs.append {r : Proc Call Answer ε α} {later : List (Event Call Answer)}
    (first : Runs p events q) (second : Runs q later r) : Runs p (events ++ later) r := by
  induction first with
  | stop => exact second
  | ask rest ih => exact .ask (ih second)

theorem Runs.split {first second : List (Event Call Answer)} (run : Runs p (first ++ second) q) :
    ∃ m, Runs p first m ∧ Runs m second q := by
  induction first generalizing p with
  | nil => exact ⟨p, .stop _, run⟩
  | cons event rest ih =>
      cases run with
      | ask run' =>
          obtain ⟨m, left, right⟩ := ih run'
          exact ⟨m, .ask left, right⟩

/-- What can be asked along a run could be asked from the start. -/
theorem Runs.allCalls {P : Call → Prop} (run : Runs p events q) (all : p.AllCalls P) :
    (∀ event ∈ events, P event.call) ∧ q.AllCalls P := by
  induction run with
  | stop => exact ⟨fun _ member => (List.not_mem_nil member).elim, all⟩
  | ask rest ih =>
      obtain ⟨later, remaining⟩ := ih (all.2 _)
      refine ⟨?_, remaining⟩
      intro event member
      rcases List.mem_cons.mp member with rfl | inRest
      · exact all.1
      · exact later event inRest

end Endings

section Questions

variable {P : Call → Prop} {p : Proc Call Answer ε α}

theorem allCalls_bind (first : p.AllCalls P) (second : ∀ a, (f a).AllCalls P) : (p >>= f).AllCalls P := by
  induction p with
  | ok a => exact second a
  | error e => trivial
  | ask c next ih => exact ⟨first.1, fun answer => ih answer (first.2 answer)⟩

theorem allCalls_pure (a : α) : (pure a : Proc Call Answer ε α).AllCalls P := trivial

theorem allCalls_request {c : Call} (allowed : P c) :
    (request c : Proc Call Answer ε (Answer c)).AllCalls P := ⟨allowed, fun _ => trivial⟩

theorem allCalls_orFail (convert : δ → ε) (result : Except δ α) :
    (orFail convert result : Proc Call Answer ε α).AllCalls P := by
  cases result with
  | ok a => trivial
  | error e => trivial

end Questions

section Possibilities

variable {possible : Event Call Answer → Prop} {P : Call → Prop} {R : α → Prop} {S : β → Prop}
  {p : Proc Call Answer ε α} {Q : Call → Prop} {R' : α → Prop}

theorem AllCalls.within (all : p.AllCalls P) : p.Within possible P fun _ => True := by
  induction p with
  | ok a => trivial
  | error e => trivial
  | ask c next ih => exact ⟨all.1, fun answer _ => ih answer (all.2 answer)⟩

theorem Within.allCalls (within : p.Within (fun _ => True) P R) : p.AllCalls P := by
  induction p with
  | ok a => trivial
  | error e => trivial
  | ask c next ih => exact ⟨within.1, fun answer => ih answer (within.2 answer trivial)⟩

theorem Within.imp {possible' : Event Call Answer → Prop} (within : p.Within possible P R)
    (fewer : ∀ event, possible' event → possible event) (weaken : ∀ c, P c → Q c) (more : ∀ a, R a → R' a) :
    p.Within possible' Q R' := by
  induction p with
  | ok a => exact more a within
  | error e => trivial
  | ask c next ih =>
      exact ⟨weaken c within.1, fun answer allowed => ih answer (within.2 answer (fewer _ allowed))⟩

theorem Within.mono (within : p.Within possible P R) (weaken : ∀ c, P c → Q c) : p.Within possible Q R :=
  within.imp (fun _ => id) weaken fun _ => id

theorem Within.weaken (within : p.Within possible P R) (more : ∀ a, R a → R' a) : p.Within possible P R' :=
  within.imp (fun _ => id) (fun _ => id) more

theorem Within.of_all (within : p.Within (fun _ => True) P R) : p.Within possible P R :=
  within.imp (fun _ _ => trivial) (fun _ => id) fun _ => id

theorem AllCalls.mono (all : p.AllCalls P) (weaken : ∀ c, P c → Q c) : p.AllCalls Q :=
  (all.within.mono weaken).allCalls

theorem within_bind (first : p.Within possible P R) (second : ∀ a, R a → (f a).Within possible P S) :
    (p >>= f).Within possible P S := by
  induction p with
  | ok a => exact second a first
  | error e => trivial
  | ask c next ih =>
      exact ⟨first.1, fun answer allowed => ih answer (first.2 answer allowed)⟩

theorem within_request {c : Call} (allowed : P c) :
    (request c : Proc Call Answer ε (Answer c)).Within possible P fun _ => True :=
  ⟨allowed, fun _ _ => trivial⟩

theorem within_orFail {convert : δ → ε} {result : Except δ α} (holds : ∀ a, result = .ok a → R a) :
    (orFail convert result : Proc Call Answer ε α).Within possible P R := by
  cases result with
  | ok a => exact holds a rfl
  | error e => trivial

theorem within_lift {Call' : Type} {Answer' : Call' → Type} {ε' : Type} {wrap : Call → Call'}
    {read : ∀ c, Answer' (wrap c) → Answer c} {convert : ε → ε'}
    {possible' : Event Call' Answer' → Prop} {P' : Call' → Prop}
    (within : p.Within possible (fun c => P' (wrap c)) R)
    (reads : ∀ c answer, possible' ⟨wrap c, answer⟩ → possible ⟨c, read c answer⟩) :
    (p.lift wrap read convert).Within possible' P' R := by
  induction p with
  | ok a => exact within
  | error e => trivial
  | ask c next ih =>
      exact ⟨within.1, fun answer allowed => ih _ (within.2 _ (reads c answer allowed))⟩

theorem allCalls_lift {Call' : Type} {Answer' : Call' → Type} {ε' : Type} {wrap : Call → Call'}
    {read : ∀ c, Answer' (wrap c) → Answer c} {convert : ε → ε'} {P' : Call' → Prop}
    (all : p.AllCalls (fun c => P' (wrap c))) : (p.lift wrap read convert).AllCalls P' :=
  (within_lift (show p.Within (fun _ => True) _ _ from all.within) fun _ _ _ => trivial).allCalls

theorem within_attempt {ε' : Type} (within : p.Within possible P R) :
    (p.attempt : Proc Call Answer ε' (Except ε α)).Within possible P
      fun outcome => ∀ a, outcome = .ok a → R a := by
  induction p with
  | ok a =>
      intro b same
      cases same
      exact within
  | error e => nofun
  | ask c next ih =>
      exact ⟨within.1, fun answer allowed => ih answer (within.2 answer allowed)⟩

end Possibilities

section Leading

variable {P : Call → Prop} {stops : Event Call Answer → Prop} {Q : Proc Call Answer ε β → Prop}

theorem leads_orFail {convert : δ → ε} {result : Except δ α} (rest : ∀ a, result = .ok a → (f a).Leads P stops Q) :
    (orFail convert result >>= f).Leads P stops Q := by
  cases result with
  | ok a => exact rest a rfl
  | error e => exact .failed _

/-- A part that nothing stops. -/
theorem leads_bind {R : α → Prop} {p : Proc Call Answer ε α}
    (first : p.Within (fun _ => True) (fun c => P c ∧ ∀ answer, ¬ stops ⟨c, answer⟩) R)
    (rest : ∀ a, R a → (f a).Leads P stops Q) : (p >>= f).Leads P stops Q := by
  induction p with
  | ok a => exact rest a first
  | error e => exact .failed e
  | ask c next ih =>
      refine .ask first.1.1 (fun answer stopped => ?_) fun answer => ih answer (first.2 answer trivial)
      exact absurd stopped (first.1.2 answer)

theorem Leads.bind {Q₀ : Proc Call Answer ε α → Prop} {p : Proc Call Answer ε α} (first : p.Leads P stops Q₀)
    (rest : ∀ q, Q₀ q → (q >>= f).Leads P stops Q) : (p >>= f).Leads P stops Q := by
  induction first with
  | reached here => exact rest _ here
  | failed e => exact .failed e
  | @ask c next asked stopped _ ih =>
      refine .ask asked (fun answer stop => ?_) ih
      obtain ⟨e, same⟩ := stopped answer stop
      exact ⟨e, by rw [same]; rfl⟩

theorem Leads.within {possible : Event Call Answer → Prop} {P' : Call → Prop} {R : β → Prop}
    {p : Proc Call Answer ε β} (leads : p.Leads P stops Q) (weaken : ∀ c, P c → P' c)
    (ends : ∀ q, Q q → q.Within possible P' R) : p.Within possible P' R := by
  induction leads with
  | reached here => exact ends _ here
  | failed e => trivial
  | ask asked stopped rest ih => exact ⟨weaken _ asked, fun answer _ => ih answer⟩

theorem Leads.failsUpon {happens : Event Call Answer → Prop} {E : ε → Prop} {p : Proc Call Answer ε β}
    (leads : p.Leads P stops Q) (other : ∀ c answer, P c → ¬ happens ⟨c, answer⟩)
    (ends : ∀ q, Q q → q.FailsUpon happens E) : p.FailsUpon happens E := by
  induction leads with
  | reached here => exact ends _ here
  | failed e => trivial
  | ask asked stopped rest ih =>
      exact fun answer => ⟨fun happened => absurd happened (other _ answer asked), ih answer⟩

end Leading

section Failures

variable {E : ε → Prop} {P : Event Call Answer → Prop} {p : Proc Call Answer ε α}

section Lifted

variable {Call' : Type} {Answer' : Call' → Type} {ε' : Type} {wrap : Call → Call'}
  {read : ∀ c, Answer' (wrap c) → Answer c} {convert : ε → ε'} {E' : ε' → Prop}
  {P' : Event Call' Answer' → Prop}

theorem Fails.lift (fails : p.Fails E) (errors : ∀ e, E e → E' (convert e)) :
    (p.lift wrap read convert).Fails E' := by
  induction p with
  | ok a => exact fails.elim
  | error e => exact errors e fails
  | ask c next ih =>
      intro answer
      exact ih _ (fails _)

theorem FailsUpon.lift (fails : p.FailsUpon P E)
    (errors : ∀ e, E e → E' (convert e))
    (reads : ∀ c answer, P' ⟨wrap c, answer⟩ → P ⟨c, read c answer⟩) :
    (p.lift wrap read convert).FailsUpon P' E' := by
  induction p with
  | ok a => trivial
  | error e => trivial
  | ask c next ih =>
      intro answer
      exact ⟨fun happens => ((fails _).1 (reads c answer happens)).lift errors, ih _ (fails _).2⟩

end Lifted

end Failures

theorem Runs.bind {p q : Proc Call Answer ε α} {events : List (Event Call Answer)} (run : Runs p events q)
    (f : α → Proc Call Answer ε β) : Runs (p >>= f) events (q >>= f) := by
  induction run with
  | stop => exact .stop _
  | ask _ ih => exact .ask ih

theorem Runs.attempt {ε' : Type} {p q : Proc Call Answer ε α} {events : List (Event Call Answer)}
    (run : Runs p events q) : Runs (p.attempt : Proc Call Answer ε' (Except ε α)) events q.attempt := by
  induction run with
  | stop => exact .stop _
  | ask _ ih => exact .ask ih

/-- A run of a sequence that has a result is a run of each part. -/
theorem runs_bind_ok {p : Proc Call Answer ε α} {events : List (Event Call Answer)} {b : β} :
    Runs (p >>= f) events (.ok b) ↔ ∃ a first second, events = first ++ second ∧
      Runs p first (.ok a) ∧ Runs (f a) second (.ok b) := by
  constructor
  · intro run
    induction p generalizing events with
    | ok a => exact ⟨a, [], events, rfl, .stop _, run⟩
    | error e => cases run
    | ask c next ih =>
        obtain ⟨answer, rest, rfl, run'⟩ := runs_ask_ok.mp run
        obtain ⟨a, first, second, rfl, left, right⟩ := ih answer run'
        exact ⟨a, ⟨c, answer⟩ :: first, second, rfl, .ask left, right⟩
  · rintro ⟨a, first, second, rfl, left, right⟩
    induction p generalizing first with
    | ok a' =>
        cases left
        exact right
    | error e => cases left
    | ask c next ih =>
        obtain ⟨answer, rest, rfl, left'⟩ := runs_ask_ok.mp left
        exact .ask (ih answer rest left')

/-- A run of a sequence is still in the first part or has passed to the second. -/
theorem runs_bind {p : Proc Call Answer ε α} {events : List (Event Call Answer)} {q : Proc Call Answer ε β}
    (run : Runs (p >>= f) events q) :
    (∃ p', Runs p events p' ∧ q = p' >>= f) ∨
      ∃ a first second, events = first ++ second ∧ Runs p first (.ok a) ∧ Runs (f a) second q := by
  induction p generalizing events with
  | ok a => exact .inr ⟨a, [], events, rfl, .stop _, run⟩
  | error e =>
      cases run
      exact .inl ⟨.error e, .stop _, rfl⟩
  | ask c next ih =>
      rcases runs_ask.mp run with ⟨rfl, rfl⟩ | ⟨answer, rest, rfl, run'⟩
      · exact .inl ⟨.ask c next, .stop _, rfl⟩
      · rcases ih answer run' with ⟨p', reached, rfl⟩ | ⟨a, first, second, rfl, left, right⟩
        · exact .inl ⟨p', .ask reached, rfl⟩
        · exact .inr ⟨a, ⟨c, answer⟩ :: first, second, rfl, .ask left, right⟩

/-- What a list of events did to a state, given what each can do. -/
def Along {σ : Type} (Handles : σ → Event Call Answer → σ → Prop) :
    σ → List (Event Call Answer) → σ → Prop
  | s, [], s' => s' = s
  | s, event :: rest, s' => ∃ middle, Handles s event middle ∧ Along Handles middle rest s'

section Effects

variable {σ : Type} {Handles : σ → Event Call Answer → σ → Prop} {s s' : σ}
  {events later : List (Event Call Answer)}

theorem along_append : Along Handles s (events ++ later) s' ↔
    ∃ middle, Along Handles s events middle ∧ Along Handles middle later s' := by
  induction events generalizing s with
  | nil => simp [Along]
  | cons event rest ih =>
      simp only [List.cons_append, Along, ih]
      constructor
      · rintro ⟨first, handled, middle, left, right⟩
        exact ⟨middle, ⟨first, handled, left⟩, right⟩
      · rintro ⟨middle, ⟨first, handled, left⟩, right⟩
        exact ⟨first, handled, middle, left, right⟩

theorem Along.exists_of_mem {event : Event Call Answer} (along : Along Handles s events s')
    (member : event ∈ events) : ∃ a b, Handles a event b := by
  induction events generalizing s with
  | nil => cases member
  | cons first rest ih =>
      obtain ⟨middle, handled, along⟩ := along
      cases member with
      | head => exact ⟨s, middle, handled⟩
      | tail _ later => exact ih along later

/-- The induction over events: a relation that each of them keeps holds in the end. -/
theorem Along.fold {R : σ → σ → Prop} (start : ∀ s, R s s)
    (extend : ∀ {a b c}, R a b → R b c → R a c)
    (each : ∀ event ∈ events, ∀ a b, Handles a event b → R a b)
    (along : Along Handles s events s') : R s s' := by
  induction events generalizing s with
  | nil =>
      cases along
      exact start _
  | cons event rest ih =>
      obtain ⟨middle, handled, along⟩ := along
      have first := each event List.mem_cons_self _ _ handled
      exact extend first (ih (fun e member => each e (List.mem_cons_of_mem _ member)) along)

end Effects

end Proc
