import Mathlib.Data.List.Induction
import Mathlib.Data.List.Nodup
import Mathlib.Logic.Function.Basic
import Mathlib.Tactic.Common

/-! # Two registers that copy each other

Each side has a register. What is put into one is sent to the other, if the side
allows it, and replaces whatever is there when it arrives, if the other side
allows it. Nothing orders the two directions, so the sides agree in the end
exactly when the last value that gets across was put where nothing was still to
come, and every later one where something was.
-/

inductive Side where
  | left
  | right
  deriving DecidableEq

namespace Side

def other : Side → Side
  | .left => .right
  | .right => .left

@[simp] theorem other_other (side : Side) : side.other.other = side := by cases side <;> rfl

@[simp] theorem other_ne (side : Side) : side.other ≠ side := by cases side <;> decide

@[simp] theorem ne_other (side : Side) : side ≠ side.other := by cases side <;> decide

theorem eq_or_eq_other (side which : Side) : which = side ∨ which = side.other := by
  cases side <;> cases which <;> decide

end Side

/-- From the last element on that counts, the condition holds of each element and
    what came before it. -/
def FromLast {α : Type} (counts : α → Bool) (holds : List α → α → Prop) (l : List α) : Prop :=
  ∀ before a after, l = before ++ a :: after → (∀ b ∈ after, counts b = false) → holds before a

section FromLast

variable {α : Type} {counts : α → Bool} {holds : List α → α → Prop}

theorem fromLast_nil (counts : α → Bool) (holds : List α → α → Prop) : FromLast counts holds [] := by
  intro before a after split
  simp at split

theorem fromLast_snoc {l : List α} {a : α} :
    FromLast counts holds (l ++ [a]) ↔ holds l a ∧ (counts a = false → FromLast counts holds l) := by
  constructor
  · intro all
    refine ⟨all l a [] rfl nofun, ?_⟩
    intro uncounted before b after split rest
    refine all before b (after ++ [a]) (by simp [split]) ?_
    intro c member
    rcases List.mem_append.mp member with inside | last
    · exact rest c inside
    · rw [List.mem_singleton.mp last]
      exact uncounted
  · rintro ⟨last, earlier⟩ before b after split rest
    cases after using List.reverseRecOn with
    | nil =>
        obtain ⟨rfl, tail⟩ := List.append_inj' split rfl
        cases tail
        exact last
    | append_singleton after c =>
        rw [← List.cons_append, ← List.append_assoc] at split
        obtain ⟨rfl, tail⟩ := List.append_inj' split rfl
        cases tail
        refine earlier (rest a (by simp)) before b after rfl ?_
        exact fun c member => rest c (List.mem_append_left _ member)

end FromLast

structure Exchange (α : Type) where
  shown : Side → Option α
  /-- What is on its way to a side. -/
  pipe : Side → List α

namespace Exchange

inductive Move (α : Type) where
  | put (side : Side) (a : α)
  | arrive (side : Side)

def Move.value? {α : Type} : Move α → Option α
  | .put _ a => some a
  | .arrive _ => none

variable {α : Type} (allows : Side → α → Bool)

def empty : Exchange α := ⟨fun _ => none, fun _ => []⟩

def step (e : Exchange α) : Move α → Exchange α
  | .put side a =>
      ⟨Function.update e.shown side (some a),
        Function.update e.pipe side.other (e.pipe side.other ++ [a].filter (allows side))⟩
  | .arrive side =>
      match e.pipe side with
      | [] => e
      | a :: rest =>
          ⟨Function.update e.shown side (if allows side a then some a else e.shown side),
            Function.update e.pipe side rest⟩

def run (moves : List (Move α)) : Exchange α := moves.foldl (step allows) empty

/-- What will replace the value of a side. -/
def coming (e : Exchange α) (side : Side) : List α := (e.pipe side).filter (allows side)

/-- What a side will show once everything has arrived. -/
def outlook (e : Exchange α) (side : Side) : Option α := (e.coming allows side).getLast?.or (e.shown side)

def passes (a : α) : Bool := allows .left a && allows .right a

/-- The values that were put, on either side. -/
def values (moves : List (Move α)) : List α := moves.filterMap Move.value?

/-- From the last value on that both sides allow, nothing is to come when such a
    value is put, and something is when one is put that cannot get across. -/
def Settled (moves : List (Move α)) : Prop :=
  FromLast
    (fun
      | .put _ a => passes allows a
      | .arrive _ => false)
    (fun before move => match move with
      | .put side a => (run allows before).coming allows side = [] ↔ passes allows a
      | .arrive _ => True)
    moves

variable {allows}

theorem step_arrive_of_nil {e : Exchange α} {side : Side} (queue : e.pipe side = []) :
    e.step allows (.arrive side) = e := by simp only [step, queue]

theorem step_arrive_of_cons {e : Exchange α} {side : Side} {a : α} {rest : List α}
    (queue : e.pipe side = a :: rest) : e.step allows (.arrive side) =
      ⟨Function.update e.shown side (if allows side a then some a else e.shown side),
        Function.update e.pipe side rest⟩ := by
  simp only [step, queue]

theorem run_snoc (moves : List (Move α)) (move : Move α) :
    run allows (moves ++ [move]) = (run allows moves).step allows move := by simp [run]

theorem passes_iff (side : Side) (a : α) :
    passes allows a = true ↔ allows side a = true ∧ allows side.other a = true := by
  cases side with
  | left => exact Bool.and_eq_true_iff
  | right => exact Bool.and_eq_true_iff.trans And.comm

/-- A list with the value to fall back on. -/
theorem getLast?_cons_or (a : α) (l : List α) (b : Option α) :
    (a :: l).getLast?.or b = l.getLast?.or (some a) := by
  rw [List.getLast?_cons, Option.some_or]
  cases l.getLast? with
  | none => rfl
  | some last => rfl

theorem outlook_arrive (e : Exchange α) (side which : Side) :
    (e.step allows (.arrive side)).outlook allows which = e.outlook allows which := by
  cases queue : e.pipe side with
  | nil => rw [step_arrive_of_nil queue]
  | cons a rest =>
      rw [step_arrive_of_cons queue]
      rcases Side.eq_or_eq_other side which with rfl | rfl
      · by_cases allowed : allows which a = true
        · simp [outlook, coming, queue, allowed, getLast?_cons_or]
        · simp [outlook, coming, queue, allowed]
      · simp [outlook, coming]

theorem outlook_put_self (e : Exchange α) (side : Side) (a : α) :
    (e.step allows (.put side a)).outlook allows side =
      (e.coming allows side).getLast?.or (some a) := by
  simp [step, outlook, coming]

theorem outlook_put_other (e : Exchange α) (side : Side) (a : α) :
    (e.step allows (.put side a)).outlook allows side.other =
      if passes allows a then some a else e.outlook allows side.other := by
  by_cases sent : allows side a = true
  · by_cases taken : allows side.other a = true
    · rw [if_pos ((passes_iff side a).mpr ⟨sent, taken⟩)]
      simp [step, outlook, coming, sent, taken]
    · rw [if_neg fun both => taken ((passes_iff side a).mp both).2]
      simp [step, outlook, coming, sent, taken]
  · rw [if_neg fun both => sent ((passes_iff side a).mp both).1]
    simp [step, outlook, coming, sent]

theorem values_snoc_put (moves : List (Move α)) (side : Side) (a : α) :
    values (moves ++ [Move.put side a]) = values moves ++ [a] := by simp [values, Move.value?]

theorem values_snoc_arrive (moves : List (Move α)) (side : Side) :
    values (moves ++ [Move.arrive side]) = values moves := by simp [values, Move.value?]

/-- Only what was put can be shown in the end. -/
theorem mem_values_of_mem_outlook {moves : List (Move α)} {side : Side} {a : α}
    (member : a ∈ (run allows moves).outlook allows side) : a ∈ values moves := by
  induction moves using List.reverseRecOn with
  | nil => simp [run, empty, outlook, coming] at member
  | append_singleton moves move ih =>
      rw [run_snoc] at member
      cases move with
      | arrive which =>
          rw [outlook_arrive] at member
          rw [values_snoc_arrive]
          exact ih member
      | put which b =>
          rw [values_snoc_put, List.mem_append, List.mem_singleton]
          rcases Side.eq_or_eq_other which side with rfl | rfl
          · rw [outlook_put_self] at member
            rcases Option.or_eq_some_iff.mp member with last | ⟨-, new⟩
            · refine .inl (ih ?_)
              rw [outlook, last]
              rfl
            · cases new
              exact .inr rfl
          · rw [outlook_put_other] at member
            split at member
            · cases member
              exact .inr rfl
            · exact .inl (ih member)

/-- By induction from the right: an arrival changes no outlook, a value that gets
    across is the outlook of the other side, and one that does not matters where
    nothing is to come. -/
theorem outlooks_agree_iff {moves : List (Move α)} (distinct : (values moves).Nodup) :
    (run allows moves).outlook allows .left = (run allows moves).outlook allows .right ↔
      Settled allows moves := by
  have symmetric : ∀ (e : Exchange α) (side : Side),
      e.outlook allows .left = e.outlook allows .right ↔
        e.outlook allows side = e.outlook allows side.other := by
    intro e side
    cases side with
    | left => rfl
    | right => exact eq_comm
  induction moves using List.reverseRecOn with
  | nil => exact iff_of_true rfl (fromLast_nil _ _)
  | append_singleton moves move ih =>
      rw [run_snoc, Settled, fromLast_snoc]
      cases move with
      | arrive side =>
          rw [values_snoc_arrive] at distinct
          rw [outlook_arrive, outlook_arrive]
          refine (ih distinct).trans ?_
          simp [Settled]
      | put side a =>
          rw [values_snoc_put, List.nodup_append] at distinct
          have agree := (symmetric _ side).symm.trans (ih distinct.1)
          have new : ∀ which, (run allows moves).outlook allows which ≠ some a := by
            intro which shown
            exact distinct.2.2 a (mem_values_of_mem_outlook shown) a List.mem_cons_self rfl
          have replaced : (run allows moves).coming allows side ≠ [] →
              ((run allows moves).coming allows side).getLast?.or (some a) =
                (run allows moves).outlook allows side := by
            intro more
            rw [outlook, List.getLast?_eq_some_getLast more, Option.some_or, Option.some_or]
          rw [symmetric _ side, outlook_put_self, outlook_put_other]
          by_cases across : passes allows a = true
          · by_cases more : (run allows moves).coming allows side = []
            · simp [across, more]
            · rw [replaced more]
              simp [across, more, new side]
          · by_cases more : (run allows moves).coming allows side = []
            · simp [across, more, (new side.other).symm]
            · rw [replaced more]
              simp [across, more, agree, Settled]

end Exchange
