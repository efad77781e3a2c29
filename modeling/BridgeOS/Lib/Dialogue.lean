import BridgeOS.Lib.Proc
import Mathlib.Logic.Relation

/-! # Two parties that talk to each other

A party is a deterministic machine that reads what has been delivered to it and
sends what it has to say. It moves by itself: what is delivered while it could
move changes nothing about the move. Two such parties may take turns in any
order, and the order does not matter. As soon as one run of the two comes to an
end, every other one can be continued to the same end.
-/

structure Party (S M : Type) where
  /-- The next state and what is sent, if there is a move. -/
  move : S → Option (S × List M)
  deliver : S → List M → S
  deliver_append : ∀ s a b, deliver (deliver s a) b = deliver s (a ++ b)
  deliver_nil : ∀ s, deliver s [] = s
  move_deliver : ∀ {s s' sent} more, move s = some (s', sent) →
    move (deliver s more) = some (deliver s' more, sent)

/-- Moves of one party in a row, with everything it sends. -/
inductive Party.Goes {S M : Type} (party : Party S M) : S → List M → S → Prop where
  | refl (s) : Goes party s [] s
  | step {s s' s'' sent more} (moved : party.move s = some (s', sent)) (later : Goes party s' more s'') :
      Goes party s (sent ++ more) s''

namespace Dialogue

open Relation

variable {S T M : Type} {left : Party S M} {right : Party T M}

inductive Step (left : Party S M) (right : Party T M) : S × T → S × T → Prop where
  | left {s s' t sent} (moved : left.move s = some (s', sent)) :
      Step left right (s, t) (s', right.deliver t sent)
  | right {s t t' sent} (moved : right.move t = some (t', sent)) :
      Step left right (s, t) (left.deliver s sent, t')

abbrev Steps (left : Party S M) (right : Party T M) : S × T → S × T → Prop :=
  ReflTransGen (Step left right)

theorem steps_left (right : Party T M) {s s' : S} {sent : List M} (goes : left.Goes s sent s') (t : T) :
    Steps left right (s, t) (s', right.deliver t sent) := by
  induction goes generalizing t with
  | refl s =>
      rw [right.deliver_nil]
  | @step s s' s'' sent more moved _ ih =>
      have onward := ih (right.deliver t sent)
      rw [right.deliver_append] at onward
      exact .head (.left moved) onward

theorem steps_right (left : Party S M) {t t' : T} {sent : List M} (goes : right.Goes t sent t') (s : S) :
    Steps left right (s, t) (left.deliver s sent, t') := by
  induction goes generalizing s with
  | refl t =>
      rw [left.deliver_nil]
  | @step t t' t'' sent more moved _ ih =>
      have onward := ih (left.deliver s sent)
      rw [left.deliver_append] at onward
      exact .head (.right moved) onward

/-- Two moves from one state are the same, or each can still be made after the other. -/
theorem Step.diamond {a b c : S × T} (first : Step left right a b) (second : Step left right a c) :
    b = c ∨ ∃ d, Step left right b d ∧ Step left right c d := by
  cases first with
  | @left s s₁ t sent moved =>
      cases second with
      | @left s s₂ t sent' moved' =>
          cases moved.symm.trans moved'
          exact .inl rfl
      | @right s t t₂ sent' moved' =>
          exact .inr ⟨(left.deliver s₁ sent', right.deliver t₂ sent),
            .right (right.move_deliver sent moved'), .left (left.move_deliver sent' moved)⟩
  | @right s t t₁ sent moved =>
      cases second with
      | @left s s₂ t sent' moved' =>
          exact .inr ⟨(left.deliver s₂ sent, right.deliver t₁ sent'),
            .left (left.move_deliver sent moved'), .right (right.move_deliver sent' moved)⟩
      | @right s t t₂ sent' moved' =>
          cases moved.symm.trans moved'
          exact .inl rfl

/-- Every run can be continued to where one run ends. -/
theorem steps_to_end {start s final : S × T} (reached : Steps left right start s)
    (ended : Steps left right start final) (stopped : ∀ s', ¬ Step left right final s') :
    Steps left right s final := by
  have joins : Join (Steps left right) s final := by
    apply church_rosser _ reached ended
    intro a b c first second
    rcases first.diamond second with rfl | ⟨d, fromFirst, fromSecond⟩
    · exact ⟨b, .refl, .refl⟩
    · exact ⟨d, .single fromFirst, .single fromSecond⟩
  obtain ⟨d, onward, stays⟩ := joins
  rcases stays.cases_head with rfl | ⟨s', step, -⟩
  · exact onward
  · exact absurd step (stopped s')

/-- Nothing else is the end of a run. -/
theorem eq_end_or_step {start s final : S × T} (reached : Steps left right start s)
    (ended : Steps left right start final) (stopped : ∀ s', ¬ Step left right final s') :
    s = final ∨ ∃ s', Step left right s s' := by
  rcases (steps_to_end reached ended stopped).cases_head with same | ⟨s', step, -⟩
  · exact .inl same
  · exact .inr ⟨s', step⟩

end Dialogue

/-- What becomes of a question: it is answered, or something is taken note of and the
    question stands. -/
inductive Reply (D M A : Type) where
  | answer (answer : A) (desk : D) (sent : List M)
  | again (desk : D) (sent : List M)

def Reply.onDesk {D M A : Type} (f : D → D) : Reply D M A → Reply D M A
  | .answer a d sent => .answer a (f d) sent
  | .again d sent => .again (f d) sent

/-- The surroundings of a program, with what has been delivered to it. Every
    question has at most one reply, and a reply does not depend on later deliveries. -/
structure Desk (Call : Type) (Answer : Call → Type) (D M : Type) where
  reply : D → (c : Call) → Option (Reply D M (Answer c))
  deliver : D → List M → D
  deliver_append : ∀ d a b, deliver (deliver d a) b = deliver d (a ++ b)
  deliver_nil : ∀ d, deliver d [] = d
  reply_deliver : ∀ {d c found} more, reply d c = some found →
    reply (deliver d more) c = some (found.onDesk fun d => deliver d more)

namespace Desk

open Proc Dialogue

variable {Call : Type} {Answer : Call → Type} {D M ε α : Type} (desk : Desk Call Answer D M)

def move : Proc Call Answer ε α × D → Option ((Proc Call Answer ε α × D) × List M)
  | (.ask c next, d) =>
      match desk.reply d c with
      | some (.answer answer d' sent) => some ((next answer, d'), sent)
      | some (.again d' sent) => some ((.ask c next, d'), sent)
      | none => none
  | _ => none

/-- A program at its desk. -/
def party : Party (Proc Call Answer ε α × D) M where
  move := desk.move
  deliver s more := (s.1, desk.deliver s.2 more)
  deliver_append s a b := congrArg (Prod.mk s.1) (desk.deliver_append s.2 a b)
  deliver_nil s := congrArg (Prod.mk s.1) (desk.deliver_nil s.2)
  move_deliver := by
    intro s s' sent more moved
    obtain ⟨p, d⟩ := s
    cases p with
    | ok a => cases moved
    | error e => cases moved
    | ask c next =>
        unfold move at moved ⊢
        dsimp only at moved ⊢
        cases replied : desk.reply d c with
        | none => simp [replied] at moved
        | some found =>
            rw [replied] at moved
            rw [desk.reply_deliver more replied]
            cases found <;> cases moved <;> rfl

/-- Questions answered one after the other, with what is sent on the way. -/
inductive Serves : D → List (Event Call Answer) → List M → D → Prop where
  | nil {d} : Serves d [] [] d
  | quiet {d d' d'' c answer events sent} (replied : desk.reply d c = some (.answer answer d' []))
      (later : Serves d' events sent d'') : Serves d (⟨c, answer⟩ :: events) sent d''
  | sends {d d' d'' c answer message events sent}
      (replied : desk.reply d c = some (.answer answer d' [message]))
      (later : Serves d' events sent d'') : Serves d (⟨c, answer⟩ :: events) (message :: sent) d''

variable {desk} {p q : Proc Call Answer ε α} {events : List (Event Call Answer)} {d d' : D}
  {sent : List M}

/-- A run of the program along the questions that are answered is a run of the party. -/
theorem Serves.goes (served : desk.Serves d events sent d') (run : Runs p events q) :
    desk.party.Goes (p, d) sent (q, d') := by
  induction served generalizing p with
  | nil =>
      cases run
      exact .refl _
  | @quiet d d' d'' c answer events sent replied _ ih =>
      cases run with
      | @ask _ next _ _ _ rest =>
          have moved : desk.party.move (.ask c next, d) = some ((next answer, d'), []) := by
            simp only [party, move, replied]
          exact .step moved (ih rest)
  | @sends d d' d'' c answer message events sent replied _ ih =>
      cases run with
      | @ask _ next _ _ _ rest =>
          have moved : desk.party.move (.ask c next, d) = some ((next answer, d'), [message]) := by
            simp only [party, move, replied]
          exact .step moved (ih rest)

end Desk
