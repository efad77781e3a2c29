import BridgeOS.Clipboard.Guard

/-! # The guard as a bounded set

What the guard is for, in its own terms: a journal of the fresh insertions and of
the accepted receipts since the last clear. The guard's queue and set are the end
of the one, its table of numbers the last entries of the other.
-/

namespace BridgeOS.Clipboard

namespace EchoGuard

def clear (guard : EchoGuard) : EchoGuard :=
  { guard with history := [], seenHashes := ∅, sequences := ∅ }

inductive Operation where
  | recordSent (hash : FixedBytes 32)
  | recordReceived (origin : NodeId) (sequence : UInt64) (hash : FixedBytes 32)
  | clear

def perform (guard : EchoGuard) : Operation → EchoGuard
  | .recordSent hash => guard.recordSent hash
  | .recordReceived origin sequence hash => (guard.recordReceived origin sequence hash).2
  | .clear => guard.clear

def performAll (guard : EchoGuard) (operations : List Operation) : EchoGuard :=
  operations.foldl perform guard

/-- Everything since the last clear, oldest first. -/
structure Journal where
  inserted : List (FixedBytes 32)
  accepted : List (NodeId × UInt64)

namespace Journal

variable (capacity : Nat)

def empty : Journal := ⟨[], []⟩

/-- The most recent insertions, as many as there is room for. -/
def window (journal : Journal) : List (FixedBytes 32) := journal.inserted.rtake capacity

/-- The numbers accepted from an origin. -/
def numbers (journal : Journal) (origin : NodeId) : List UInt64 :=
  (journal.accepted.filter fun receipt => receipt.1 = origin).map Prod.snd

/-- A receipt is accepted if its hash is not in the window and its number above the last. -/
def Accepts (journal : Journal) (origin : NodeId) (sequence : UInt64) (hash : FixedBytes 32) : Prop :=
  hash ∉ journal.window capacity ∧ ∀ last ∈ (journal.numbers origin).getLast?, last < sequence

instance (journal : Journal) (origin : NodeId) (sequence : UInt64) (hash : FixedBytes 32) :
    Decidable (journal.Accepts capacity origin sequence hash) :=
  inferInstanceAs (Decidable (_ ∧ _))

def note (journal : Journal) : Operation → Journal
  | .recordSent hash =>
      if hash ∈ journal.window capacity then journal
      else { journal with inserted := journal.inserted ++ [hash] }
  | .recordReceived origin sequence hash =>
      if journal.Accepts capacity origin sequence hash then
        ⟨journal.inserted ++ [hash], journal.accepted ++ [(origin, sequence)]⟩
      else journal
  | .clear => empty

def noteAll (journal : Journal) (operations : List Operation) : Journal :=
  operations.foldl (note capacity) journal

variable {capacity} {journal : Journal}

theorem numbers_snoc (origin other : NodeId) (sequence : UInt64) (inserted : List (FixedBytes 32)) :
    numbers ⟨inserted, journal.accepted ++ [(origin, sequence)]⟩ other =
      if origin = other then journal.numbers other ++ [sequence] else journal.numbers other := by
  by_cases same : origin = other
  · simp [numbers, same]
  · simp [numbers, same]

end Journal

/-- The guard holds what the journal tells. -/
structure Refines (guard : EchoGuard) (journal : Journal) : Prop where
  room : 0 < guard.capacity
  tidy : guard.Tidy
  history : guard.history = journal.window guard.capacity
  last : ∀ origin, guard.lastSequence origin = (journal.numbers origin).getLast?

namespace Refines

variable {guard : EchoGuard} {journal : Journal} {hash : FixedBytes 32}

theorem mem_seenHashes (refines : guard.Refines journal) :
    hash ∈ guard.seenHashes ↔ hash ∈ journal.window guard.capacity := by
  rw [refines.tidy.mem_seenHashes, refines.history]

variable {origin : NodeId}

theorem fresh_iff (refines : guard.Refines journal) {sequence : UInt64} :
    guard.Fresh origin sequence hash ↔ journal.Accepts guard.capacity origin sequence hash := by
  rw [Journal.Accepts, ← refines.mem_seenHashes, ← refines.last]
  exact ⟨fun fresh => ⟨fresh.unseen, fresh.ahead⟩, fun accepts => ⟨accepts.1, accepts.2⟩⟩

/-- The guard's answer is the journal's. -/
theorem recordReceived_iff (refines : guard.Refines journal) {sequence : UInt64} :
    (guard.recordReceived origin sequence hash).1 = true ↔
      journal.Accepts guard.capacity origin sequence hash := by
  rw [← refines.fresh_iff]
  by_cases fresh : guard.Fresh origin sequence hash
  · simp [recordReceived_of_fresh fresh, fresh]
  · simp [recordReceived_of_not_fresh fresh, fresh]

theorem new (capacity : Nat) : (EchoGuard.new capacity).Refines .empty where
  room := by
    simp only [EchoGuard.new]
    split <;> omega
  tidy := tidy_new capacity
  history := by simp [EchoGuard.new, Journal.window, Journal.empty]
  last := fun _ => rfl

theorem recordSent (refines : guard.Refines journal) (hash : FixedBytes 32) :
    (guard.recordSent hash).Refines (journal.note guard.capacity (.recordSent hash)) := by
  have pushed := refines.tidy.pushHash hash
  refine ⟨?_, pushed.2, ?_, ?_⟩
  · rw [EchoGuard.recordSent, pushHash_capacity]
    exact refines.room
  · rw [EchoGuard.recordSent, pushHash_capacity, pushed.1, refines.history, Journal.note]
    split
    · rename_i known
      exact Recent.push_of_mem known
    · rename_i new
      exact Recent.push_rtake refines.room new
  · intro origin
    have same : (journal.note guard.capacity (.recordSent hash)).numbers origin =
        journal.numbers origin := by
      rw [Journal.note]
      split <;> rfl
    rw [same, ← refines.last, EchoGuard.recordSent, lastSequence, pushHash_sequences, lastSequence]

theorem recordReceived (refines : guard.Refines journal) (origin : NodeId) (sequence : UInt64)
    (hash : FixedBytes 32) : (guard.recordReceived origin sequence hash).2.Refines
      (journal.note guard.capacity (.recordReceived origin sequence hash)) := by
  rw [Journal.note]
  split
  · rename_i accepts
    rw [recordReceived_of_fresh (refines.fresh_iff.mpr accepts)]
    have noted := refines.tidy.noted origin sequence hash
    refine ⟨?_, noted.2, ?_, ?_⟩
    · rw [noted_capacity]
      exact refines.room
    · rw [noted_capacity, noted.1, refines.history]
      exact Recent.push_rtake refines.room accepts.1
    · intro other
      rw [lastSequence_noted, Journal.numbers_snoc]
      by_cases same : other = origin
      · simp [same]
      · simp [same, Ne.symm same, refines.last]
  · rename_i refused
    rw [recordReceived_of_not_fresh (refines.fresh_iff.not.mpr refused)]
    exact refines

theorem clear (refines : guard.Refines journal) : guard.clear.Refines .empty where
  room := refines.room
  tidy := ⟨rfl, List.nodup_nil⟩
  history := by simp [EchoGuard.clear, Journal.window, Journal.empty]
  last := fun _ => rfl

theorem perform (refines : guard.Refines journal) (operation : Operation) :
    (guard.perform operation).Refines (journal.note guard.capacity operation) := by
  cases operation with
  | recordSent hash => exact refines.recordSent hash
  | recordReceived origin sequence hash => exact refines.recordReceived origin sequence hash
  | clear => exact refines.clear

end Refines

variable {guard : EchoGuard} {journal : Journal}

theorem perform_capacity (operation : Operation) : (guard.perform operation).capacity = guard.capacity := by
  cases operation with
  | recordSent hash => exact pushHash_capacity
  | recordReceived origin sequence hash =>
      rw [perform]
      by_cases fresh : guard.Fresh origin sequence hash
      · rw [recordReceived_of_fresh fresh, noted_capacity]
      · rw [recordReceived_of_not_fresh fresh]
  | clear => rfl

theorem performAll_capacity (operations : List Operation) :
    (guard.performAll operations).capacity = guard.capacity := by
  induction operations generalizing guard with
  | nil => rfl
  | cons operation rest ih =>
      rw [performAll, List.foldl_cons, ← performAll, ih, perform_capacity]

theorem Refines.performAll (refines : guard.Refines journal) (operations : List Operation) :
    (guard.performAll operations).Refines (journal.noteAll guard.capacity operations) := by
  induction operations generalizing guard journal with
  | nil => exact refines
  | cons operation rest ih =>
      have later := ih (refines.perform operation)
      rwa [perform_capacity] at later

/-- Unless it is cleared, the number of an origin never goes back. -/
theorem lastSequence_perform {operation : Operation} (kept : operation ≠ .clear) {last : UInt64}
    (known : last ∈ guard.lastSequence origin) :
    ∃ later ∈ (guard.perform operation).lastSequence origin, last ≤ later := by
  cases operation with
  | recordSent hash =>
      refine ⟨last, ?_, UInt64.le_refl last⟩
      rw [perform, EchoGuard.recordSent, lastSequence, pushHash_sequences]
      exact known
  | recordReceived named sequence hash =>
      rw [perform]
      by_cases fresh : guard.Fresh named sequence hash
      · rw [recordReceived_of_fresh fresh]
        exact fresh.le_lastSequence known
      · rw [recordReceived_of_not_fresh fresh]
        exact ⟨last, known, UInt64.le_refl last⟩
  | clear => exact absurd rfl kept

theorem lastSequence_performAll {operations : List Operation} (kept : .clear ∉ operations) {last : UInt64}
    (known : last ∈ guard.lastSequence origin) :
    ∃ later ∈ (guard.performAll operations).lastSequence origin, last ≤ later := by
  induction operations generalizing guard last with
  | nil => exact ⟨last, known, UInt64.le_refl last⟩
  | cons operation rest ih =>
      rw [List.mem_cons, not_or] at kept
      obtain ⟨next, found, above⟩ := lastSequence_perform (Ne.symm kept.1) known
      obtain ⟨later, final, further⟩ := ih kept.2 found
      exact ⟨later, final, UInt64.le_trans above further⟩

/-- A new guard after some calls. -/
def after (capacity : Nat) (operations : List Operation) : EchoGuard :=
  (new capacity).performAll operations

/-- The journal of these calls. -/
def Journal.of (capacity : Nat) (operations : List Operation) : Journal :=
  empty.noteAll (new capacity).capacity operations

theorem after_capacity (capacity : Nat) (operations : List Operation) :
    (after capacity operations).capacity = (new capacity).capacity :=
  performAll_capacity operations

theorem refines_after (capacity : Nat) (operations : List Operation) :
    (after capacity operations).Refines (.of capacity operations) :=
  (Refines.new capacity).performAll operations

/-- Any calls of a new guard of any capacity, and any further ones without a clear among them. -/
theorem refines_bounded_set (capacity : Nat) (operations : List Operation) :
    (after capacity operations).capacity = (if capacity = 0 then 256 else capacity) ∧
      (after capacity operations).history.Nodup ∧
      (after capacity operations).history.toFinset = (after capacity operations).seenHashes ∧
      (after capacity operations).history.length ≤ (after capacity operations).capacity ∧
      (∀ hash, (after capacity operations).shouldSuppress hash = true ↔
        hash ∈ (Journal.of capacity operations).window (after capacity operations).capacity) ∧
      (∀ origin sequence hash,
        ((after capacity operations).recordReceived origin sequence hash).1 = true ↔
          (Journal.of capacity operations).Accepts (after capacity operations).capacity origin
            sequence hash) ∧
      (∀ origin, (after capacity operations).lastSequence origin =
        ((Journal.of capacity operations).numbers origin).getLast?) ∧
      ∀ further, .clear ∉ further → ∀ origin,
        ∀ last ∈ (after capacity operations).lastSequence origin,
          ∃ later ∈ (after capacity (operations ++ further)).lastSequence origin, last ≤ later := by
  have refines := refines_after capacity operations
  refine ⟨after_capacity capacity operations, refines.tidy.distinct, refines.tidy.seen.symm, ?_, ?_,
    ?_, refines.last, ?_⟩
  · rw [refines.history, Journal.window, List.rtake, List.length_drop]
    omega
  · intro hash
    rw [shouldSuppress, decide_eq_true_iff, refines.mem_seenHashes]
  · intro origin sequence hash
    exact refines.recordReceived_iff
  · intro further kept origin last known
    have longer : after capacity (operations ++ further) =
        (after capacity operations).performAll further := List.foldl_append
    rw [longer]
    exact lastSequence_performAll kept known

end EchoGuard

end BridgeOS.Clipboard
