import BridgeOS.Clipboard.Engine
import BridgeOS.Lib.Recent

/-! # What the echo guard lets through

The guard keeps its window of hashes twice, in order and as a set. Handling a
peer's frame either leaves the engine as it was or notes one entry of one origin,
in which case the clipboard is set or cleared.
-/

namespace BridgeOS.Clipboard

namespace EchoGuard

variable {guard : EchoGuard} {origin : NodeId} {sequence : UInt64} {hash : FixedBytes 32}

def recordSent (guard : EchoGuard) (hash : FixedBytes 32) : EchoGuard := guard.pushHash hash

def lastSequence (guard : EchoGuard) (origin : NodeId) : Option UInt64 :=
  guard.sequences.lookup origin

/-- The set is the content of the queue. -/
structure Tidy (guard : EchoGuard) : Prop where
  seen : guard.seenHashes = guard.history.toFinset
  distinct : guard.history.Nodup

theorem Tidy.mem_seenHashes (tidy : guard.Tidy) : hash ∈ guard.seenHashes ↔ hash ∈ guard.history := by
  rw [tidy.seen, List.mem_toFinset]

theorem tidy_new (capacity : Nat) : (EchoGuard.new capacity).Tidy := ⟨rfl, List.nodup_nil⟩

@[simp] theorem pushHash_sequences : (guard.pushHash hash).sequences = guard.sequences := by
  unfold pushHash
  split
  · rfl
  · dsimp only
    split
    · split <;> rfl
    · rfl

@[simp] theorem pushHash_capacity : (guard.pushHash hash).capacity = guard.capacity := by
  unfold pushHash
  split
  · rfl
  · dsimp only
    split
    · split <;> rfl
    · rfl

/-- The queue is a window of the most recent distinct hashes, and the set stays its content. -/
theorem Tidy.pushHash (tidy : guard.Tidy) (hash : FixedBytes 32) :
    (guard.pushHash hash).history = Recent.push guard.capacity guard.history hash ∧
      (guard.pushHash hash).Tidy := by
  by_cases known : hash ∈ guard.history
  · have unchanged : guard.pushHash hash = guard := if_pos (tidy.mem_seenHashes.mpr known)
    rw [unchanged, Recent.push_of_mem known]
    exact ⟨rfl, tidy⟩
  · have pushed : (guard.pushHash hash).history = Recent.push guard.capacity guard.history hash ∧
        (guard.pushHash hash).seenHashes = (guard.pushHash hash).history.toFinset := by
      have distinct := tidy.distinct
      rw [Recent.push_of_not_mem known, EchoGuard.pushHash, if_neg (tidy.mem_seenHashes.not.mpr known)]
      dsimp only
      by_cases full : guard.capacity ≤ guard.history.length
      · rw [if_pos full, if_pos full]
        cases queue : guard.history with
        | nil =>
            rw [queue] at known
            exact ⟨by simp [queue], by simp [tidy.seen, queue]⟩
        | cons oldest rest =>
            rw [queue, List.nodup_cons] at distinct
            refine ⟨rfl, ?_⟩
            ext other
            simp only [tidy.seen, queue, List.toFinset_cons, Finset.mem_insert, Finset.mem_erase,
              List.mem_toFinset, List.mem_append, List.mem_singleton]
            constructor
            · rintro (rfl | ⟨different, rfl | old⟩)
              · exact .inr rfl
              · exact absurd rfl different
              · exact .inl old
            · rintro (old | rfl)
              · exact .inr ⟨fun same => distinct.1 (same ▸ old), .inr old⟩
              · exact .inl rfl
      · rw [if_neg full, if_neg full]
        refine ⟨rfl, ?_⟩
        ext other
        simp only [tidy.seen, Finset.mem_insert, List.mem_toFinset, List.mem_append,
          List.mem_singleton]
        exact or_comm
    refine ⟨pushed.1, pushed.2, ?_⟩
    rw [pushed.1]
    exact Recent.nodup_push tidy.distinct

/-- Neither a known hash nor a sequence number that is not above the last one. -/
structure Fresh (guard : EchoGuard) (origin : NodeId) (sequence : UInt64) (hash : FixedBytes 32) :
    Prop where
  unseen : hash ∉ guard.seenHashes
  ahead : ∀ last ∈ guard.lastSequence origin, last < sequence

/-- The guard that has taken note of an entry. -/
def noted (guard : EchoGuard) (origin : NodeId) (sequence : UInt64) (hash : FixedBytes 32) :
    EchoGuard :=
  { guard with sequences := guard.sequences.insert origin sequence }.pushHash hash

theorem recordReceived_of_fresh (fresh : guard.Fresh origin sequence hash) :
    guard.recordReceived origin sequence hash = (true, guard.noted origin sequence hash) := by
  have ahead : ¬ (guard.sequences.lookup origin).any (fun last => decide (sequence ≤ last)) = true := by
    cases found : guard.sequences.lookup origin with
    | none => simp
    | some last =>
        have above := fresh.ahead last found
        rw [UInt64.lt_iff_toNat_lt] at above
        simp only [Option.any_some, decide_eq_true_eq, UInt64.le_iff_toNat_le]
        omega
  simp only [recordReceived, shouldSuppress, fresh.unseen, decide_false, Bool.false_eq_true, if_false,
    ahead]
  rfl

theorem recordReceived_of_not_fresh (stale : ¬ guard.Fresh origin sequence hash) :
    guard.recordReceived origin sequence hash = (false, guard) := by
  unfold recordReceived shouldSuppress
  by_cases known : hash ∈ guard.seenHashes
  · simp [known]
  · have behind : (guard.sequences.lookup origin).any (fun last => decide (sequence ≤ last)) = true := by
      by_contra ahead
      refine stale ⟨known, ?_⟩
      intro last found
      rw [lastSequence, Option.mem_def] at found
      simp only [found, Option.any_some, decide_eq_true_eq, UInt64.le_iff_toNat_le] at ahead
      rw [UInt64.lt_iff_toNat_lt]
      omega
    simp [known, behind]

theorem lastSequence_noted (other : NodeId) :
    (guard.noted origin sequence hash).lastSequence other =
      if other = origin then some sequence else guard.lastSequence other := by
  rw [lastSequence, noted, pushHash_sequences]
  split
  · rename_i same
    rw [same]
    exact AList.lookup_insert _
  · rename_i different
    exact AList.lookup_insert_ne different

/-- Noting a fresh entry puts no origin's number back. -/
theorem Fresh.le_lastSequence (fresh : guard.Fresh origin sequence hash) {other : NodeId}
    {last : UInt64} (known : last ∈ guard.lastSequence other) :
    ∃ later ∈ (guard.noted origin sequence hash).lastSequence other, last ≤ later := by
  rw [lastSequence_noted]
  split
  · rename_i same
    subst same
    exact ⟨sequence, rfl, UInt64.le_of_lt (fresh.ahead last known)⟩
  · exact ⟨last, known, UInt64.le_refl last⟩

theorem Tidy.noted (tidy : guard.Tidy) (origin : NodeId) (sequence : UInt64) (hash : FixedBytes 32) :
    (guard.noted origin sequence hash).history = Recent.push guard.capacity guard.history hash ∧
      (guard.noted origin sequence hash).Tidy := by
  have still : Tidy { guard with sequences := guard.sequences.insert origin sequence } :=
    ⟨tidy.seen, tidy.distinct⟩
  exact still.pushHash hash

@[simp] theorem noted_capacity : (guard.noted origin sequence hash).capacity = guard.capacity :=
  pushHash_capacity

end EchoGuard

theorem ClipboardEntry.validateIntegrity_eq_ok {blake3 : Bytes → FixedBytes 32} {entry : ClipboardEntry}
    (intact : entry.validateIntegrity blake3 = .ok ()) :
    entry.metadata.contentHash = entry.content.computeHash blake3 ∧
      entry.metadata.byteSize.toNat = entry.content.byteLen := by
  unfold validateIntegrity at intact
  dsimp only at intact
  split at intact
  · cases intact
  · rename_i hash
    split at intact
    · cases intact
    · rename_i size
      exact ⟨(not_not.mp hash).symm, (not_not.mp size).symm⟩

namespace ClipboardSyncEngine

variable {σ : Type} (blake3 : Bytes → FixedBytes 32) (backend : ClipboardBackend σ)
  {engine : ClipboardSyncEngine σ}

/-- An entry that passes every check of `handle_incoming_frame`. -/
structure Admits (engine : ClipboardSyncEngine σ) (entry : ClipboardEntry) : Prop where
  foreign : entry.metadata.origin ≠ engine.localNodeId
  intact : entry.validateIntegrity blake3 = .ok ()
  allowed : engine.policy.validate entry.content entry.metadata.isSensitive = .ok ()
  fresh : engine.guard.Fresh entry.metadata.origin entry.metadata.sequence entry.metadata.contentHash

/-- The hash a clear instruction is noted under. -/
def clearHash : FixedBytes 32 := .fill 32 0

/-- What handling a frame makes of the engine. -/
inductive Becomes (engine : ClipboardSyncEngine σ) (frame : DataFrame) :
    ClipboardSyncEngine σ → Prop where
  | unchanged : Becomes engine frame engine
  | synced {entry : ClipboardEntry} (message : ClipboardMessage.fromDataFrame frame = .ok (.sync entry))
      (admits : Admits blake3 engine entry) : Becomes engine frame { engine with
        guard := engine.guard.noted entry.metadata.origin entry.metadata.sequence
          entry.metadata.contentHash
        clipboard := (backend.setContent engine.clipboard entry.content).2 }
  | cleared {origin : NodeId} {sequence timestampMs : UInt64}
      (message : ClipboardMessage.fromDataFrame frame = .ok (.clear origin sequence timestampMs))
      (foreign : origin ≠ engine.localNodeId) (fresh : engine.guard.Fresh origin sequence clearHash) :
      Becomes engine frame { engine with
        guard := engine.guard.noted origin sequence clearHash
        clipboard := (backend.clear engine.clipboard).2 }

theorem applySync_of_admits {entry : ClipboardEntry} (admits : Admits blake3 engine entry) :
    (engine.applySync blake3 backend entry).engine = { engine with
      guard := engine.guard.noted entry.metadata.origin entry.metadata.sequence
        entry.metadata.contentHash
      clipboard := (backend.setContent engine.clipboard entry.content).2 } := by
  unfold applySync
  rw [if_neg admits.foreign]
  simp only [admits.intact, admits.allowed, EchoGuard.recordReceived_of_fresh admits.fresh]
  split <;> simp_all

theorem applySync_of_not_admits {entry : ClipboardEntry} (refused : ¬ Admits blake3 engine entry) :
    (engine.applySync blake3 backend entry).engine = engine := by
  unfold applySync
  split
  · rfl
  · rename_i foreign
    split
    · rfl
    · rename_i intact
      split
      · rfl
      · rename_i allowed
        have stale : ¬ engine.guard.Fresh entry.metadata.origin entry.metadata.sequence
            entry.metadata.contentHash := fun fresh => refused ⟨foreign, intact, allowed, fresh⟩
        rw [EchoGuard.recordReceived_of_not_fresh stale]

theorem applyClear_of_fresh {origin : NodeId} {sequence : UInt64}
    (foreign : origin ≠ engine.localNodeId) (fresh : engine.guard.Fresh origin sequence clearHash) :
    (engine.applyClear backend origin sequence).engine = { engine with
      guard := engine.guard.noted origin sequence clearHash
      clipboard := (backend.clear engine.clipboard).2 } := by
  unfold applyClear
  rw [if_neg foreign, ← clearHash, EchoGuard.recordReceived_of_fresh fresh]
  dsimp only
  split <;> simp_all

theorem applyClear_of_not_fresh {origin : NodeId} {sequence : UInt64}
    (stale : origin = engine.localNodeId ∨ ¬ engine.guard.Fresh origin sequence clearHash) :
    (engine.applyClear backend origin sequence).engine = engine := by
  unfold applyClear
  split
  · rfl
  · rename_i foreign
    rw [← clearHash, EchoGuard.recordReceived_of_not_fresh (stale.resolve_left foreign)]

theorem handleIncomingFrame_becomes (engine : ClipboardSyncEngine σ) (frame : DataFrame) :
    Becomes blake3 backend engine frame (engine.handleIncomingFrame blake3 backend frame).engine := by
  unfold handleIncomingFrame
  split
  · exact .unchanged
  · rename_i entry message
    by_cases admits : Admits blake3 engine entry
    · rw [applySync_of_admits blake3 backend admits]
      exact .synced message admits
    · rw [applySync_of_not_admits blake3 backend admits]
      exact .unchanged
  · rename_i origin sequence timestampMs message
    by_cases fresh : origin ≠ engine.localNodeId ∧ engine.guard.Fresh origin sequence clearHash
    · rw [applyClear_of_fresh backend fresh.1 fresh.2]
      exact .cleared message fresh.1 fresh.2
    · rw [applyClear_of_not_fresh backend (by tauto)]
      exact .unchanged
  · exact .unchanged

/-- The frame holds a fresh entry or clear instruction in the name of `origin`. -/
inductive Speaks (engine : ClipboardSyncEngine σ) (frame : DataFrame) : NodeId → Prop where
  | sync {entry : ClipboardEntry} (message : ClipboardMessage.fromDataFrame frame = .ok (.sync entry))
      (admits : Admits blake3 engine entry) : Speaks engine frame entry.metadata.origin
  | clear {origin : NodeId} {sequence timestampMs : UInt64}
      (message : ClipboardMessage.fromDataFrame frame = .ok (.clear origin sequence timestampMs))
      (foreign : origin ≠ engine.localNodeId) (fresh : engine.guard.Fresh origin sequence clearHash) :
      Speaks engine frame origin

theorem handleIncomingFrame_of_sync {frame : DataFrame} {entry : ClipboardEntry}
    (message : ClipboardMessage.fromDataFrame frame = .ok (.sync entry))
    (admits : Admits blake3 engine entry) :
    (engine.handleIncomingFrame blake3 backend frame).engine = { engine with
      guard := engine.guard.noted entry.metadata.origin entry.metadata.sequence
        entry.metadata.contentHash
      clipboard := (backend.setContent engine.clipboard entry.content).2 } := by
  simp only [handleIncomingFrame, message]
  exact applySync_of_admits blake3 backend admits

/-- Noting an entry is seen in the record of its origin: the number goes up. -/
theorem lastSequence_noted_ne {guard : EchoGuard} {origin : NodeId} {sequence : UInt64}
    {hash : FixedBytes 32} (fresh : guard.Fresh origin sequence hash) :
    (guard.noted origin sequence hash).lastSequence origin ≠ guard.lastSequence origin := by
  rw [EchoGuard.lastSequence_noted, if_pos rfl]
  intro same
  have ahead := fresh.ahead sequence same.symm
  rw [UInt64.lt_iff_toNat_lt] at ahead
  exact Nat.lt_irrefl _ ahead

/-- The record of an origin changes exactly when the frame speaks for it. -/
theorem lastSequence_changes_iff (engine : ClipboardSyncEngine σ) (frame : DataFrame)
    (origin : NodeId) :
    (engine.handleIncomingFrame blake3 backend frame).engine.guard.lastSequence origin ≠
      engine.guard.lastSequence origin ↔ Speaks blake3 engine frame origin := by
  constructor
  · intro changed
    have becomes := handleIncomingFrame_becomes blake3 backend engine frame
    generalize (engine.handleIncomingFrame blake3 backend frame).engine = after at changed becomes
    cases becomes with
    | unchanged => exact absurd rfl changed
    | @synced entry message admits =>
        by_cases same : origin = entry.metadata.origin
        · rw [same]
          exact .sync message admits
        · exact absurd ((EchoGuard.lastSequence_noted origin).trans (if_neg same)) changed
    | @cleared named sequence timestampMs message foreign fresh =>
        by_cases same : origin = named
        · rw [same]
          exact .clear message foreign fresh
        · exact absurd ((EchoGuard.lastSequence_noted origin).trans (if_neg same)) changed
  · intro speaks
    cases speaks with
    | sync message admits =>
        rw [handleIncomingFrame_of_sync blake3 backend message admits]
        exact lastSequence_noted_ne admits.fresh
    | clear message foreign fresh =>
        simp only [handleIncomingFrame, message, applyClear_of_fresh backend foreign fresh]
        exact lastSequence_noted_ne fresh

end ClipboardSyncEngine

end BridgeOS.Clipboard
