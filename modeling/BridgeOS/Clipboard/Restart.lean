import BridgeOS.Clipboard.Pair

/-! # A sender that starts again

A new engine numbers its entries from one, while its peers keep the highest
number they have applied for each node. After a restart the first entries are
therefore stale to a peer that has applied entries of an earlier life.
-/

namespace BridgeOS.Clipboard

namespace Station

variable {blake3 : Bytes → FixedBytes 32} {nodeId : NodeId}

/-- The clipboard is set to the text. -/
def Applies (blake3 : Bytes → FixedBytes 32) (s : Station) (frame : DataFrame) (body : String) : Prop :=
  (s.receive blake3 frame).engine.clipboard = s.engine.clipboard.setContent (.text body)

/-- An entry that only its number can keep from being applied. -/
theorem applies_iff {s : Station} {body : String} {timestampMs sequence : UInt64}
    (foreign : nodeId ≠ s.nodeId) (sized : (utf8 body).length < 2 ^ 63)
    (allowed : s.policy.validate (.text body) false = .ok ())
    (unseen : textHash blake3 body ∉ s.guard.seenHashes) :
    s.Applies blake3 (ClipboardMessage.sync (.new blake3 timestampMs nodeId sequence (.text body)
        false)).toDataFrame body ↔
      ∀ last ∈ s.guard.lastSequence nodeId, last < sequence := by
  have message := ClipboardEntry.fromDataFrame_new blake3 timestampMs nodeId sequence false sized
  have intact := ClipboardEntry.validateIntegrity_new blake3 timestampMs nodeId sequence false sized
  constructor
  · intro applies
    unfold Applies at applies
    have received := s.receives blake3 (ClipboardMessage.sync (.new blake3 timestampMs nodeId sequence
      (.text body) false)).toDataFrame
    generalize s.receive blake3 _ = s', s.added blake3 _ = added at applies received
    cases received with
    | unchanged =>
        have longer := congrArg (fun clipboard => clipboard.pending.length) applies
        simp [MemoryClipboard.setContent] at longer
    | applied found admits =>
        rw [message] at found
        cases found
        exact admits.fresh.ahead
    | cleared found foreign fresh =>
        rw [message] at found
        cases found
  · intro ahead
    have handled := ClipboardSyncEngine.handleIncomingFrame_of_sync blake3 MemoryClipboard.backend
      message ⟨foreign, intact, allowed, unseen, ahead⟩
    unfold Applies receive
    rw [handled]
    rfl

/-- After a restart, the entry broadcast as the `i + 1`st of the new life is applied
    exactly when the receiver's mark for the node is below that number. -/
theorem restarted_copy_applied_iff {policy : ClipboardPolicy} {initial : Option ClipboardContent}
    {sender receiver : Station} {ledger : Ledger}
    (run : Run blake3 (Station.start nodeId policy initial) sender ledger) {i : Nat} {body : String}
    {frame : DataFrame} (sent : ledger.broadcasts[i]? = some (some (.user (.text body)), frame))
    (foreign : nodeId ≠ receiver.nodeId) (sized : (utf8 body).length < 2 ^ 63)
    (allowed : receiver.policy.validate (.text body) false = .ok ())
    (unseen : textHash blake3 body ∉ receiver.guard.seenHashes) :
    receiver.Applies blake3 frame body ↔
      ∀ last ∈ receiver.guard.lastSequence nodeId, last < UInt64.ofNat (i + 1) := by
  obtain ⟨content, timestampMs, same⟩ := run.sound.numbered i _ sent
  cases same
  exact applies_iff foreign sized allowed unseen

section Example

def sender : NodeId := ⟨.fill 32 1⟩

def receiver : Station := .start ⟨.fill 32 2⟩ .default none

/-- The frame for the first text of a life. -/
def firstFrame (body : String) : DataFrame :=
  (Station.start sender .default none).announcement spread 0 (.text body)

/-- A life in which one text is copied and broadcast. -/
theorem first_life (body : String) (allowed : ClipboardPolicy.default.validate (.text body) false = .ok ()) :
    ∃ s ledger, Run spread (Station.start sender .default none) s ledger ∧
      ledger.broadcasts = [(some (.user (.text body)), firstFrame body)] := by
  have taken : ((Station.start sender .default none).copy (.text body)).take spread 0 = _ :=
    take_of_sent rfl rfl (show 1 ≤ MemoryClipboard.channelCapacity by decide) allowed
      (Finset.notMem_empty _)
  exact ⟨_, _, (Run.start.copied (.text body)).took taken, rfl⟩

/-- The receiver has applied a text of the life before; the second text of this life is applied. -/
theorem second_copy_after_restart_is_applied :
    ∃ s ledger frame, Run spread (Station.start sender .default none) s ledger ∧
      ledger.broadcasts[1]? = some (some (.user (.text "z")), frame) ∧
      (receiver.receive spread (firstFrame "x")).guard.lastSequence sender = some 1 ∧
      (receiver.receive spread (firstFrame "x")).Applies spread frame "z" := by
  have rounds : (((Station.start sender .default none).copy (.text "y")).take spread 0).bind (fun first =>
      ((first.2.copy (.text "z")).take spread 0).map fun second =>
        (first.1.isSome, first.2.monitoring, second.1.isSome)) = some (true, true, true) := by decide +kernel
  obtain ⟨⟨_, s₁⟩, first, after⟩ := Option.bind_eq_some_iff.mp rounds
  obtain ⟨⟨_, s⟩, second, same⟩ := Option.map_eq_some_iff.mp after
  simp only [Prod.mk.injEq, Option.isSome_iff_exists] at same
  obtain ⟨⟨_, rfl⟩, monitoring, ⟨frame, rfl⟩⟩ := same
  have run := ((((Run.start.copied (.text "y")).took first).copied (.text "z")).took second)
  have marked : (receiver.receive spread (firstFrame "x")).guard.lastSequence sender = some 1 := by decide +kernel
  refine ⟨_, _, frame, run, by simp [monitoring], marked, ?_⟩
  apply (restarted_copy_applied_iff run (i := 1) (by simp [monitoring]) (by decide +kernel) (by decide)
    (by decide +kernel) (by decide +kernel)).mpr
  rw [marked]
  rintro _ ⟨⟩
  decide

/-- After the restart the next text has number one again, and is dropped. -/
theorem first_copy_after_restart_is_dropped :
    (∃ s ledger, Run spread (Station.start sender .default none) s ledger ∧
        ledger.broadcasts = [(some (.user (.text "x")), firstFrame "x")]) ∧
      (∃ s ledger, Run spread (Station.start sender .default none) s ledger ∧
        ledger.broadcasts = [(some (.user (.text "y")), firstFrame "y")]) ∧
      textHash spread "y" ∉ (receiver.receive spread (firstFrame "x")).guard.seenHashes ∧
      ¬ (receiver.receive spread (firstFrame "x")).Applies spread (firstFrame "y") "y" := by
  have unseen : textHash spread "y" ∉
      (receiver.receive spread (firstFrame "x")).guard.seenHashes := by decide +kernel
  have marked : (receiver.receive spread (firstFrame "x")).guard.lastSequence sender = some 1 := by
    decide +kernel
  refine ⟨first_life "x" rfl, first_life "y" rfl, unseen, ?_⟩
  intro applies
  have ahead := (applies_iff (by decide +kernel) (by decide) (by decide +kernel) unseen).mp applies 1 marked
  exact absurd ahead (by decide)

end Example

end Station

end BridgeOS.Clipboard
