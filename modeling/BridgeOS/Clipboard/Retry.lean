import BridgeOS.Clipboard.Windows

/-! # Frames the clipboard does not take

The guard takes note of an entry before the clipboard is asked. If the clipboard
then refuses, the note stays, and the entry counts as known although it was never
applied. A clear instruction is noted under one hash, whoever sends it, so one of
them makes the next look known.
-/

namespace BridgeOS.Clipboard

namespace ClipboardSyncEngine

variable {σ : Type} (blake3 : Bytes → FixedBytes 32) (backend : ClipboardBackend σ)
  {engine : ClipboardSyncEngine σ} {frame : DataFrame}

/-- The frame passes every check, the guard notes it, and the clipboard refuses it. -/
inductive Refused (engine : ClipboardSyncEngine σ) (frame : DataFrame) : Prop where
  | set {entry : ClipboardEntry} {e : ClipboardError}
      (message : ClipboardMessage.fromDataFrame frame = .ok (.sync entry))
      (admits : Admits blake3 engine entry)
      (failed : (backend.setContent engine.clipboard entry.content).1 = .error e)
  | clear {origin : NodeId} {sequence timestampMs : UInt64} {e : ClipboardError}
      (message : ClipboardMessage.fromDataFrame frame = .ok (.clear origin sequence timestampMs))
      (foreign : origin ≠ engine.localNodeId) (fresh : engine.guard.Fresh origin sequence clearHash)
      (failed : (backend.clear engine.clipboard).1 = .error e)

variable {blake3} in
theorem applySync_result {entry : ClipboardEntry} (admits : Admits blake3 engine entry) :
    (engine.applySync blake3 backend entry).result =
      (backend.setContent engine.clipboard entry.content).1.map fun _ =>
        some (.remoteApplied entry.metadata.origin entry.metadata.sequence
          entry.metadata.contentHash entry.metadata.format) := by
  unfold applySync
  rw [if_neg admits.foreign]
  simp only [admits.intact, admits.allowed, EchoGuard.recordReceived_of_fresh admits.fresh]
  split
  · rename_i answered
    rw [answered]
    rfl
  · rename_i answered
    rw [answered]
    rfl

theorem applyClear_result {origin : NodeId} {sequence : UInt64}
    (foreign : origin ≠ engine.localNodeId) (fresh : engine.guard.Fresh origin sequence clearHash) :
    (engine.applyClear backend origin sequence).result =
      (backend.clear engine.clipboard).1.map fun _ => none := by
  unfold applyClear
  rw [if_neg foreign, ← clearHash, EchoGuard.recordReceived_of_fresh fresh]
  dsimp only
  split
  · rename_i answered
    rw [answered]
    rfl
  · rename_i answered
    rw [answered]
    rfl

variable {blake3 backend} in
/-- A refusal is reported, and noted all the same. -/
theorem Refused.noted (refused : Refused blake3 backend engine frame) :
    (∃ e, (engine.handleIncomingFrame blake3 backend frame).result = .error e) ∧
      (engine.handleIncomingFrame blake3 backend frame).engine.guard ≠ engine.guard := by
  cases refused with
  | @set entry e message admits failed =>
      constructor
      · refine ⟨e, ?_⟩
        simp only [handleIncomingFrame, message, applySync_result backend admits, failed]
        rfl
      · rw [handleIncomingFrame_of_sync blake3 backend message admits]
        intro same
        exact lastSequence_noted_ne admits.fresh (congrArg (EchoGuard.lastSequence · _) same)
  | @clear origin sequence timestampMs e message foreign fresh failed =>
      constructor
      · refine ⟨e, ?_⟩
        simp only [handleIncomingFrame, message, applyClear_result backend foreign fresh, failed]
        rfl
      · simp only [handleIncomingFrame, message, applyClear_of_fresh backend foreign fresh]
        intro same
        exact lastSequence_noted_ne fresh (congrArg (EchoGuard.lastSequence · origin) same)

variable {blake3 backend} in
/-- Every other error leaves the engine as it was. -/
theorem unchanged_of_error {e : ClipboardError} (taken : ¬ Refused blake3 backend engine frame)
    (failed : (engine.handleIncomingFrame blake3 backend frame).result = .error e) :
    (engine.handleIncomingFrame blake3 backend frame).engine = engine := by
  rcases declined_or_handed blake3 backend engine frame with declined | handed
  · exact handleIncomingFrame_of_declined backend declined
  · exfalso
    cases handed with
    | @set entry message admits written =>
        simp only [handleIncomingFrame, message, applySync_result backend admits] at failed
        cases answer : (backend.setContent engine.clipboard entry.content).1 with
        | error e' => exact taken (.set message admits answer)
        | ok =>
            rw [answer] at failed
            cases failed
    | @clear origin sequence timestampMs message foreign fresh written =>
        simp only [handleIncomingFrame, message, applyClear_result backend foreign fresh] at failed
        cases answer : (backend.clear engine.clipboard).1 with
        | error e' => exact taken (.clear message foreign fresh answer)
        | ok =>
            rw [answer] at failed
            cases failed

/-- The guard is as it was: the frame may come again, and what is copied here later is
    treated as if it had not come. -/
structure Retriable (engine : ClipboardSyncEngine σ) (frame : DataFrame) : Prop where
  guard : (engine.handleIncomingFrame blake3 backend frame).engine.guard = engine.guard
  again : ∀ hash reason, ((engine.handleIncomingFrame blake3 backend frame).engine.handleIncomingFrame
    blake3 backend frame).result ≠ .ok (some (.echoSuppressed hash reason))
  copied : ∀ sequence timestampMs content isSensitive,
    (LocalEngine.handleLocalChange blake3 timestampMs
      ⟨(engine.handleIncomingFrame blake3 backend frame).engine, sequence⟩ content isSensitive).result =
    (LocalEngine.handleLocalChange blake3 timestampMs ⟨engine, sequence⟩ content isSensitive).result

/-- A failed frame can be tried again unless it was the clipboard that failed. -/
theorem retriable_iff (engine : ClipboardSyncEngine σ) (frame : DataFrame) :
    (∀ e, (engine.handleIncomingFrame blake3 backend frame).result = .error e →
      Retriable blake3 backend engine frame) ↔ ¬ Refused blake3 backend engine frame := by
  constructor
  · intro retriable refused
    obtain ⟨⟨e, failed⟩, changed⟩ := refused.noted
    exact changed (retriable e failed).guard
  · intro taken e failed
    have same := unchanged_of_error taken failed
    refine ⟨congrArg guard same, ?_, ?_⟩
    · intro hash reason suppressed
      rw [same, failed] at suppressed
      cases suppressed
    · intro sequence timestampMs content isSensitive
      rw [same]

section Example

/-- An engine that has seen nothing yet. -/
def newcomer (clipboard : σ) : ClipboardSyncEngine σ := ⟨⟨.fill 32 0⟩, .new 256, .default, clipboard⟩

/-- A small image of another node. -/
def exampleImage : ClipboardEntry :=
  .new (fun _ => .fill 32 7) 0 ⟨.fill 32 1⟩ 1 (.image .png [7] 1 1) false

/-- Windows does not take an image; when it comes again it counts as seen. -/
theorem refused_image_stays_known :
    ((newcomer none).handleIncomingFrame (fun _ => .fill 32 7) (WindowsClipboard.backend .smooth)
        (ClipboardMessage.sync exampleImage).toDataFrame).result =
          .error (.unsupportedFormat
            "Image clipboard writing is not yet implemented in WindowsClipboardBackend") ∧
      (((newcomer none).handleIncomingFrame (fun _ => .fill 32 7) (WindowsClipboard.backend .smooth)
        (ClipboardMessage.sync exampleImage).toDataFrame).engine.handleIncomingFrame
          (fun _ => .fill 32 7) (WindowsClipboard.backend .smooth)
          (ClipboardMessage.sync exampleImage).toDataFrame).result =
        .ok (some (.echoSuppressed (.fill 32 7) "Incoming entry already seen or has stale sequence")) :=
  ⟨rfl, rfl⟩

end Example

/-- A number above the last one of its origin is enough if the guard does not hold the
    hash of clear instructions, and the clipboard does what it is told. -/
theorem clear_applied_iff (engine : ClipboardSyncEngine σ) {frame : DataFrame} {origin : NodeId}
    {sequence timestampMs : UInt64}
    (message : ClipboardMessage.fromDataFrame frame = .ok (.clear origin sequence timestampMs))
    (remote : origin ≠ engine.localNodeId)
    (ahead : ∀ last ∈ engine.guard.lastSequence origin, last < sequence) :
    (backend.clear engine.clipboard =
        (.ok (), (engine.handleIncomingFrame blake3 backend frame).engine.clipboard) ∧
      (engine.handleIncomingFrame blake3 backend frame).engine.guard.lastSequence origin =
        some sequence) ↔
      engine.guard.shouldSuppress (.fill 32 0) = false ∧
        (backend.clear engine.clipboard).1 = .ok () := by
  have fresh_iff : engine.guard.Fresh origin sequence clearHash ↔
      engine.guard.shouldSuppress (.fill 32 0) = false := by
    rw [EchoGuard.shouldSuppress, decide_eq_false_iff_not]
    exact ⟨fun fresh => fresh.unseen, fun unseen => ⟨unseen, ahead⟩⟩
  simp only [handleIncomingFrame, message]
  by_cases fresh : engine.guard.Fresh origin sequence clearHash
  · rw [applyClear_of_fresh backend remote fresh, ← fresh_iff]
    constructor
    · rintro ⟨cleared, -⟩
      exact ⟨fresh, congrArg Prod.fst cleared⟩
    · rintro ⟨-, cleared⟩
      exact ⟨Prod.ext cleared rfl, (EchoGuard.lastSequence_noted origin).trans (if_pos rfl)⟩
  · rw [applyClear_of_not_fresh backend (.inr fresh), ← fresh_iff]
    constructor
    · rintro ⟨-, advanced⟩
      exact absurd (ahead sequence advanced) (UInt64.lt_irrefl sequence)
    · rintro ⟨known, -⟩
      exact absurd known fresh

theorem first_clear_applied :
    ClipboardMessage.fromDataFrame (ClipboardMessage.clear ⟨.fill 32 1⟩ 1 0).toDataFrame =
        .ok (.clear ⟨.fill 32 1⟩ 1 0) ∧
      memoryBackend.clear (some (.text "a")) =
        (.ok (), ((newcomer (some (.text "a"))).handleIncomingFrame (fun _ => .fill 32 7) memoryBackend
          (ClipboardMessage.clear ⟨.fill 32 1⟩ 1 0).toDataFrame).engine.clipboard) := by
  have message : ClipboardMessage.fromDataFrame (ClipboardMessage.clear ⟨.fill 32 1⟩ 1 0).toDataFrame =
      .ok (.clear ⟨.fill 32 1⟩ 1 0) := by decide
  refine ⟨message, ?_⟩
  exact ((clear_applied_iff (fun _ => .fill 32 7) memoryBackend (newcomer (some (.text "a"))) message
    (by decide) (by simp [newcomer, EchoGuard.lastSequence, EchoGuard.new])).mpr ⟨rfl, rfl⟩).1

/-- A clear instruction, an entry and a clear instruction of one node, numbered in order. -/
def exampleInputs : List LocalEngine.Input :=
  [.frame (ClipboardMessage.clear ⟨.fill 32 1⟩ 1 0).toDataFrame,
    .frame (ClipboardMessage.sync
      (.new (fun _ => .fill 32 7) 0 ⟨.fill 32 1⟩ 2 (.text "a") false)).toDataFrame,
    .frame (ClipboardMessage.clear ⟨.fill 32 1⟩ 3 0).toDataFrame]

/-- The second of the two leaves the entry on the clipboard, and is not counted. -/
theorem second_clear_ignored :
    ((LocalEngine.mk (newcomer none) 1).handleAll (fun _ => .fill 32 7) memoryBackend
        exampleInputs).clipboard = some (.text "a") ∧
      ((LocalEngine.mk (newcomer none) 1).handleAll (fun _ => .fill 32 7) memoryBackend
        exampleInputs).guard.lastSequence ⟨.fill 32 1⟩ = some 2 :=
  ⟨rfl, rfl⟩

end ClipboardSyncEngine

end BridgeOS.Clipboard
