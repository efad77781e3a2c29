import BridgeOS.Clipboard.Monitor

/-! # What an engine applies

Any frames, in any order and as often as one likes, between any local copies. The
backend keeps a log of what `set_content` is called with, whether it takes it or
not. The guard's record of an origin only goes up, so the entries the backend is
given in its name carry rising numbers; and a frame that is turned down at one of
the checks leaves the engine as it was.
-/

namespace BridgeOS.Clipboard

open ClipboardMessage

/-- The backend with a log of what `set_content` is called with. -/
def ClipboardBackend.recording {σ : Type} (backend : ClipboardBackend σ) :
    ClipboardBackend (σ × List ClipboardContent) where
  setContent := fun (clipboard, log) content =>
    let (result, clipboard) := backend.setContent clipboard content
    (result, clipboard, log ++ [content])
  clear := fun (clipboard, log) =>
    let (result, clipboard) := backend.clear clipboard
    (result, clipboard, log)

section Frames

variable {σ : Type} (blake3 : Bytes → FixedBytes 32) (backend : ClipboardBackend σ)

namespace ClipboardSyncEngine

/-- The entry that `handle_incoming_frame` reports as applied. -/
def appliedEntry (engine : ClipboardSyncEngine σ) (frame : DataFrame) : Option ClipboardEntry :=
  match fromDataFrame frame, (engine.handleIncomingFrame blake3 backend frame).result with
  | .ok (.sync entry), .ok (some (.remoteApplied _ _ _ _)) => some entry
  | _, _ => none

/-- Why a frame is not applied. -/
inductive Declined (engine : ClipboardSyncEngine σ) (frame : DataFrame) : Prop where
  | undecodable {e : ClipboardError} (failed : fromDataFrame frame = .error e)
  | ownEntry {entry : ClipboardEntry} (message : fromDataFrame frame = .ok (.sync entry))
      (own : entry.metadata.origin = engine.localNodeId)
  | corrupted {entry : ClipboardEntry} {e : ClipboardError}
      (message : fromDataFrame frame = .ok (.sync entry))
      (failed : entry.validateIntegrity blake3 = .error e)
  | forbidden {entry : ClipboardEntry} {e : ClipboardError}
      (message : fromDataFrame frame = .ok (.sync entry))
      (failed : engine.policy.validate entry.content entry.metadata.isSensitive = .error e)
  | suppressed {entry : ClipboardEntry} (message : fromDataFrame frame = .ok (.sync entry))
      (stale : ¬ engine.guard.Fresh entry.metadata.origin entry.metadata.sequence
        entry.metadata.contentHash)
  | ownClear {origin : NodeId} {sequence timestampMs : UInt64}
      (message : fromDataFrame frame = .ok (.clear origin sequence timestampMs))
      (own : origin = engine.localNodeId)
  | suppressedClear {origin : NodeId} {sequence timestampMs : UInt64}
      (message : fromDataFrame frame = .ok (.clear origin sequence timestampMs))
      (stale : ¬ engine.guard.Fresh origin sequence clearHash)
  | ack {origin : NodeId} {sequence : UInt64} {hash : FixedBytes 32}
      (message : fromDataFrame frame = .ok (.ack origin sequence hash))

/-- The frame comes through to the backend, which may still refuse it, and the guard
    has taken note of it either way. -/
inductive Handed (engine : ClipboardSyncEngine σ) (frame : DataFrame) : Prop where
  | set {entry : ClipboardEntry} (message : fromDataFrame frame = .ok (.sync entry))
      (admits : Admits blake3 engine entry)
      (written : (engine.handleIncomingFrame blake3 backend frame).engine.clipboard =
        (backend.setContent engine.clipboard entry.content).2)
      (noted : (engine.handleIncomingFrame blake3 backend frame).engine.guard =
        engine.guard.noted entry.metadata.origin entry.metadata.sequence entry.metadata.contentHash)
  | clear {origin : NodeId} {sequence timestampMs : UInt64}
      (message : fromDataFrame frame = .ok (.clear origin sequence timestampMs))
      (foreign : origin ≠ engine.localNodeId) (fresh : engine.guard.Fresh origin sequence clearHash)
      (written : (engine.handleIncomingFrame blake3 backend frame).engine.clipboard =
        (backend.clear engine.clipboard).2)
      (noted : (engine.handleIncomingFrame blake3 backend frame).engine.guard =
        engine.guard.noted origin sequence clearHash)

variable {blake3 backend} {engine : ClipboardSyncEngine σ} {frame : DataFrame}

variable (backend) in
theorem handleIncomingFrame_of_declined (declined : Declined blake3 engine frame) :
    (engine.handleIncomingFrame blake3 backend frame).engine = engine := by
  have refused : ∀ {entry}, fromDataFrame frame = .ok (.sync entry) →
      ¬ Admits blake3 engine entry → (engine.handleIncomingFrame blake3 backend frame).engine = engine := by
    intro entry message refused
    simp only [handleIncomingFrame, message]
    exact applySync_of_not_admits blake3 backend refused
  cases declined with
  | undecodable failed => simp [handleIncomingFrame, failed]
  | ownEntry message own => exact refused message fun admits => admits.foreign own
  | corrupted message failed =>
      apply refused message
      intro admits
      rw [admits.intact] at failed
      cases failed
  | forbidden message failed =>
      apply refused message
      intro admits
      rw [admits.allowed] at failed
      cases failed
  | suppressed message stale => exact refused message fun admits => stale admits.fresh
  | ownClear message own =>
      simp only [handleIncomingFrame, message]
      exact applyClear_of_not_fresh backend (.inl own)
  | suppressedClear message stale =>
      simp only [handleIncomingFrame, message]
      exact applyClear_of_not_fresh backend (.inr stale)
  | ack message => simp [handleIncomingFrame, message]

variable (blake3 backend) in
/-- The listed reasons are all there are. -/
theorem declined_or_handed (engine : ClipboardSyncEngine σ) (frame : DataFrame) :
    Declined blake3 engine frame ∨ Handed blake3 backend engine frame := by
  cases message : fromDataFrame frame with
  | error e => exact .inl (.undecodable message)
  | ok decoded =>
      cases decoded with
      | ack origin sequence hash => exact .inl (.ack message)
      | clear origin sequence timestampMs =>
          by_cases own : origin = engine.localNodeId
          · exact .inl (.ownClear message own)
          · by_cases fresh : engine.guard.Fresh origin sequence clearHash
            · have cleared := applyClear_of_fresh backend own fresh
              refine .inr (.clear message own fresh ?_ ?_)
              · simp only [handleIncomingFrame, message, cleared]
              · simp only [handleIncomingFrame, message, cleared]
            · exact .inl (.suppressedClear message fresh)
      | sync entry =>
          by_cases own : entry.metadata.origin = engine.localNodeId
          · exact .inl (.ownEntry message own)
          · cases intact : entry.validateIntegrity blake3 with
            | error e => exact .inl (.corrupted message intact)
            | ok =>
                cases allowed : engine.policy.validate entry.content entry.metadata.isSensitive with
                | error e => exact .inl (.forbidden message allowed)
                | ok =>
                    by_cases fresh : engine.guard.Fresh entry.metadata.origin entry.metadata.sequence
                        entry.metadata.contentHash
                    · have admits : Admits blake3 engine entry := ⟨own, intact, allowed, fresh⟩
                      have set := handleIncomingFrame_of_sync blake3 backend message admits
                      exact .inr (.set message admits (congrArg clipboard set) (congrArg guard set))
                    · exact .inl (.suppressed message fresh)

/-- What is reported as applied has passed every check. -/
theorem admits_of_appliedEntry {entry : ClipboardEntry}
    (applied : engine.appliedEntry blake3 backend frame = some entry) :
    fromDataFrame frame = .ok (.sync entry) ∧ Admits blake3 engine entry := by
  unfold appliedEntry at applied
  split at applied
  · rename_i found origin sequence hash format message result
    cases applied
    simp only [handleIncomingFrame, message, applySync] at result
    split at result
    · cases result
    · rename_i foreign
      split at result
      · cases result
      · rename_i intact
        split at result
        · cases result
        · rename_i allowed
          refine ⟨message, foreign, intact, allowed, ?_⟩
          by_contra stale
          rw [EchoGuard.recordReceived_of_not_fresh stale] at result
          cases result
  · cases applied

/-- The record of an origin never goes back. -/
theorem lastSequence_handleIncomingFrame {origin : NodeId} {last : UInt64}
    (known : last ∈ engine.guard.lastSequence origin) :
    ∃ later ∈ (engine.handleIncomingFrame blake3 backend frame).engine.guard.lastSequence origin,
      last ≤ later := by
  have becomes := handleIncomingFrame_becomes blake3 backend engine frame
  generalize (engine.handleIncomingFrame blake3 backend frame).engine = after at becomes
  cases becomes with
  | unchanged => exact ⟨last, known, UInt64.le_refl last⟩
  | synced message admits => exact admits.fresh.le_lastSequence known
  | cleared message foreign fresh => exact fresh.le_lastSequence known

section Log

variable {engine : ClipboardSyncEngine (σ × List ClipboardContent)} {entry : ClipboardEntry}

variable (blake3 backend) in
/-- The entry for which `handle_incoming_frame` calls `set_content`. -/
def givenEntry (engine : ClipboardSyncEngine (σ × List ClipboardContent)) (frame : DataFrame) :
    Option ClipboardEntry :=
  if (engine.handleIncomingFrame blake3 backend.recording frame).engine.clipboard.2 = engine.clipboard.2 then
    none
  else match fromDataFrame frame with
    | .ok (.sync entry) => some entry
    | _ => none

theorem log_of_admits (message : fromDataFrame frame = .ok (.sync entry))
    (admits : Admits blake3 engine entry) :
    (engine.handleIncomingFrame blake3 backend.recording frame).engine.clipboard.2 =
      engine.clipboard.2 ++ [entry.content] := by
  rw [handleIncomingFrame_of_sync blake3 backend.recording message admits]
  rfl

theorem givenEntry_of_admits (message : fromDataFrame frame = .ok (.sync entry))
    (admits : Admits blake3 engine entry) : engine.givenEntry blake3 backend frame = some entry := by
  simp [givenEntry, log_of_admits message admits, message]

theorem log_of_not_admits (refused : ∀ entry, fromDataFrame frame = .ok (.sync entry) →
      ¬ Admits blake3 engine entry) :
    (engine.handleIncomingFrame blake3 backend.recording frame).engine.clipboard.2 = engine.clipboard.2 := by
  have becomes := handleIncomingFrame_becomes blake3 backend.recording engine frame
  generalize (engine.handleIncomingFrame blake3 backend.recording frame).engine = after at becomes
  cases becomes with
  | unchanged => rfl
  | synced message admits => exact absurd admits (refused _ message)
  | cleared message foreign fresh => rfl

theorem givenEntry_eq_some : engine.givenEntry blake3 backend frame = some entry ↔
    fromDataFrame frame = .ok (.sync entry) ∧ Admits blake3 engine entry := by
  refine ⟨fun given => ?_, fun ⟨message, admits⟩ => givenEntry_of_admits message admits⟩
  by_cases admitted : ∃ entry, fromDataFrame frame = .ok (.sync entry) ∧
      Admits blake3 engine entry
  · obtain ⟨found, message, admits⟩ := admitted
    cases (givenEntry_of_admits message admits).symm.trans given
    exact ⟨message, admits⟩
  · rw [givenEntry, if_pos (log_of_not_admits fun entry message admits => admitted ⟨entry, message, admits⟩)] at given
    cases given

theorem log_handleIncomingFrame :
    (engine.handleIncomingFrame blake3 backend.recording frame).engine.clipboard.2 =
      engine.clipboard.2 ++ ((engine.givenEntry blake3 backend frame).toList.map (·.content)) := by
  cases given : engine.givenEntry blake3 backend frame with
  | some entry =>
      obtain ⟨message, admits⟩ := givenEntry_eq_some.mp given
      exact log_of_admits message admits
  | none =>
      refine (log_of_not_admits fun entry message admits => ?_).trans (List.append_nil _).symm
      cases (givenEntry_of_admits message admits).symm.trans given

/-- The engine without the log. -/
def unlogged (engine : ClipboardSyncEngine (σ × List ClipboardContent)) : ClipboardSyncEngine σ :=
  ⟨engine.localNodeId, engine.guard, engine.policy, engine.clipboard.1⟩

/-- The log changes nothing of what the engine does. -/
theorem unlogged_handleIncomingFrame (engine : ClipboardSyncEngine (σ × List ClipboardContent)) :
    (engine.handleIncomingFrame blake3 backend.recording frame).engine.unlogged =
      (engine.unlogged.handleIncomingFrame blake3 backend frame).engine := by
  cases message : fromDataFrame frame with
  | error e => simp only [handleIncomingFrame, message]
  | ok decoded =>
      cases decoded with
      | ack origin sequence hash => simp only [handleIncomingFrame, message]
      | sync entry =>
          have same : Admits blake3 engine.unlogged entry ↔ Admits blake3 engine entry :=
            ⟨fun admits => ⟨admits.foreign, admits.intact, admits.allowed, admits.fresh⟩,
              fun admits => ⟨admits.foreign, admits.intact, admits.allowed, admits.fresh⟩⟩
          by_cases admits : Admits blake3 engine entry
          · rw [handleIncomingFrame_of_sync blake3 backend.recording message admits,
              handleIncomingFrame_of_sync blake3 backend message (same.mpr admits)]
            rfl
          · simp only [handleIncomingFrame, message,
              applySync_of_not_admits blake3 backend.recording admits,
              applySync_of_not_admits blake3 backend (mt same.mp admits)]
      | clear origin sequence timestampMs =>
          simp only [handleIncomingFrame, message]
          by_cases fresh : origin ≠ engine.localNodeId ∧ engine.guard.Fresh origin sequence clearHash
          · rw [applyClear_of_fresh backend.recording fresh.1 fresh.2,
              applyClear_of_fresh backend (show origin ≠ engine.unlogged.localNodeId from fresh.1) fresh.2]
            rfl
          · have stale : origin = engine.localNodeId ∨ ¬ engine.guard.Fresh origin sequence clearHash := by
              by_contra neither
              exact fresh (not_or.mp neither |>.imp id not_not.mp)
            rw [applyClear_of_not_fresh backend.recording stale,
              applyClear_of_not_fresh backend (show origin = engine.unlogged.localNodeId ∨ _ from stale)]

end Log

end ClipboardSyncEngine

end Frames

namespace LocalEngine

variable {σ : Type} (blake3 : Bytes → FixedBytes 32) (backend : ClipboardBackend σ)

/-- A frame of a peer, or a local copy at a time. -/
inductive Input where
  | frame (frame : DataFrame)
  | copied (timestampMs : UInt64) (content : ClipboardContent) (isSensitive : Bool)

def handle (engine : LocalEngine σ) : Input → LocalEngine σ
  | .frame frame => { engine with
      toClipboardSyncEngine := (engine.handleIncomingFrame blake3 backend frame).engine }
  | .copied timestampMs content isSensitive =>
      (engine.handleLocalChange blake3 timestampMs content isSensitive).engine

def handleAll (engine : LocalEngine σ) (inputs : List Input) : LocalEngine σ :=
  inputs.foldl (handle blake3 backend) engine

variable {blake3 backend} {engine : LocalEngine σ}

theorem lastSequence_handle (input : Input) {origin : NodeId} {last : UInt64}
    (known : last ∈ engine.guard.lastSequence origin) :
    ∃ later ∈ (engine.handle blake3 backend input).guard.lastSequence origin, last ≤ later := by
  cases input with
  | frame frame => exact ClipboardSyncEngine.lastSequence_handleIncomingFrame known
  | copied timestampMs content isSensitive =>
      refine ⟨last, ?_, UInt64.le_refl last⟩
      unfold handle handleLocalChange
      dsimp only
      split
      · exact known
      · split
        · exact known
        · rw [EchoGuard.lastSequence, EchoGuard.recordSent, EchoGuard.pushHash_sequences]
          exact known

section Log

variable {blake3 : Bytes → FixedBytes 32} {backend : ClipboardBackend σ}
  {engine : LocalEngine (σ × List ClipboardContent)} {frame : DataFrame} {entry : ClipboardEntry}

variable (blake3 backend) in
/-- The entries the backend is given along the way, in order. -/
def given (engine : LocalEngine (σ × List ClipboardContent)) : List Input → List ClipboardEntry
  | [] => []
  | .frame frame :: rest => (engine.givenEntry blake3 backend frame).toList ++
      given (engine.handle blake3 backend.recording (.frame frame)) rest
  | input :: rest => given (engine.handle blake3 backend.recording input) rest

/-- Behind an entry that was given the record of its origin is its number. -/
theorem lastSequence_of_given (given : engine.givenEntry blake3 backend frame = some entry) :
    entry.metadata.sequence ∈
      (engine.handle blake3 backend.recording (.frame frame)).guard.lastSequence entry.metadata.origin := by
  obtain ⟨message, admits⟩ := ClipboardSyncEngine.givenEntry_eq_some.mp given
  unfold handle
  dsimp only
  rw [ClipboardSyncEngine.handleIncomingFrame_of_sync blake3 backend.recording message admits]
  exact (EchoGuard.lastSequence_noted _).trans (if_pos rfl)

/-- What is still to be given is above the record of its origin. -/
theorem lt_of_mem_given {inputs : List Input} (member : entry ∈ engine.given blake3 backend inputs)
    {last : UInt64} (known : last ∈ engine.guard.lastSequence entry.metadata.origin) :
    last < entry.metadata.sequence := by
  induction inputs generalizing engine last with
  | nil => exact absurd member List.not_mem_nil
  | cons input rest ih =>
      have later : entry ∈ (engine.handle blake3 backend.recording input).given blake3 backend rest →
          last < entry.metadata.sequence := by
        intro member
        obtain ⟨newer, known', above⟩ := lastSequence_handle input known
        exact UInt64.lt_of_le_of_lt above (ih member known')
      cases input with
      | copied timestampMs content isSensitive => exact later member
      | frame frame =>
          rcases List.mem_append.mp member with now | then_
          · obtain ⟨-, admits⟩ := ClipboardSyncEngine.givenEntry_eq_some.mp (Option.mem_toList.mp now)
            exact admits.fresh.ahead last known
          · exact later then_

theorem given_pairwise (engine : LocalEngine (σ × List ClipboardContent)) (inputs : List Input) :
    (engine.given blake3 backend inputs).Pairwise fun a b =>
      a.metadata.origin = b.metadata.origin → a.metadata.sequence < b.metadata.sequence := by
  induction inputs generalizing engine with
  | nil => exact .nil
  | cons input rest ih =>
      cases input with
      | copied timestampMs content isSensitive => exact ih _
      | frame frame =>
          unfold given
          cases first : engine.givenEntry blake3 backend frame with
          | none => exact ih _
          | some entry =>
              refine .cons ?_ (ih _)
              intro later member same
              have recorded := lastSequence_of_given first
              rw [same] at recorded
              exact lt_of_mem_given member recorded

/-- The log holds what was given, and nothing else. -/
theorem log_handleAll (engine : LocalEngine (σ × List ClipboardContent)) (inputs : List Input) :
    (engine.handleAll blake3 backend.recording inputs).clipboard.2 =
      engine.clipboard.2 ++ (engine.given blake3 backend inputs).map (·.content) := by
  induction inputs generalizing engine with
  | nil => exact (List.append_nil _).symm
  | cons input rest ih =>
      have later := ih (engine.handle blake3 backend.recording input)
      cases input with
      | copied timestampMs content isSensitive =>
          have kept : (engine.handle blake3 backend.recording
              (.copied timestampMs content isSensitive)).clipboard = engine.clipboard := by
            unfold handle handleLocalChange
            dsimp only
            split
            · rfl
            · split <;> rfl
          rwa [kept] at later
      | frame frame =>
          have log : (engine.handle blake3 backend.recording (.frame frame)).clipboard.2 = _ :=
            ClipboardSyncEngine.log_handleIncomingFrame
          rwa [log, List.append_assoc, ← List.map_append] at later

/-- The engine without the log. -/
def unlogged (engine : LocalEngine (σ × List ClipboardContent)) : LocalEngine σ :=
  ⟨engine.toClipboardSyncEngine.unlogged, engine.sequence⟩

theorem unlogged_handleAll (engine : LocalEngine (σ × List ClipboardContent)) (inputs : List Input) :
    (engine.handleAll blake3 backend.recording inputs).unlogged =
      engine.unlogged.handleAll blake3 backend inputs := by
  induction inputs generalizing engine with
  | nil => rfl
  | cons input rest ih =>
      have step : (engine.handle blake3 backend.recording input).unlogged =
          engine.unlogged.handle blake3 backend input := by
        cases input with
        | frame frame =>
            exact congrArg (LocalEngine.mk · engine.sequence)
              (ClipboardSyncEngine.unlogged_handleIncomingFrame engine.toClipboardSyncEngine)
        | copied timestampMs content isSensitive =>
            simp only [handle, handleLocalChange, unlogged, ClipboardSyncEngine.unlogged]
            cases engine.policy.validate content isSensitive with
            | error e => rfl
            | ok allowed =>
                by_cases known : engine.guard.shouldSuppress (content.computeHash blake3) = true <;>
                  simp [known]
      exact (ih _).trans (congrArg (handleAll blake3 backend · rest) step)

variable (blake3 backend) in
/-- At every point of every run: the backend is given the entries listed and nothing
    else; numbers rise for each origin; what is given is another node's, intact,
    allowed and new to the guard, which notes it; and a frame that is turned down
    changes nothing. The log itself leaves the run as it is. -/
structure InOrder (engine : LocalEngine (σ × List ClipboardContent)) (inputs : List Input) : Prop where
  transparent : (engine.handleAll blake3 backend.recording inputs).unlogged =
    engine.unlogged.handleAll blake3 backend inputs
  logged : (engine.handleAll blake3 backend.recording inputs).clipboard.2 =
    engine.clipboard.2 ++ (engine.given blake3 backend inputs).map (·.content)
  increasing : ∀ origin, ((engine.given blake3 backend inputs).filter fun entry =>
    entry.metadata.origin = origin).Pairwise fun a b => a.metadata.sequence < b.metadata.sequence
  sound : ∀ before frame after entry, inputs = before ++ .frame frame :: after →
    let now := engine.handleAll blake3 backend.recording before
    now.givenEntry blake3 backend frame = some entry →
      fromDataFrame frame = .ok (.sync entry) ∧
      entry.metadata.origin ≠ now.localNodeId ∧
      entry.metadata.contentHash = entry.content.computeHash blake3 ∧
      entry.metadata.byteSize.toNat = entry.content.byteLen ∧
      now.policy.validate entry.content entry.metadata.isSensitive = .ok () ∧
      now.guard.shouldSuppress (entry.content.computeHash blake3) = false ∧
      (now.handle blake3 backend.recording (.frame frame)).guard = now.guard.noted entry.metadata.origin
        entry.metadata.sequence (entry.content.computeHash blake3)
  declined : ∀ before frame after, inputs = before ++ .frame frame :: after →
    let now := engine.handleAll blake3 backend.recording before
    (now.Declined blake3 frame ∧
      (now.handle blake3 backend.recording (.frame frame)).clipboard = now.clipboard ∧
      (now.handle blake3 backend.recording (.frame frame)).guard = now.guard) ∨
      now.Handed blake3 backend.recording frame

end Log

end LocalEngine

theorem LocalEngine.applied_in_order {σ : Type} (blake3 : Bytes → FixedBytes 32)
    (backend : ClipboardBackend σ) (engine : LocalEngine (σ × List ClipboardContent))
    (inputs : List Input) : InOrder blake3 backend engine inputs where
  transparent := unlogged_handleAll engine inputs
  logged := log_handleAll engine inputs
  increasing origin := by
    refine (List.Pairwise.filter _ (given_pairwise engine inputs)).imp_of_mem ?_
    intro a b first second rising
    have named := of_decide_eq_true (List.mem_filter.mp first).2
    have named' := of_decide_eq_true (List.mem_filter.mp second).2
    exact rising (named.trans named'.symm)
  sound before frame after entry _ given := by
    obtain ⟨message, admits⟩ := ClipboardSyncEngine.givenEntry_eq_some.mp given
    obtain ⟨hash, size⟩ := ClipboardEntry.validateIntegrity_eq_ok admits.intact
    have set := ClipboardSyncEngine.handleIncomingFrame_of_sync blake3 backend.recording message admits
    rw [← hash]
    exact ⟨message, admits.foreign, rfl, size, admits.allowed, decide_eq_false admits.fresh.unseen,
      congrArg ClipboardSyncEngine.guard set⟩
  declined before frame after _ := by
    rcases ClipboardSyncEngine.declined_or_handed blake3 backend.recording
      (engine.handleAll blake3 backend.recording before).toClipboardSyncEngine frame with declined | handed
    · have same := ClipboardSyncEngine.handleIncomingFrame_of_declined backend.recording declined
      refine .inl ⟨declined, ?_, ?_⟩
      · exact congrArg ClipboardSyncEngine.clipboard same
      · exact congrArg ClipboardSyncEngine.guard same
    · exact .inr handed

end BridgeOS.Clipboard
