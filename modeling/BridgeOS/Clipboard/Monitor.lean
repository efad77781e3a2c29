import BridgeOS.Clipboard.Guard

/-! # Local copies and the monitor

The sending half of the engine, the in-memory clipboard with its change channel,
and the monitor that turns every change of the clipboard into a call of
`handle_local_change`. The channel keeps the 64 latest changes; a receiver that
is further behind gets an error, which ends the monitor.
-/

namespace BridgeOS.Clipboard

def ClipboardContent.format : ClipboardContent → ClipboardFormat
  | .text _ => .text
  | .html _ _ => .html
  | .image format _ _ _ => .image format

/-- `timestampMs` is what the clock reads. -/
def ClipboardEntry.new (blake3 : Bytes → FixedBytes 32) (timestampMs : UInt64) (origin : NodeId)
    (sequence : UInt64) (content : ClipboardContent) (isSensitive : Bool) : ClipboardEntry where
  metadata :=
    { origin, sequence, timestampMs, isSensitive
      contentHash := content.computeHash blake3
      format := content.format
      byteSize := UInt64.ofNat content.byteLen }
  content := content

def ClipboardMessage.toDataFrame (message : ClipboardMessage) : DataFrame :=
  ⟨DataFrame.channelClipboard, ClipboardMessage.codec.encode message⟩

namespace ClipboardMessage

theorem fromDataFrame_toDataFrame {message : ClipboardMessage}
    (short : (codec.encode message).length < 2 ^ 64) :
    fromDataFrame message.toDataFrame = .ok message := by
  have decoded := codec.decode_encode message [] short
  rw [List.append_nil] at decoded
  simp [fromDataFrame, toDataFrame, decoded]

/-- Only the text has no bound of its own. -/
theorem length_encode_text (metadata : ClipboardMetadata) (body : String) :
    (codec.encode (.sync ⟨metadata, .text body⟩)).length ≤ (utf8 body).length + 125 := by
  have format : ClipboardFormat.codec.Takes metadata.format 0 10 := by
    cases metadata.format with
    | text | html | rtf => exact ⟨Nat.zero_le _, by decide⟩
    | image format => cases format <;> exact ⟨Nat.zero_le _, by decide⟩
  have head : ClipboardMetadata.codec.Takes metadata _ _ := .map (metadata.origin.takes_codec.pair
    ((Codec.takes_u64 metadata.sequence).pair ((Codec.takes_u64 metadata.timestampMs).pair
      ((Codec.takes_fixed metadata.contentHash).pair (format.pair
        ((Codec.takes_u64 metadata.byteSize).pair (Codec.takes_bool metadata.isSensitive)))))))
  have content : ClipboardContent.codec.Takes (.text body) _ _ :=
    .map (Variants.takes_codec (Codec.takes_string body) rfl)
  have entry : ClipboardEntry.codec.Takes ⟨metadata, .text body⟩ _ _ := .map (head.pair content)
  have taken : codec.Takes (.sync ⟨metadata, .text body⟩) _ _ := .map (Variants.takes_codec entry rfl)
  refine Nat.le_trans taken.2 ?_
  omega

end ClipboardMessage

section Entries

variable (blake3 : Bytes → FixedBytes 32) (timestampMs : UInt64) (origin : NodeId) (sequence : UInt64)
  {body : String} (isSensitive : Bool)

/-- A text that fits into memory is read back from its frame. -/
theorem ClipboardEntry.fromDataFrame_new (sized : (utf8 body).length < 2 ^ 63) :
    ClipboardMessage.fromDataFrame (ClipboardMessage.sync
      (.new blake3 timestampMs origin sequence (.text body) isSensitive)).toDataFrame =
        .ok (.sync (.new blake3 timestampMs origin sequence (.text body) isSensitive)) := by
  apply ClipboardMessage.fromDataFrame_toDataFrame
  have short := ClipboardMessage.length_encode_text
    (ClipboardEntry.new blake3 timestampMs origin sequence (.text body) isSensitive).metadata body
  exact Nat.lt_of_le_of_lt short (by omega)

theorem ClipboardEntry.validateIntegrity_new (sized : (utf8 body).length < 2 ^ 63) :
    (ClipboardEntry.new blake3 timestampMs origin sequence (.text body)
      isSensitive).validateIntegrity blake3 = .ok () := by
  have size : (ClipboardContent.text body).byteLen =
      (UInt64.ofNat (ClipboardContent.text body).byteLen).toNat := by
    rw [UInt64.toNat_ofNat', Nat.mod_eq_of_lt]
    exact Nat.lt_trans sized (by decide)
  simp only [ClipboardEntry.validateIntegrity, ClipboardEntry.new, ne_eq, not_true_eq_false, if_false,
    ← size]

end Entries

/-- What the engine puts on its event channel. -/
inductive EngineEvent where
  | handled (event : ClipboardSyncEvent)
  | localCopied (hash : FixedBytes 32) (format : ClipboardFormat) (size : Nat)
  | outgoingBroadcastReady (message : ClipboardMessage) (frame : DataFrame)
  deriving DecidableEq

/-- The engine with the counter its own entries are numbered by. -/
structure LocalEngine (σ : Type) extends ClipboardSyncEngine σ where
  sequence : UInt64

namespace LocalEngine

variable {σ : Type} (blake3 : Bytes → FixedBytes 32)

def new (localNodeId : NodeId) (clipboard : σ) (policy : ClipboardPolicy) : LocalEngine σ :=
  ⟨⟨localNodeId, .new 256, policy, clipboard⟩, 1⟩

structure Outcome (σ : Type) where
  result : Except ClipboardError (Option DataFrame)
  engine : LocalEngine σ
  emitted : List EngineEvent

def handleLocalChange (timestampMs : UInt64) (engine : LocalEngine σ) (content : ClipboardContent)
    (isSensitive : Bool) : Outcome σ :=
  match engine.policy.validate content isSensitive with
  | .error e => ⟨.error e, engine, [.handled (.rejected e.display)]⟩
  | .ok () =>
      let hash := content.computeHash blake3
      if engine.guard.shouldSuppress hash then
        ⟨.ok none, engine,
          [.handled (.echoSuppressed hash "Local change matches recent known hash")]⟩
      else
        let message := .sync (.new blake3 timestampMs engine.localNodeId engine.sequence content
          isSensitive)
        ⟨.ok (some message.toDataFrame),
          { engine with
            sequence := engine.sequence + 1
            guard := engine.guard.recordSent hash },
          [.localCopied hash content.format content.byteLen,
            .outgoingBroadcastReady message message.toDataFrame]⟩

end LocalEngine

/-- The in-memory clipboard; `pending` are the changes its subscriber has not taken. -/
structure MemoryClipboard where
  content : Option ClipboardContent
  pending : List ClipboardContent

namespace MemoryClipboard

def channelCapacity : Nat := 64

def setContent (clipboard : MemoryClipboard) (content : ClipboardContent) : MemoryClipboard :=
  ⟨some content, clipboard.pending ++ [content]⟩

/-- Clearing notifies nobody. -/
def backend : ClipboardBackend MemoryClipboard where
  setContent clipboard content := (.ok (), clipboard.setContent content)
  clear clipboard := (.ok (), { clipboard with content := none })

end MemoryClipboard

/-- An engine over the in-memory clipboard, with its monitor. -/
structure Station where
  engine : LocalEngine MemoryClipboard
  monitoring : Bool

namespace Station

variable (blake3 : Bytes → FixedBytes 32)

def start (localNodeId : NodeId) (policy : ClipboardPolicy) (content : Option ClipboardContent) :
    Station :=
  ⟨.new localNodeId ⟨content, []⟩ policy, true⟩

def nodeId (s : Station) : NodeId := s.engine.localNodeId

def guard (s : Station) : EchoGuard := s.engine.guard

def policy (s : Station) : ClipboardPolicy := s.engine.policy

def content (s : Station) : Option ClipboardContent := s.engine.clipboard.content

def pending (s : Station) : List ClipboardContent := s.engine.clipboard.pending

/-- The user sets the clipboard. -/
def copy (s : Station) (content : ClipboardContent) : Station :=
  { s with engine.clipboard := s.engine.clipboard.setContent content }

def receive (s : Station) (frame : DataFrame) : Station :=
  { s with engine.toClipboardSyncEngine :=
    (s.engine.handleIncomingFrame blake3 MemoryClipboard.backend frame).engine }

/-- The station whose monitor has the changes of `rest` still to take. -/
def withPending (s : Station) (rest : List ClipboardContent) : Station :=
  { s with engine.clipboard.pending := rest }

/-- One round of the monitor's loop: nothing while it waits or once it has ended,
    otherwise what is broadcast. -/
def take (timestampMs : UInt64) (s : Station) : Option (Option DataFrame × Station) :=
  if s.monitoring then
    match s.pending with
    | [] => none
    | content :: rest =>
        if s.pending.length > MemoryClipboard.channelCapacity then
          some (none, { s with monitoring := false })
        else
          let outcome := (s.withPending rest).engine.handleLocalChange blake3 timestampMs content false
          some (outcome.result.toOption.join, { s with engine := outcome.engine })
  else none

/-- The frame that announces a content as this station's next entry. -/
def announcement (timestampMs : UInt64) (s : Station) (content : ClipboardContent) : DataFrame :=
  (ClipboardMessage.sync (.new blake3 timestampMs s.nodeId s.engine.sequence content
    false)).toDataFrame

/-- What a round of the monitor does. -/
inductive Takes (timestampMs : UInt64) (s : Station) : Option DataFrame → Station → Prop where
  | lagged (running : s.monitoring = true)
      (behind : MemoryClipboard.channelCapacity < s.pending.length) :
      Takes timestampMs s none { s with monitoring := false }
  | skipped {content : ClipboardContent} {rest : List ClipboardContent} (running : s.monitoring = true)
      (queue : s.pending = content :: rest)
      (near : s.pending.length ≤ MemoryClipboard.channelCapacity)
      (reason : s.policy.validate content false ≠ .ok () ∨
        content.computeHash blake3 ∈ s.guard.seenHashes) :
      Takes timestampMs s none (s.withPending rest)
  | sent {content : ClipboardContent} {rest : List ClipboardContent} (running : s.monitoring = true)
      (queue : s.pending = content :: rest)
      (near : s.pending.length ≤ MemoryClipboard.channelCapacity)
      (allowed : s.policy.validate content false = .ok ())
      (unseen : content.computeHash blake3 ∉ s.guard.seenHashes) :
      Takes timestampMs s (some (s.announcement blake3 timestampMs content))
        { s.withPending rest with
          engine.guard := s.guard.recordSent (content.computeHash blake3)
          engine.sequence := s.engine.sequence + 1 }

variable {blake3}

theorem takes_of_take {timestampMs : UInt64} {s s' : Station} {sent : Option DataFrame}
    (taken : s.take blake3 timestampMs = some (sent, s')) : Takes blake3 timestampMs s sent s' := by
  unfold take at taken
  split at taken
  · rename_i running
    split at taken
    · cases taken
    · rename_i content rest queue
      split at taken
      · rename_i behind
        cases taken
        exact .lagged running behind
      · rename_i near
        rw [Nat.not_lt] at near
        have policy : s.policy = (s.withPending rest).engine.policy := rfl
        unfold LocalEngine.handleLocalChange at taken
        rw [← policy] at taken
        cases allowed : s.policy.validate content false with
        | error e =>
            rw [allowed] at taken
            cases taken
            exact .skipped running queue near (.inl (by simp [allowed]))
        | ok =>
            by_cases seen : content.computeHash blake3 ∈ s.guard.seenHashes
            · have suppressed : (s.withPending rest).engine.guard.shouldSuppress
                  (content.computeHash blake3) = true := decide_eq_true seen
              simp only [allowed, suppressed, if_true] at taken
              cases taken
              exact .skipped running queue near (.inr seen)
            · have passes : (s.withPending rest).engine.guard.shouldSuppress
                  (content.computeHash blake3) = false := decide_eq_false seen
              simp only [allowed, passes, Bool.false_eq_true, if_false] at taken
              cases taken
              exact .sent running queue near allowed seen
  · cases taken

theorem take_of_sent {timestampMs : UInt64} {s : Station} {content : ClipboardContent}
    {rest : List ClipboardContent} (running : s.monitoring = true) (queue : s.pending = content :: rest)
    (near : s.pending.length ≤ MemoryClipboard.channelCapacity)
    (allowed : s.policy.validate content false = .ok ())
    (unseen : content.computeHash blake3 ∉ s.guard.seenHashes) :
    s.take blake3 timestampMs = some (some (s.announcement blake3 timestampMs content),
      { s.withPending rest with
        engine.guard := s.guard.recordSent (content.computeHash blake3)
        engine.sequence := s.engine.sequence + 1 }) := by
  have passes : (s.withPending rest).engine.guard.shouldSuppress (content.computeHash blake3) = false :=
    decide_eq_false unseen
  have permitted : (s.withPending rest).engine.policy.validate content false = .ok () := allowed
  unfold take
  rw [if_pos running, queue]
  dsimp only
  rw [← queue, if_neg (Nat.not_lt_of_le near)]
  simp only [LocalEngine.handleLocalChange, permitted, passes, Bool.false_eq_true, if_false]
  rfl

end Station

end BridgeOS.Clipboard
