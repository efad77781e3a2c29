import BridgeOS.Clipboard.Monitor

/-! # No echo storms

A run of one station, with a ledger of who put each change on the clipboard. A
change that came from a peer is in the guard's window when the monitor gets to
it: at most 63 changes were ahead of it and at most 63 came behind it, each of
them pushes at most one hash, and the hash of a clear instruction is in the
window at most once.
-/

namespace BridgeOS.Clipboard

open MemoryClipboard ClipboardSyncEngine

/-- A change of the clipboard, by the user or by a peer's frame. -/
inductive Change where
  | user (content : ClipboardContent)
  | remote (content : ClipboardContent)
  deriving DecidableEq

namespace Change

def content : Change → ClipboardContent
  | .user content | .remote content => content

def copied? : Change → Option ClipboardContent
  | .user content => some content
  | .remote _ => none

end Change

/-- What an observer of a run notes down: the changes the monitor has not handled,
    the user's copies, and each broadcast frame with the change that was handled. -/
structure Ledger where
  waiting : List Change
  copies : List ClipboardContent
  broadcasts : List (Option Change × DataFrame)

/-- The contents that were broadcast. -/
def Ledger.sentContents (ledger : Ledger) : List ClipboardContent :=
  ledger.broadcasts.filterMap fun record => record.1.bind Change.copied?

/-- The first 32 bytes in place of a hash. -/
def spread (bytes : Bytes) : FixedBytes 32 := ⟨resize 0 bytes 32, length_resize 0 bytes 32⟩

namespace Station

variable (blake3 : Bytes → FixedBytes 32)

/-- The changes a frame adds to the channel. -/
def added (s : Station) (frame : DataFrame) : List ClipboardContent :=
  (s.receive blake3 frame).pending.drop s.pending.length

inductive Run (first : Station) : Station → Ledger → Prop where
  | start : Run first first ⟨[], [], []⟩
  | copied {s : Station} {ledger : Ledger} (run : Run first s ledger) (content : ClipboardContent) :
      Run first (s.copy content) { ledger with
        waiting := ledger.waiting ++ [.user content]
        copies := ledger.copies ++ [content] }
  | received {s : Station} {ledger : Ledger} (run : Run first s ledger) (frame : DataFrame) :
      Run first (s.receive blake3 frame) { ledger with
        waiting := ledger.waiting ++ (s.added blake3 frame).map .remote }
  | took {s s' : Station} {ledger : Ledger} {timestampMs : UInt64} {sent : Option DataFrame}
      (run : Run first s ledger) (taken : s.take blake3 timestampMs = some (sent, s')) :
      Run first s' { ledger with
        waiting := if s'.monitoring then ledger.waiting.tail else ledger.waiting
        broadcasts := ledger.broadcasts ++ (sent.map fun frame => (ledger.waiting.head?, frame)).toList }

/-- What handling a frame means for a station, and the changes it adds. -/
inductive Receives (s : Station) (frame : DataFrame) : List ClipboardContent → Station → Prop where
  | unchanged : Receives s frame [] s
  | applied {entry : ClipboardEntry}
      (message : ClipboardMessage.fromDataFrame frame = .ok (.sync entry))
      (admits : ClipboardSyncEngine.Admits blake3 s.engine.toClipboardSyncEngine entry) :
      Receives s frame [entry.content] { s with
        engine.guard := s.guard.noted entry.metadata.origin entry.metadata.sequence
          entry.metadata.contentHash
        engine.clipboard := s.engine.clipboard.setContent entry.content }
  | cleared {origin : NodeId} {sequence timestampMs : UInt64}
      (message : ClipboardMessage.fromDataFrame frame = .ok (.clear origin sequence timestampMs))
      (foreign : origin ≠ s.nodeId)
      (fresh : s.guard.Fresh origin sequence clearHash) :
      Receives s frame [] { s with
        engine.guard := s.guard.noted origin sequence clearHash
        engine.clipboard.content := none }

theorem receives (s : Station) (frame : DataFrame) :
    Receives blake3 s frame (s.added blake3 frame) (s.receive blake3 frame) := by
  have becomes := handleIncomingFrame_becomes blake3 backend
    s.engine.toClipboardSyncEngine frame
  unfold added receive
  generalize (s.engine.handleIncomingFrame blake3 backend frame).engine = engine
    at becomes
  cases becomes with
  | unchanged =>
      have added : s.pending.drop s.pending.length = [] := List.drop_length
      exact added ▸ .unchanged
  | @synced entry message admits =>
      have added : (s.pending ++ [entry.content]).drop s.pending.length = [entry.content] := List.drop_left
      exact added ▸ .applied message admits
  | cleared message foreign fresh =>
      have added : s.pending.drop s.pending.length = [] := List.drop_length
      exact added ▸ .cleared message foreign fresh

variable {blake3}

/-- How far back in the window the hash of a peer's change may be: as many entries
    as there are changes behind it, and one for every change that was ahead of it. -/
def age (length i : Nat) : Nat := (length - 1 - i) + (63 - i)

/-- Every hash but the one of clear instructions. -/
def ordinary (hash : FixedBytes 32) : Bool := hash ≠ clearHash

theorem eq_clearHash {hash : FixedBytes 32} (special : ordinary hash = false) :
    hash = clearHash := by
  simpa [ordinary] using special

/-- The changes of peers that wait in a channel that has not overflown are all remembered. -/
def Remembered (blake3 : Bytes → FixedBytes 32) (history : List (FixedBytes 32))
    (waiting : List Change) : Prop :=
  waiting.length ≤ channelCapacity → ∀ i content,
    waiting[i]? = some (.remote content) →
      Recent.Behind ordinary (age waiting.length i) history (content.computeHash blake3)

namespace Remembered

variable {history : List (FixedBytes 32)} {waiting : List Change}

theorem nil (history : List (FixedBytes 32)) : Remembered blake3 history [] := by
  intro _ i content found
  simp at found

section Steps

variable (remembered : Remembered blake3 history waiting)

include remembered

theorem user (content : ClipboardContent) : Remembered blake3 history (waiting ++ [Change.user content]) := by
  intro short i other found
  rw [List.length_append, List.length_singleton] at short ⊢
  rw [List.getElem?_append] at found
  split at found
  · refine (remembered (by omega) i other found).mono ?_
    unfold age
    omega
  · rw [List.getElem?_singleton] at found
    split at found <;> cases found

/-- A full window is far longer than any change of a peer is old. -/
theorem push (distinct : history.Nodup) (hash : FixedBytes 32) (short : waiting.length ≤ channelCapacity) (i : Nat)
    (content : ClipboardContent) (found : waiting[i]? = some (.remote content)) :
    Recent.Behind ordinary (age waiting.length i + if ordinary hash then 1 else 0)
      (Recent.push 256 history hash) (content.computeHash blake3) := by
  refine (remembered short i content found).push distinct (fun _ => eq_clearHash) ?_
  have inside := (List.getElem?_eq_some_iff.mp found).1
  unfold channelCapacity at short
  unfold age
  omega

theorem remote (distinct : history.Nodup)
    {content : ClipboardContent} (new : content.computeHash blake3 ∉ history) :
    Remembered blake3 (Recent.push 256 history (content.computeHash blake3))
      (waiting ++ [Change.remote content]) := by
  intro short i other found
  rw [List.length_append, List.length_singleton] at short ⊢
  rw [List.getElem?_append] at found
  split at found
  · rename_i inside
    refine (remembered.push distinct _ (by omega) i other found).mono ?_
    unfold age
    split <;> omega
  · rw [List.getElem?_singleton] at found
    split at found
    · cases found
      exact (Recent.Behind.push_self new).mono (Nat.zero_le _)
    · cases found

theorem clear (distinct : history.Nodup) : Remembered blake3 (Recent.push 256 history clearHash) waiting := by
  intro short i other found
  have pushed := remembered.push distinct clearHash short i other found
  simpa [ordinary] using pushed

end Steps

/-- Handling the first change brings the others nearer, and pushes at most one hash. -/
theorem tail {change : Change} {rest : List Change}
    (remembered : Remembered blake3 history (change :: rest))
    (short : (change :: rest).length ≤ channelCapacity) :
    Remembered blake3 history rest := by
  intro _ i content found
  refine (remembered short (i + 1) content found).mono ?_
  unfold age
  rw [List.length_cons]
  omega

theorem tail_push {change : Change} {rest : List Change}
    (remembered : Remembered blake3 history (change :: rest)) (distinct : history.Nodup)
    (short : (change :: rest).length ≤ channelCapacity) (hash : FixedBytes 32) :
    Remembered blake3 (Recent.push 256 history hash) rest := by
  intro _ i content found
  have inside := (List.getElem?_eq_some_iff.mp found).1
  refine (remembered.push distinct hash short (i + 1) content found).mono ?_
  rw [List.length_cons, channelCapacity] at short
  unfold age
  rw [List.length_cons]
  split <;> omega

end Remembered

/-- A frame broadcast for a change of the user, as the ledger has it. -/
def FromUser (blake3 : Bytes → FixedBytes 32) (nodeId : NodeId)
    (record : Option Change × DataFrame) : Prop :=
  ∃ content sequence timestampMs, record = (some (.user content),
    (ClipboardMessage.sync (.new blake3 timestampMs nodeId sequence content false)).toDataFrame)

/-- The entry is numbered by its place among the broadcasts. -/
def Numbered (blake3 : Bytes → FixedBytes 32) (nodeId : NodeId) (i : Nat) (record : Option Change × DataFrame) :
    Prop :=
  ∃ content timestampMs, record = (some (.user content),
    (ClipboardMessage.sync (.new blake3 timestampMs nodeId (UInt64.ofNat (i + 1)) content false)).toDataFrame)

/-- What holds along every run. -/
structure Sound (blake3 : Bytes → FixedBytes 32) (nodeId : NodeId) (s : Station) (ledger : Ledger) :
    Prop where
  named : s.nodeId = nodeId
  capacity : s.guard.capacity = 256
  tidy : s.guard.Tidy
  queue : s.pending = ledger.waiting.map Change.content
  remembered : s.monitoring = true → Remembered blake3 s.guard.history ledger.waiting
  next : s.engine.sequence = UInt64.ofNat (ledger.broadcasts.length + 1)
  numbered : ∀ i record, ledger.broadcasts[i]? = some record → Numbered blake3 nodeId i record
  drawn : (ledger.sentContents ++ ledger.waiting.filterMap Change.copied?).Sublist ledger.copies

namespace Sound

variable {nodeId : NodeId} {s s' : Station} {ledger : Ledger}

theorem start (policy : ClipboardPolicy) (content : Option ClipboardContent) :
    Sound blake3 nodeId (Station.start nodeId policy content) ⟨[], [], []⟩ where
  named := rfl
  capacity := rfl
  tidy := EchoGuard.tidy_new 256
  queue := rfl
  remembered _ := .nil _
  next := rfl
  numbered := nofun
  drawn := .slnil

variable (sound : Sound blake3 nodeId s ledger)

include sound

theorem users : ∀ record ∈ ledger.broadcasts, FromUser blake3 nodeId record := by
  intro record member
  obtain ⟨i, found⟩ := List.getElem?_of_mem member
  obtain ⟨content, timestampMs, same⟩ := sound.numbered i record found
  exact ⟨content, _, timestampMs, same⟩

theorem copied (content : ClipboardContent) :
    Sound blake3 nodeId (s.copy content) { ledger with
      waiting := ledger.waiting ++ [.user content]
      copies := ledger.copies ++ [content] } where
  named := sound.named
  capacity := sound.capacity
  tidy := sound.tidy
  queue := by
    rw [List.map_append, ← sound.queue]
    rfl
  remembered running := (sound.remembered running).user content
  next := sound.next
  numbered := sound.numbered
  drawn := by
    rw [List.filterMap_append, ← List.append_assoc]
    exact sound.drawn.append (List.Sublist.refl [content])

theorem received (frame : DataFrame) :
    Sound blake3 nodeId (s.receive blake3 frame) { ledger with
      waiting := ledger.waiting ++ (s.added blake3 frame).map .remote } := by
  have tidy := sound.tidy
  have received := s.receives blake3 frame
  generalize s.added blake3 frame = added, s.receive blake3 frame = s' at received ⊢
  cases received with
  | unchanged => simpa using sound
  | @applied entry message admits =>
      have hash := (ClipboardEntry.validateIntegrity_eq_ok admits.intact).1.symm
      have unseen : entry.content.computeHash blake3 ∉ s.guard.history := by
        rw [hash]
        exact fun known => admits.fresh.unseen (tidy.mem_seenHashes.mpr known)
      obtain ⟨history, tidier⟩ := tidy.noted entry.metadata.origin entry.metadata.sequence
        entry.metadata.contentHash
      refine ⟨sound.named, EchoGuard.noted_capacity.trans sound.capacity, tidier, ?_, ?_, sound.next,
        sound.numbered, ?_⟩
      · rw [List.map_append, ← sound.queue]
        rfl
      · intro running
        have remembered := (sound.remembered running).remote tidy.distinct unseen
        rw [← sound.capacity, hash, ← history] at remembered
        exact remembered
      · have nobody : ([entry.content].map Change.remote).filterMap Change.copied? = [] := rfl
        rw [List.filterMap_append, nobody, List.append_nil]
        exact sound.drawn
  | @cleared origin sequence timestampMs message foreign fresh =>
      obtain ⟨history, tidier⟩ := tidy.noted origin sequence clearHash
      rw [List.map_nil, List.append_nil]
      refine ⟨sound.named, EchoGuard.noted_capacity.trans sound.capacity, tidier, sound.queue, ?_, sound.next,
        sound.numbered, sound.drawn⟩
      intro running
      have remembered := (sound.remembered running).clear tidy.distinct
      rw [← sound.capacity, ← history] at remembered
      exact remembered

/-- A change of a peer is in the window when its turn comes. -/
theorem seen_of_remote (running : s.monitoring = true)
    (near : s.pending.length ≤ channelCapacity) {content : ClipboardContent}
    {rest : List Change} (next : ledger.waiting = .remote content :: rest) :
    content.computeHash blake3 ∈ s.guard.seenHashes := by
  rw [sound.queue, List.length_map] at near
  have behind := sound.remembered running near 0 content (by rw [next]; rfl)
  exact sound.tidy.mem_seenHashes.mpr behind.mem

theorem exists_change {content : ClipboardContent}
    {rest : List ClipboardContent} (queue : s.pending = content :: rest) :
    ∃ change others, ledger.waiting = change :: others ∧ content = change.content ∧
      rest = others.map Change.content := by
  obtain ⟨change, others, waiting, same, left⟩ := List.map_eq_cons_iff.mp (sound.queue.symm.trans queue)
  exact ⟨change, others, waiting, same.symm, left.symm⟩

/-- What is broadcast is the user's: a peer's change would have been suppressed. -/
theorem exists_user (running : s.monitoring = true)
    {content : ClipboardContent} {rest : List ClipboardContent} (queue : s.pending = content :: rest)
    (near : s.pending.length ≤ channelCapacity)
    (unseen : content.computeHash blake3 ∉ s.guard.seenHashes) :
    ∃ others, ledger.waiting = .user content :: others ∧ rest = others.map Change.content := by
  obtain ⟨change, others, waiting, rfl, left⟩ := sound.exists_change queue
  cases change with
  | user content => exact ⟨others, waiting, left⟩
  | remote content => exact absurd (sound.seen_of_remote running near waiting) unseen

/-- What is announced has the number of its place. -/
theorem numbered_announcement (timestampMs : UInt64) (content : ClipboardContent) (i : Nat)
    (record : Option Change × DataFrame)
    (found : (ledger.broadcasts ++ [(some (.user content), s.announcement blake3 timestampMs content)])[i]? =
      some record) : Numbered blake3 nodeId i record := by
  rw [List.getElem?_append] at found
  split at found
  · exact sound.numbered i record found
  · rename_i beyond
    rw [List.getElem?_singleton] at found
    split at found
    · cases found
      obtain rfl : i = ledger.broadcasts.length := by omega
      refine ⟨content, timestampMs, ?_⟩
      rw [announcement, sound.named, sound.next]
    · cases found

theorem took {timestampMs : UInt64} {sent : Option DataFrame}
    (taken : s.take blake3 timestampMs = some (sent, s')) :
    Sound blake3 nodeId s' { ledger with
      waiting := if s'.monitoring then ledger.waiting.tail else ledger.waiting
      broadcasts :=
        ledger.broadcasts ++ (sent.map fun frame => (ledger.waiting.head?, frame)).toList } := by
  cases takes_of_take taken with
  | lagged running behind =>
      rw [Option.map_none, Option.toList_none, List.append_nil]
      exact ⟨sound.named, sound.capacity, sound.tidy, sound.queue, nofun, sound.next, sound.numbered, sound.drawn⟩
  | @skipped content rest running queue near reason =>
      obtain ⟨change, others, waiting, rfl, rfl⟩ := sound.exists_change queue
      have still : (s.withPending (others.map Change.content)).monitoring = true := running
      rw [still, if_pos rfl, Option.map_none, Option.toList_none, List.append_nil, waiting, List.tail_cons]
      have remembered := sound.remembered running
      have drawn := sound.drawn
      rw [sound.queue, List.length_map, waiting] at near
      rw [waiting] at remembered drawn
      exact ⟨sound.named, sound.capacity, sound.tidy, rfl, fun _ => remembered.tail near, sound.next,
        sound.numbered, ((List.Sublist.refl _).append
          ((List.sublist_cons_self change others).filterMap _)).trans drawn⟩
  | @sent content rest running queue near allowed unseen =>
      obtain ⟨others, waiting, rfl⟩ := sound.exists_user running queue near unseen
      obtain ⟨history, tidier⟩ := sound.tidy.pushHash (content.computeHash blake3)
      have remembered := sound.remembered running
      have drawn := sound.drawn
      rw [sound.queue, List.length_map, waiting] at near
      rw [waiting] at remembered drawn ⊢
      have still : (if s.monitoring then others else Change.user content :: others) = others := if_pos running
      refine ⟨sound.named, EchoGuard.pushHash_capacity.trans sound.capacity, tidier,
        congrArg (List.map Change.content) still.symm, ?_, ?_, ?_, ?_⟩
      · intro _
        have pushed := remembered.tail_push sound.tidy.distinct near (content.computeHash blake3)
        rw [← sound.capacity, ← history, ← still] at pushed
        exact pushed
      · show s.engine.sequence + 1 = _
        rw [sound.next, List.length_append]
        exact (UInt64.ofNat_add _ 1).symm
      · exact sound.numbered_announcement timestampMs content
      · show (Ledger.sentContents _ ++ (if s.monitoring then others else _).filterMap Change.copied?).Sublist _
        rw [still, Ledger.sentContents, List.filterMap_append]
        simpa [Ledger.sentContents, Change.copied?] using drawn

end Sound

/-- By induction over the run. -/
theorem Run.sound {nodeId : NodeId} {policy : ClipboardPolicy} {initial : Option ClipboardContent}
    {s : Station} {ledger : Ledger}
    (run : Run blake3 (Station.start nodeId policy initial) s ledger) :
    Sound blake3 nodeId s ledger := by
  induction run with
  | start => exact .start policy initial
  | copied _ content ih => exact ih.copied content
  | received _ frame ih => exact ih.received frame
  | took _ taken ih => exact ih.took taken

theorem length_sentContents {nodeId : NodeId} {ledger : Ledger}
    (users : ∀ record ∈ ledger.broadcasts, FromUser blake3 nodeId record) :
    ledger.sentContents.length = ledger.broadcasts.length := by
  unfold Ledger.sentContents
  rw [List.length_filterMap_eq_countP, List.countP_eq_length]
  intro record member
  obtain ⟨content, sequence, timestampMs, rfl⟩ := users record member
  rfl

/-- Every broadcast frame carries what the user put on the clipboard with a change
    that was still to be handled; no two frames come from one copy. -/
theorem broadcasts_come_from_copies {nodeId : NodeId} {policy : ClipboardPolicy}
    {initial : Option ClipboardContent} {s : Station} {ledger : Ledger}
    (run : Run blake3 (Station.start nodeId policy initial) s ledger) :
    (∀ record ∈ ledger.broadcasts, FromUser blake3 nodeId record) ∧
      ledger.sentContents.Sublist ledger.copies ∧
      ledger.broadcasts.length ≤ ledger.copies.length := by
  have sound := run.sound
  have drawn : ledger.sentContents.Sublist ledger.copies :=
    (List.sublist_append_left _ _).trans sound.drawn
  refine ⟨sound.users, drawn, ?_⟩
  rw [← length_sentContents sound.users]
  exact drawn.length_le

/-- A copy is broadcast; what another node sends is applied, and is not. -/
theorem applied_frame_is_not_broadcast :
    ∃ s ledger, Run spread (Station.start ⟨.fill 32 1⟩ .default none) s ledger ∧
      ledger.broadcasts.map Prod.fst = [some (.user (.text "a"))] ∧ s.content = some (.text "b") ∧
      s.pending = [] ∧ (∀ record ∈ ledger.broadcasts, FromUser spread ⟨.fill 32 1⟩ record) ∧
      ledger.broadcasts.length ≤ ledger.copies.length := by
  let frame := (ClipboardMessage.sync (.new spread 0 ⟨.fill 32 2⟩ 1 (.text "b") false)).toDataFrame
  have rounds : (((Station.start ⟨.fill 32 1⟩ .default none).copy (.text "a")).take spread 0).bind (fun first =>
      ((first.2.receive spread frame).take spread 0).map fun second =>
        (first.1.isSome, second.1, second.2.content, second.2.pending)) =
      some (true, none, some (.text "b"), []) := by decide +kernel
  obtain ⟨⟨sent, s₁⟩, first, after⟩ := Option.bind_eq_some_iff.mp rounds
  obtain ⟨⟨_, s⟩, second, same⟩ := Option.map_eq_some_iff.mp after
  simp only [Prod.mk.injEq] at same
  obtain ⟨isSent, rfl, content, pending⟩ := same
  obtain ⟨broadcast, rfl⟩ := Option.isSome_iff_exists.mp isSent
  have run := ((Run.took (Run.copied .start _) first).received frame).took second
  obtain ⟨users, -, few⟩ := broadcasts_come_from_copies run
  exact ⟨s, _, run, rfl, content, pending, users, few⟩

end Station

end BridgeOS.Clipboard
