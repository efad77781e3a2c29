import BridgeOS.Clipboard.Pair

/-! # One user copies

Only the left user copies. A text whose hash is still in the left guard's window
is not broadcast again, so in the end the right clipboard shows the text that was
broadcast last, which need not be the one that was copied last.
-/

namespace BridgeOS.Clipboard

open Pair

variable {blake3 : Bytes → FixedBytes 32} {nodeId : Side → NodeId} {policy : Side → ClipboardPolicy}

/-- The hashes a guard holds after these texts. -/
def window (blake3 : Bytes → FixedBytes 32) (bodies : List String) : List (FixedBytes 32) :=
  Recent.pushAll 256 [] (bodies.map (textHash blake3))

theorem window_snoc (bodies : List String) (body : String) :
    window blake3 (bodies ++ [body]) =
      Recent.push 256 (window blake3 bodies) (textHash blake3 body) := by
  rw [window, List.map_append, List.map_singleton, Recent.pushAll_snoc, window]

/-- A text that both policies let through and that fits into memory. -/
structure Copyable (policy : Side → ClipboardPolicy) (body : String) : Prop where
  allowed : ∀ side, (policy side).validate (.text body) false = .ok ()
  sized : (utf8 body).length < 2 ^ 63

/-- What the right side will show once everything has arrived. -/
def newest (inflight : List String) (shown : Option ClipboardContent) : Option ClipboardContent :=
  (inflight.getLast?.map .text).or shown

theorem newest_snoc (inflight : List String) (body : String) (shown : Option ClipboardContent) :
    newest (inflight ++ [body]) shown = some (.text body) := by simp [newest]

theorem newest_arrived (body : String) (rest : List String) (shown : Option ClipboardContent) :
    newest rest (some (.text body)) = newest (body :: rest) shown := by
  cases rest with
  | nil => rfl
  | cons next rest =>
      have last := List.getLast?_eq_some_getLast (List.cons_ne_nil next rest)
      simp only [newest, List.getLast?_cons_cons, last, Option.map_some, Option.some_or]

/-- The writer's texts are handled in order, each new one is broadcast, and the
    reader's guard is the writer's guard some frames ago. -/
structure OneWay (blake3 : Bytes → FixedBytes 32) (nodeId : Side → NodeId)
    (policy : Side → ClipboardPolicy) (writer reader : Station) (link : List DataFrame)
    (handled waiting delivered inflight : List String) : Prop where
  named : writer.nodeId = nodeId .left
  writerPolicy : writer.policy = policy .left
  readerPolicy : reader.policy = policy .right
  capacity : writer.guard.capacity = 256
  tidy : writer.guard.Tidy
  queue : writer.pending = waiting.map .text
  known : writer.guard.history = window blake3 handled
  pipe : Pipe blake3 writer reader link delivered inflight
  echoless : ∃ ledger, Station.Sound blake3 (nodeId .right) reader ledger ∧ ledger.copies = []
  replay : Recent.pushAll 256 reader.guard.history (inflight.map (textHash blake3)) =
    writer.guard.history
  new : Recent.AllNew 256 reader.guard.history (inflight.map (textHash blake3))
  latest : (newest inflight reader.content).map (·.computeHash blake3) =
    writer.guard.history.getLast?
  among : ∀ content ∈ newest inflight reader.content, ∃ body ∈ handled, content = .text body
  underway : ∀ body ∈ inflight, body ∈ handled
  counted : delivered.length + inflight.length ≤ handled.length

namespace OneWay

variable {writer reader writer' reader' : Station} {link : List DataFrame}
  {handled waiting delivered inflight : List String}

theorem start : OneWay blake3 nodeId policy (.start (nodeId .left) (policy .left) none)
    (.start (nodeId .right) (policy .right) none) [] [] [] [] [] where
  named := rfl
  writerPolicy := rfl
  readerPolicy := rfl
  capacity := rfl
  tidy := EchoGuard.tidy_new 256
  queue := rfl
  known := rfl
  pipe := ⟨.nil 1, rfl, nofun⟩
  echoless := ⟨⟨[], [], []⟩, .start _ _, rfl⟩
  replay := rfl
  new := trivial
  latest := rfl
  among := nofun
  underway := nofun
  counted := Nat.le_refl _

theorem copy
    (state : OneWay blake3 nodeId policy writer reader link handled waiting delivered inflight)
    (body : String) :
    OneWay blake3 nodeId policy (writer.copy (.text body)) reader link handled (waiting ++ [body])
      delivered inflight :=
  { state with
    queue := by
      rw [List.map_append, ← state.queue]
      rfl
    pipe := state.pipe.congr rfl rfl rfl }

/-- A text the writer's guard knows changes nothing. -/
theorem skip {body : String}
    (state : OneWay blake3 nodeId policy writer reader link handled (body :: waiting) delivered
      inflight)
    (seen : textHash blake3 body ∈ writer.guard.history) :
    OneWay blake3 nodeId policy (writer.withPending (waiting.map .text)) reader link
      (handled ++ [body]) waiting delivered inflight :=
  { state with
    queue := rfl
    known := by
      rw [state.known] at seen
      rw [window_snoc, Recent.push_of_mem seen]
      exact state.known
    pipe := state.pipe.congr rfl rfl rfl
    among := by
      intro content member
      obtain ⟨found, inside, same⟩ := state.among content member
      exact ⟨found, List.mem_append_left _ inside, same⟩
    underway := fun found member => List.mem_append_left _ (state.underway found member)
    counted := by
      rw [List.length_append]
      exact Nat.le_add_right_of_le state.counted }

/-- A new text goes out. -/
theorem send {body : String}
    (state : OneWay blake3 nodeId policy writer reader link handled (body :: waiting) delivered
      inflight)
    (unseen : textHash blake3 body ∉ writer.guard.history) (timestampMs : UInt64) :
    OneWay blake3 nodeId policy
      { writer.withPending (waiting.map .text) with
        engine.guard := writer.guard.recordSent (textHash blake3 body)
        engine.sequence := writer.engine.sequence + 1 }
      reader (link ++ [writer.announcement blake3 timestampMs (.text body)]) (handled ++ [body])
      waiting delivered (inflight ++ [body]) := by
  obtain ⟨history, tidier⟩ := state.tidy.pushHash (textHash blake3 body)
  rw [state.capacity] at history
  exact
    { named := state.named
      writerPolicy := state.writerPolicy
      readerPolicy := state.readerPolicy
      capacity := EchoGuard.pushHash_capacity.trans state.capacity
      tidy := tidier
      queue := rfl
      known := by
        rw [window_snoc, ← state.known]
        exact history
      pipe := state.pipe.send timestampMs body rfl rfl
      echoless := state.echoless
      replay := by
        rw [List.map_append, List.map_singleton, Recent.pushAll_snoc, state.replay]
        exact history.symm
      new := by
        rw [List.map_append, List.map_singleton]
        refine Recent.allNew_snoc state.new ?_
        rw [state.replay]
        exact unseen
      latest := by
        refine Eq.trans ?_ (congrArg List.getLast? history).symm
        rw [newest_snoc, Recent.getLast?_push_of_not_mem unseen]
        rfl
      among := by
        intro content member
        rw [newest_snoc] at member
        cases member
        exact ⟨body, by simp, rfl⟩
      underway := by
        intro found member
        rcases List.mem_append.mp member with old | last
        · exact List.mem_append_left _ (state.underway found old)
        · exact List.mem_append_right _ last
      counted := by
        have counted := state.counted
        simp only [List.length_append, List.length_singleton]
        omega }

/-- A round of the writer's monitor. -/
theorem take
    (state : OneWay blake3 nodeId policy writer reader link handled waiting delivered inflight)
    (copyable : ∀ body ∈ waiting, Copyable policy body) {timestampMs : UInt64}
    {sent : Option DataFrame} (takes : Station.Takes blake3 timestampMs writer sent writer') :
    ∃ handled' waiting' inflight', handled ++ waiting = handled' ++ waiting' ∧
      OneWay blake3 nodeId policy writer' reader (link ++ sent.toList) handled' waiting' delivered
        inflight' := by
  have queued := state.queue
  cases takes with
  | lagged running behind =>
      rw [Option.toList_none, List.append_nil]
      exact ⟨handled, waiting, inflight, rfl, { state with pipe := state.pipe.congr rfl rfl rfl }⟩
  | @skipped content rest running queue near reason =>
      rw [Option.toList_none, List.append_nil]
      rw [queue] at queued
      cases waiting with
      | nil => cases queued
      | cons body others =>
          obtain ⟨rfl, rfl⟩ := List.cons.inj queued
          have allowed := (copyable body List.mem_cons_self).allowed .left
          rw [← state.writerPolicy] at allowed
          have seen := state.tidy.mem_seenHashes.mp (reason.resolve_left (not_not.mpr allowed))
          exact ⟨handled ++ [body], others, inflight, List.append_cons .., state.skip seen⟩
  | @sent content rest running queue near allowed unseen =>
      rw [queue] at queued
      cases waiting with
      | nil => cases queued
      | cons body others =>
          obtain ⟨rfl, rfl⟩ := List.cons.inj queued
          have unknown : textHash blake3 body ∉ writer.guard.history :=
            fun member => unseen (state.tidy.mem_seenHashes.mpr member)
          exact ⟨handled ++ [body], others, inflight ++ [body], List.append_cons ..,
            state.send unknown timestampMs⟩

/-- The reader's monitor never broadcasts: there is nothing its user has copied. -/
theorem idle
    (state : OneWay blake3 nodeId policy writer reader link handled waiting delivered inflight)
    {timestampMs : UInt64} {sent : Option DataFrame}
    (taken : reader.take blake3 timestampMs = some (sent, reader')) :
    sent = none ∧
      OneWay blake3 nodeId policy writer reader' link handled waiting delivered inflight := by
  obtain ⟨ledger, sound, nothing⟩ := state.echoless
  have sounder := sound.took taken
  cases Station.takes_of_take taken with
  | lagged running behind =>
      exact ⟨rfl, { state with
        pipe := state.pipe.congr rfl rfl rfl
        echoless := ⟨_, sounder, nothing⟩ }⟩
  | skipped running queue near reason =>
      exact ⟨rfl, { state with
        pipe := state.pipe.congr rfl rfl rfl
        echoless := ⟨_, sounder, nothing⟩ }⟩
  | sent running queue near allowed unseen =>
      -- a broadcast would have to come from a copy
      have drawn := ((List.sublist_append_left _ _).trans sounder.drawn).length_le
      rw [Station.length_sentContents sounder.users] at drawn
      simp [nothing] at drawn

/-- What arrives is new to the reader's guard, since it was new to the writer's. -/
theorem deliver {frame : DataFrame}
    (state : OneWay blake3 nodeId policy writer reader (frame :: link) handled waiting delivered
      inflight)
    (apart : nodeId .left ≠ nodeId .right) (copyable : ∀ body ∈ handled, Copyable policy body)
    (few : handled.length + 1 < 2 ^ 64) :
    ∃ delivered' inflight', OneWay blake3 nodeId policy writer (reader.receive blake3 frame) link
      handled waiting delivered' inflight' := by
  obtain ⟨ledger, sound, nothing⟩ := state.echoless
  obtain ⟨body, others, rfl⟩ := state.pipe.exists_body
  have fits := copyable body (state.underway body List.mem_cons_self)
  have allowed := fits.allowed .right
  rw [← state.readerPolicy] at allowed
  have unseen : textHash blake3 body ∉ reader.guard.seenHashes :=
    fun seen => state.new.1 (sound.tidy.mem_seenHashes.mp seen)
  have counted := state.counted
  rw [List.length_cons] at counted
  rw [← state.named, ← sound.named] at apart
  obtain ⟨received, arrived⟩ := state.pipe.deliver apart fits.sized allowed unseen (by omega)
  have history : (reader.receive blake3 frame).guard.history =
      Recent.push 256 reader.guard.history (textHash blake3 body) := by
    rw [received, ← sound.capacity]
    exact (sound.tidy.noted _ _ _).1
  have content : newest others (reader.receive blake3 frame).content =
      newest (body :: others) reader.content := by
    rw [received]
    exact newest_arrived body others reader.content
  refine ⟨delivered ++ [body], others, { state with
    readerPolicy := ?_
    pipe := arrived
    echoless := ⟨_, sound.received frame, nothing⟩
    replay := ?_
    new := ?_
    latest := ?_
    among := ?_
    underway := fun found later => state.underway found (List.mem_cons_of_mem _ later)
    counted := ?_ }⟩
  · rw [received]
    exact state.readerPolicy
  · rw [history]
    exact state.replay
  · rw [history]
    exact state.new.2
  · rw [content]
    exact state.latest
  · rw [content]
    exact state.among
  · rw [List.length_append, List.length_singleton]
    omega

end OneWay

section Example

/-- Copied, sent and delivered, and the change at the right side passed over. -/
def published (body : String) : List Action :=
  [.copy .left body, .take .left 0, .deliver .right, .take .right 0]

end Example

end BridgeOS.Clipboard
