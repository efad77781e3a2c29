import BridgeOS.Clipboard.Pair

/-! # Both users copy

With texts that are all different the guards only stop echoes, and two stations
are two registers that copy each other: a copy puts a value, a delivered frame
makes one arrive, and the monitors' rounds are invisible.
-/

namespace BridgeOS.Clipboard

open Pair

variable {blake3 : Bytes → FixedBytes 32} {nodeId : Side → NodeId} {policy : Side → ClipboardPolicy}

def ClipboardPolicy.allows (policy : ClipboardPolicy) (body : String) : Bool :=
  (policy.validate (.text body) false).isOk

variable {body : String} {rest : List String}

theorem ClipboardPolicy.allows_iff {policy : ClipboardPolicy} :
    policy.allows body = true ↔ policy.validate (.text body) false = .ok () := by
  unfold allows
  cases policy.validate (.text body) false with
  | error e => simp [Except.isOk, Except.toBool]
  | ok => simp [Except.isOk, Except.toBool]

/-- What an action means for the registers. -/
def Action.move? : Action → Option (Exchange.Move String)
  | .copy side body => some (.put side body)
  | .take _ _ => none
  | .deliver side => some (.arrive side)

def moves (actions : List Action) : List (Exchange.Move String) := actions.filterMap Action.move?

theorem moves_snoc (actions : List Action) (action : Action) :
    moves (actions ++ [action]) = moves actions ++ action.move?.toList := by
  rw [moves, List.filterMap_append]
  cases action <;> rfl

theorem values_moves (actions : List Action) (side : Side) :
    (Exchange.values (moves actions)).Perm (copies side actions ++ copies side.other actions) := by
  induction actions using List.reverseRecOn with
  | nil => exact .nil
  | append_singleton actions action ih =>
      rw [moves_snoc, copies_snoc, copies_snoc]
      cases action with
      | take which timestampMs =>
          rw [copies_take, copies_take, List.append_nil, List.append_nil]
          exact (List.append_nil (moves actions)).symm ▸ ih
      | deliver which =>
          rw [copies_deliver, copies_deliver, List.append_nil, List.append_nil]
          exact (Exchange.values_snoc_arrive (moves actions) which).symm ▸ ih
      | copy which body =>
          have put : Exchange.values (moves actions ++ (Action.copy which body).move?.toList) =
              Exchange.values (moves actions) ++ [body] := Exchange.values_snoc_put _ _ _
          rw [put]
          refine (ih.append_right [body]).trans ?_
          rcases Side.eq_or_eq_other side which with rfl | rfl
          · rw [copies_copy_self, copies_copy_other, List.append_nil, List.append_assoc,
              List.append_assoc]
            exact List.perm_append_comm.append_left _
          · rw [copies_copy_self, copies_other_copy, List.append_nil, List.append_assoc]

/-- The other user's texts that are still to be applied at a side. -/
def upcoming (policy : Side → ClipboardPolicy) (side : Side) (actions : List Action) : List String :=
  (((copies side.other actions).filter (policy side.other).allows).drop
    (deliveries side actions)).filter (policy side).allows

def crosses (policy : Side → ClipboardPolicy) (body : String) : Bool :=
  (policy .left).allows body && (policy .right).allows body

/-- From the last copy on that both policies allow: such a copy is made where
    nothing is still to come, one that a policy blocks where something is. -/
def Ordered (policy : Side → ClipboardPolicy) (actions : List Action) : Prop :=
  FromLast
    (fun
      | .copy _ body => crosses policy body
      | _ => false)
    (fun before action => match action with
      | .copy side body => upcoming policy side before = [] ↔ crosses policy body
      | _ => True)
    actions

/-- One side: its user's texts have been delivered, are under way or are queued, and
    its guard knows no other texts than those sent and those that have arrived. -/
structure Half (blake3 : Bytes → FixedBytes 32) (nodeId : NodeId) (policy : ClipboardPolicy)
    (x y : Station) (link : List DataFrame) (delivered inflight queued arrived : List String) :
    Prop where
  ruled : x.policy = policy
  queue : ∃ ledger, Station.Sound blake3 nodeId x ledger ∧
    ledger.waiting.filterMap Change.copied? = queued.map .text
  pipe : Pipe blake3 x y link delivered inflight
  known : ∀ hash ∈ x.guard.history, hash ∈ (delivered ++ inflight ++ arrived).map (textHash blake3)

namespace Half

variable {id : NodeId} {rules : ClipboardPolicy} {x y x' y' : Station} {link : List DataFrame}
  {delivered inflight queued arrived : List String}

theorem start (y : Station) (fresh : y.guard.lastSequence id = none) :
    Half blake3 id rules (.start id rules none) y [] [] [] [] [] where
  ruled := rfl
  queue := ⟨⟨[], [], []⟩, .start _ _, rfl⟩
  pipe := ⟨.nil 1, rfl, fun last found => by cases fresh.symm.trans found⟩
  known := nofun

theorem named (half : Half blake3 id rules x y link delivered inflight queued arrived) :
    x.nodeId = id := by
  obtain ⟨ledger, sound, -⟩ := half.queue
  exact sound.named

/-- The other side may do what it likes with its own texts. -/
theorem congr (half : Half blake3 id rules x y link delivered inflight queued arrived)
    (sequences : y'.guard.sequences = y.guard.sequences) :
    Half blake3 id rules x y' link delivered inflight queued arrived :=
  { half with pipe := half.pipe.congr rfl rfl (congrArg (AList.lookup x.nodeId) sequences) }

theorem copy (half : Half blake3 id rules x y link delivered inflight queued arrived) (body : String) :
    Half blake3 id rules (x.copy (.text body)) y link delivered inflight (queued ++ [body]) arrived := by
  obtain ⟨ledger, sound, texts⟩ := half.queue
  refine { half with
    queue := ⟨_, sound.copied (.text body), ?_⟩
    pipe := half.pipe.congr rfl rfl rfl }
  rw [List.filterMap_append, texts, List.map_append]
  rfl

theorem exists_queued {content : ClipboardContent} {others : List Change}
    (texts : (Change.user content :: others).filterMap Change.copied? = queued.map .text) :
    ∃ body rest, content = .text body ∧ queued = body :: rest ∧
      others.filterMap Change.copied? = rest.map .text := by
  have first : (Change.user content :: others).filterMap Change.copied? =
      content :: others.filterMap Change.copied? := rfl
  rw [first, eq_comm, List.map_eq_cons_iff] at texts
  obtain ⟨body, rest, rfl, rfl, same⟩ := texts
  exact ⟨body, rest, rfl, rfl, same.symm⟩

/-- A round of the monitor sends the next text if the policy allows it. -/
theorem take (half : Half blake3 id rules x y link delivered inflight queued arrived)
    (new : ∀ body rest, queued = body :: rest → rules.allows body = true →
      textHash blake3 body ∉ x.guard.history)
    {timestampMs : UInt64} {sent : Option DataFrame}
    (taken : x.take blake3 timestampMs = some (sent, x')) :
    x'.content = x.content ∧ x'.guard.sequences = x.guard.sequences ∧
      ∃ inflight' queued', inflight' ++ queued'.filter rules.allows =
          inflight ++ queued.filter rules.allows ∧
        Half blake3 id rules x' y (link ++ sent.toList) delivered inflight' queued' arrived := by
  obtain ⟨ledger, sound, texts⟩ := half.queue
  have sounder := sound.took taken
  cases Station.takes_of_take taken with
  | lagged running behind =>
      refine ⟨rfl, rfl, inflight, queued, rfl, ?_⟩
      rw [Option.toList_none, List.append_nil]
      exact { half with
        queue := ⟨_, sounder, texts⟩
        pipe := half.pipe.congr rfl rfl rfl }
  | @skipped content rest running queue near reason =>
      have still : (x.withPending rest).monitoring = true := running
      rw [still, if_pos rfl] at sounder
      refine ⟨rfl, rfl, inflight, ?_⟩
      rw [Option.toList_none, List.append_nil]
      obtain ⟨change, others, waiting, rfl, -⟩ := sound.exists_change queue
      rw [waiting] at texts sounder
      cases change with
      | remote content =>
          exact ⟨queued, rfl, { half with
            queue := ⟨_, sounder, texts⟩
            pipe := half.pipe.congr rfl rfl rfl }⟩
      | user content =>
          obtain ⟨body, bodies, rfl, rfl, later⟩ := exists_queued texts
          -- it was not suppressed as an echo, so the policy has refused it
          have refused : ¬ rules.allows body = true := by
            intro allowed
            refine new body bodies rfl allowed (sound.tidy.mem_seenHashes.mp ?_)
            refine reason.resolve_left (not_not.mpr ?_)
            rw [half.ruled]
            exact ClipboardPolicy.allows_iff.mp allowed
          refine ⟨bodies, ?_, { half with
            queue := ⟨_, sounder, later⟩
            pipe := half.pipe.congr rfl rfl rfl }⟩
          rw [List.filter_cons_of_neg refused]
  | @sent content rest running queue near allowed unseen =>
      obtain ⟨others, waiting, -⟩ := sound.exists_user running queue near unseen
      rw [waiting] at texts
      obtain ⟨body, bodies, rfl, rfl, later⟩ := exists_queued texts
      rw [half.ruled] at allowed
      refine ⟨rfl, EchoGuard.pushHash_sequences, inflight ++ [body], bodies, ?_,
        half.ruled, ⟨_, sounder, ?_⟩, half.pipe.send timestampMs body rfl rfl, ?_⟩
      · rw [List.filter_cons_of_pos (ClipboardPolicy.allows_iff.mpr allowed), List.append_assoc]
        rfl
      · show (if x.monitoring then ledger.waiting.tail else _).filterMap _ = _
        rw [if_pos running, waiting]
        exact later
      · intro hash member
        replace member : hash ∈ (x.guard.pushHash (textHash blake3 body)).history := member
        rw [(sound.tidy.pushHash _).1] at member
        rcases Recent.mem_of_mem_push member with old | rfl
        · have before := half.known hash old
          simp only [List.map_append, List.mem_append] at before ⊢
          tauto
        · simp

/-- The next text of the other side arrives: it is applied if the policy allows it. -/
theorem receive (half : Half blake3 id rules x y link delivered inflight queued arrived) {frame : DataFrame}
    {frames : List DataFrame} (incoming : Pipe blake3 y x (frame :: frames) arrived (body :: rest))
    (apart : y.nodeId ≠ x.nodeId) (sized : (utf8 body).length < 2 ^ 63) (few : arrived.length + 1 < 2 ^ 64)
    (new : textHash blake3 body ∉ x.guard.history) :
    (x.receive blake3 frame).content = (if rules.allows body then some (.text body) else x.content) ∧
      Pipe blake3 y (x.receive blake3 frame) frames (arrived ++ [body]) rest ∧
      Half blake3 id rules (x.receive blake3 frame) y link delivered inflight queued
        (arrived ++ [body]) := by
  obtain ⟨ledger, sound, texts⟩ := half.queue
  have sounder := sound.received frame
  have queue : (ledger.waiting ++ (x.added blake3 frame).map Change.remote).filterMap Change.copied? =
      queued.map .text := by
    have nobody : ((x.added blake3 frame).map Change.remote).filterMap Change.copied? = [] := by
      rw [List.filterMap_map, List.filterMap_eq_nil_iff]
      exact fun _ _ => rfl
    rw [List.filterMap_append, nobody, List.append_nil]
    exact texts
  have older : ∀ hash ∈ x.guard.history,
      hash ∈ (delivered ++ inflight ++ (arrived ++ [body])).map (textHash blake3) := by
    intro hash member
    have before := half.known hash member
    simp only [List.map_append, List.mem_append] at before ⊢
    tauto
  by_cases allowed : rules.allows body = true
  · rw [if_pos allowed]
    have valid := ClipboardPolicy.allows_iff.mp allowed
    rw [← half.ruled] at valid
    obtain ⟨received, pipe⟩ := incoming.deliver apart sized valid
      (fun seen => new (sound.tidy.mem_seenHashes.mp seen)) few
    refine ⟨by rw [received]; rfl, pipe, ?_, ⟨_, sounder, queue⟩, ?_, ?_⟩
    · rw [received]
      exact half.ruled
    · rw [received]
      exact half.pipe.congr rfl rfl rfl
    · intro hash member
      rw [received] at member
      replace member : hash ∈ (x.guard.noted y.nodeId (UInt64.ofNat (arrived.length + 1))
        (textHash blake3 body)).history := member
      rw [(sound.tidy.noted _ _ _).1] at member
      rcases Recent.mem_of_mem_push member with old | rfl
      · exact older hash old
      · simp
  · rw [if_neg allowed]
    have refused := ClipboardPolicy.allows_iff.not.mp allowed
    rw [← half.ruled] at refused
    obtain ⟨received, pipe⟩ := incoming.refuse sized refused
    rw [received] at sounder ⊢
    exact ⟨rfl, pipe, half.ruled, ⟨_, sounder, queue⟩, half.pipe, older⟩

end Half

def registers (policy : Side → ClipboardPolicy) (actions : List Action) : Exchange String :=
  .run (fun side => (policy side).allows) (moves actions)

theorem registers_copy (actions : List Action) (side : Side) (body : String) :
    registers policy (actions ++ [Action.copy side body]) =
      (registers policy actions).step (fun side => (policy side).allows) (.put side body) := by
  rw [registers, moves_snoc]
  exact Exchange.run_snoc _ _

theorem registers_take (actions : List Action) (side : Side) (timestampMs : UInt64) :
    registers policy (actions ++ [Action.take side timestampMs]) = registers policy actions := by
  rw [registers, moves_snoc, Action.move?, Option.toList_none, List.append_nil, registers]

theorem registers_deliver (actions : List Action) (side : Side) :
    registers policy (actions ++ [Action.deliver side]) =
      (registers policy actions).step (fun side => (policy side).allows) (.arrive side) := by
  rw [registers, moves_snoc]
  exact Exchange.run_snoc _ _

/-- The two stations and the registers they implement. -/
structure Mirrors (blake3 : Bytes → FixedBytes 32) (nodeId : Side → NodeId)
    (policy : Side → ClipboardPolicy) (actions : List Action) (p : Pair)
    (delivered inflight queued : Side → List String) : Prop where
  half : ∀ side, Half blake3 (nodeId side) (policy side) (p.station side) (p.station side.other)
    (p.link side.other) (delivered side) (inflight side) (queued side) (delivered side.other)
  sent : ∀ side, (copies side actions).filter (policy side).allows =
    delivered side ++ (inflight side ++ (queued side).filter (policy side).allows)
  counted : ∀ side, (delivered side).length = deliveries side.other actions
  shown : ∀ side, (p.station side).content = ((registers policy actions).shown side).map .text
  pipe : ∀ side, (registers policy actions).pipe side.other =
    inflight side ++ (queued side).filter (policy side).allows

/-- All texts are different, and so are their hashes. -/
def Distinct (blake3 : Bytes → FixedBytes 32) (actions : List Action) : Prop :=
  ((copies .left actions ++ copies .right actions).map (textHash blake3)).Nodup

theorem Distinct.sides {actions : List Action} (distinct : Distinct blake3 actions) (side : Side) :
    ((copies side actions ++ copies side.other actions).map (textHash blake3)).Nodup := by
  cases side with
  | left => exact distinct
  | right => exact ((List.perm_append_comm.map _).nodup_iff).mp distinct

namespace Mirrors

variable {actions : List Action} {p : Pair} {delivered inflight queued : Side → List String}

theorem start : Mirrors blake3 nodeId policy [] (Pair.start nodeId policy) (fun _ => []) (fun _ => [])
    fun _ => [] where
  half _ := .start _ rfl
  sent _ := rfl
  counted _ := rfl
  shown _ := rfl
  pipe _ := rfl

variable (mirrors : Mirrors blake3 nodeId policy actions p delivered inflight queued)

include mirrors

/-- Counting deliveries tells what is still to come. -/
theorem upcoming_eq (side : Side) :
    upcoming policy side actions =
      (registers policy actions).coming (fun side => (policy side).allows) side := by
  have pipe := mirrors.pipe side.other
  have counted := mirrors.counted side.other
  rw [Side.other_other] at pipe counted
  rw [upcoming, Exchange.coming, mirrors.sent side.other, pipe, ← counted, List.drop_left]

theorem nodup (distinct : Distinct blake3 actions) (side : Side) :
    ((delivered side ++ (inflight side ++ (queued side).filter (policy side).allows) ++
      (delivered side.other ++ (inflight side.other ++
        (queued side.other).filter (policy side.other).allows))).map (textHash blake3)).Nodup := by
  rw [← mirrors.sent side, ← mirrors.sent side.other]
  refine (distinct.sides side).sublist (List.Sublist.map _ ?_)
  exact List.filter_sublist.append List.filter_sublist

variable {side : Side}

/-- A guard knows what its own side has handed over and what has arrived. No text that is
    still to be sent or to arrive has one of these hashes. -/
theorem unknown_of_ahead (distinct : Distinct blake3 actions)
    (ahead : body ∈ (queued side).filter (policy side).allows ++ inflight side.other) :
    textHash blake3 body ∉ (p.station side).guard.history := by
  intro member
  have nodup := mirrors.nodup distinct side
  have sorted : (delivered side ++ (inflight side ++ (queued side).filter (policy side).allows) ++
      (delivered side.other ++ (inflight side.other ++
        (queued side.other).filter (policy side.other).allows))).Perm
      ((delivered side ++ inflight side ++ delivered side.other) ++
        ((queued side).filter (policy side).allows ++ inflight side.other ++
          (queued side.other).filter (policy side.other).allows)) := by
    apply List.perm_iff_count.mpr
    intro text
    simp only [List.count_append]
    omega
  rw [(sorted.map _).nodup_iff, List.map_append] at nodup
  refine List.disjoint_of_nodup_append nodup ((mirrors.half side).known _ member) ?_
  exact List.mem_map_of_mem (List.mem_append_left _ ahead)

theorem unknown_of_queued (distinct : Distinct blake3 actions) (next : queued side = body :: rest)
    (allowed : (policy side).allows body = true) :
    textHash blake3 body ∉ (p.station side).guard.history := by
  refine mirrors.unknown_of_ahead distinct (List.mem_append_left _ ?_)
  rw [next, List.filter_cons_of_pos allowed]
  exact List.mem_cons_self

theorem unknown_of_inflight (distinct : Distinct blake3 actions) (next : inflight side.other = body :: rest) :
    textHash blake3 body ∉ (p.station side).guard.history := by
  refine mirrors.unknown_of_ahead distinct (List.mem_append_right _ ?_)
  rw [next]
  exact List.mem_cons_self

theorem copy (side : Side) (body : String) :
    Mirrors blake3 nodeId policy (actions ++ [Action.copy side body]) { p with
      station := Function.update p.station side ((p.station side).copy (.text body)) }
      delivered inflight (Function.update queued side (queued side ++ [body])) where
  half which := by
    rcases Side.eq_or_eq_other side which with rfl | rfl
    · simpa using (mirrors.half which).copy body
    · have same : ((p.station side).copy (.text body)).guard.sequences =
        (p.station side).guard.sequences := rfl
      have half := mirrors.half side.other
      rw [Side.other_other] at half
      simpa using half.congr same
  sent which := by
    rcases Side.eq_or_eq_other side which with rfl | rfl
    · simp [copies_snoc, mirrors.sent which]
    · simp [copies_snoc, mirrors.sent side.other]
  counted which := by
    rw [mirrors.counted which]
    simp [deliveries]
  shown which := by
    rw [registers_copy]
    rcases Side.eq_or_eq_other side which with rfl | rfl
    · simp [Exchange.step, Station.copy, Station.content, MemoryClipboard.setContent]
    · simpa [Exchange.step] using mirrors.shown side.other
  pipe which := by
    have pipe := mirrors.pipe which
    rw [registers_copy]
    rcases Side.eq_or_eq_other side which with rfl | rfl
    · simp [Exchange.step, pipe]
    · simpa [Exchange.step] using pipe

theorem take (distinct : Distinct blake3 actions) {timestampMs : UInt64} {sent : Option DataFrame} {s : Station}
    (taken : (p.station side).take blake3 timestampMs = some (sent, s)) :
    ∃ inflight' queued', Mirrors blake3 nodeId policy (actions ++ [Action.take side timestampMs])
      ⟨Function.update p.station side s,
        Function.update p.link side.other (p.link side.other ++ sent.toList)⟩
      delivered inflight' queued' := by
  obtain ⟨content, sequences, flying, waiting, same, half⟩ := (mirrors.half side).take
    (fun body rest next allowed => mirrors.unknown_of_queued distinct next allowed) taken
  refine ⟨Function.update inflight side flying, Function.update queued side waiting,
    ⟨?_, ?_, ?_, ?_, ?_⟩⟩
  · intro which
    rcases Side.eq_or_eq_other side which with rfl | rfl
    · simpa using half
    · have other := mirrors.half side.other
      rw [Side.other_other] at other
      simpa using other.congr sequences
  · intro which
    rcases Side.eq_or_eq_other side which with rfl | rfl
    · simp [copies_snoc, mirrors.sent which, same]
    · simp [copies_snoc, mirrors.sent side.other]
  · intro which
    rw [mirrors.counted which]
    simp [deliveries]
  · intro which
    rw [registers_take]
    rcases Side.eq_or_eq_other side which with rfl | rfl
    · simpa [content] using mirrors.shown which
    · simpa using mirrors.shown side.other
  · intro which
    rw [registers_take, mirrors.pipe which]
    rcases Side.eq_or_eq_other side which with rfl | rfl
    · simp [same]
    · simp

theorem deliver (apart : nodeId .left ≠ nodeId .right) (distinct : Distinct blake3 actions)
    (sized : ∀ side, ∀ body ∈ copies side actions, (utf8 body).length < 2 ^ 63)
    (few : ∀ side, (copies side actions).length + 1 < 2 ^ 64) {frame : DataFrame} {rest : List DataFrame}
    (next : p.link side = frame :: rest) :
    ∃ delivered' inflight', Mirrors blake3 nodeId policy (actions ++ [Action.deliver side])
      ⟨Function.update p.station side ((p.station side).receive blake3 frame),
        Function.update p.link side rest⟩ delivered' inflight' queued := by
  have sender := mirrors.half side.other
  rw [Side.other_other, next] at sender
  obtain ⟨body, others, flying⟩ := sender.pipe.exists_body
  rw [flying] at sender
  have among : body ∈ (copies side.other actions).filter (policy side.other).allows := by
    rw [mirrors.sent side.other, flying]
    simp
  have short : (delivered side.other).length ≤ (copies side.other actions).length := by
    have filtered := List.length_filter_le (policy side.other).allows (copies side.other actions)
    rw [mirrors.sent side.other, List.length_append] at filtered
    omega
  have different : (p.station side.other).nodeId ≠ (p.station side).nodeId := by
    rw [sender.named, (mirrors.half side).named]
    cases side with
    | left => exact apart.symm
    | right => exact apart
  obtain ⟨content, pipe, half⟩ := (mirrors.half side).receive sender.pipe different
    (sized side.other body (List.mem_of_mem_filter among))
    (Nat.lt_of_le_of_lt (Nat.add_le_add_right short 1) (few side.other))
    (mirrors.unknown_of_inflight distinct flying)
  have incoming := mirrors.pipe side.other
  rw [Side.other_other, flying] at incoming
  have step : registers policy (actions ++ [Action.deliver side]) =
      ⟨Function.update (registers policy actions).shown side
          (if (policy side).allows body then some body else (registers policy actions).shown side),
        Function.update (registers policy actions).pipe side
          (others ++ (queued side.other).filter (policy side.other).allows)⟩ := by
    rw [registers_deliver]
    exact Exchange.step_arrive_of_cons incoming
  refine ⟨Function.update delivered side.other (delivered side.other ++ [body]),
    Function.update inflight side.other others, ⟨?_, ?_, ?_, ?_, ?_⟩⟩
  · intro which
    rcases Side.eq_or_eq_other side which with rfl | rfl
    · simpa using half
    · have after : Half blake3 (nodeId side.other) (policy side.other) (p.station side.other)
          ((p.station side).receive blake3 frame) rest (delivered side.other ++ [body]) others
          (queued side.other) (delivered side) :=
        { sender with
          pipe := pipe
          known := by simpa using sender.known }
      simpa using after
  · intro which
    rcases Side.eq_or_eq_other side which with rfl | rfl
    · simp [copies_snoc, mirrors.sent which]
    · simp [copies_snoc, mirrors.sent side.other, flying]
  · intro which
    rcases Side.eq_or_eq_other side which with rfl | rfl
    · simp [mirrors.counted which, deliveries]
    · simp [mirrors.counted side.other, deliveries]
  · intro which
    rw [step]
    rcases Side.eq_or_eq_other side which with rfl | rfl
    · have shown := mirrors.shown which
      simp only [Function.update_self, content]
      split
      · rfl
      · exact shown
    · simpa using mirrors.shown side.other
  · intro which
    rw [step]
    rcases Side.eq_or_eq_other side which with rfl | rfl
    · simpa using mirrors.pipe which
    · simp

end Mirrors

/-- A text fits into memory. -/
def Sized (actions : List Action) : Prop :=
  ∀ side, ∀ body ∈ copies side actions, (utf8 body).length < 2 ^ 63

theorem Distinct.of_snoc {actions : List Action} {action : Action}
    (distinct : Distinct blake3 (actions ++ [action])) : Distinct blake3 actions := by
  refine distinct.sublist (List.Sublist.map _ ?_)
  rw [copies_snoc, copies_snoc]
  exact (List.sublist_append_left _ _).append (List.sublist_append_left _ _)

/-- By induction over the run: the stations mirror the registers, and the condition on
    the actions is the one on the registers. -/
theorem Pair.Run.mirrors {actions : List Action} {p : Pair}
    (run : Run blake3 (Pair.start nodeId policy) actions p) (apart : nodeId .left ≠ nodeId .right)
    (distinct : Distinct blake3 actions) (sized : Sized actions)
    (few : ∀ side, (copies side actions).length + 1 < 2 ^ 64) :
    (∃ delivered inflight queued,
        Mirrors blake3 nodeId policy actions p delivered inflight queued) ∧
      (Ordered policy actions ↔
        Exchange.Settled (fun side => (policy side).allows) (moves actions)) := by
  induction run with
  | start => exact ⟨⟨_, _, _, .start⟩, iff_of_true (fromLast_nil _ _) (fromLast_nil _ _)⟩
  | @step actions p p' action run taken ih =>
      have earlier := distinct.of_snoc
      have sizedEarlier : Sized actions := by
        intro side body member
        refine sized side body ?_
        rw [copies_snoc]
        exact List.mem_append_left _ member
      have fewEarlier : ∀ side, (copies side actions).length + 1 < 2 ^ 64 := by
        intro side
        have all := few side
        rw [copies_snoc, List.length_append] at all
        omega
      obtain ⟨⟨delivered, inflight, queued, mirrors⟩, same⟩ := ih earlier sizedEarlier fewEarlier
      rw [Ordered, fromLast_snoc, moves_snoc]
      cases steps_of_step taken with
      | copy side body =>
          refine ⟨⟨_, _, _, mirrors.copy side body⟩, ?_⟩
          rw [Action.move?, Option.toList_some, Exchange.Settled, fromLast_snoc]
          have coming : (upcoming policy side actions = [] ↔ crosses policy body) ↔
              ((registers policy actions).coming (fun side => (policy side).allows) side = [] ↔
                crosses policy body) := by rw [mirrors.upcoming_eq side]
          exact and_congr coming (imp_congr Iff.rfl same)
      | take found =>
          obtain ⟨inflight', queued', next⟩ := mirrors.take earlier found
          refine ⟨⟨_, _, _, next⟩, ?_⟩
          rw [Action.move?, Option.toList_none, List.append_nil, ← same]
          simp [Ordered]
      | deliver next =>
          obtain ⟨delivered', inflight', after⟩ :=
            mirrors.deliver apart earlier sizedEarlier fewEarlier next
          refine ⟨⟨_, _, _, after⟩, ?_⟩
          rw [Action.move?, Option.toList_some, Exchange.Settled, fromLast_snoc]
          exact and_congr Iff.rfl (imp_congr Iff.rfl same)

theorem Mirrors.pipe_eq_nil {actions : List Action} {p : Pair}
    {delivered inflight queued : Side → List String}
    (mirrors : Mirrors blake3 nodeId policy actions p delivered inflight queued)
    (quiescent : p.Quiescent) (side : Side) : (registers policy actions).pipe side = [] := by
  obtain ⟨ledger, sound, texts⟩ := (mirrors.half side.other).queue
  have queue := sound.queue
  rw [(quiescent side.other).1, eq_comm, List.map_eq_nil_iff] at queue
  rw [queue, List.filterMap_nil, eq_comm, List.map_eq_nil_iff] at texts
  have outgoing := (mirrors.half side.other).pipe
  rw [Side.other_other, (quiescent side).2] at outgoing
  have pipe := mirrors.pipe side.other
  rw [Side.other_other, outgoing.inflight_eq_nil, texts] at pipe
  exact pipe

/-- Once everything is quiet, both clipboards are the same exactly when the copies
    were ordered by the deliveries. -/
theorem clipboards_converge_iff {actions : List Action} {p : Pair}
    (run : Run blake3 (Pair.start nodeId policy) actions p) (apart : nodeId .left ≠ nodeId .right)
    (distinct : Distinct blake3 actions) (sized : Sized actions)
    (few : ∀ side, (copies side actions).length + 1 < 2 ^ 64) (quiescent : p.Quiescent) :
    (p.station .left).content = (p.station .right).content ↔ Ordered policy actions := by
  obtain ⟨⟨delivered, inflight, queued, mirrors⟩, ordered⟩ := run.mirrors apart distinct sized few
  have shown : ∀ side, (registers policy actions).outlook (fun side => (policy side).allows) side =
      (registers policy actions).shown side := by
    intro side
    rw [Exchange.outlook, Exchange.coming, mirrors.pipe_eq_nil quiescent side]
    rfl
  have values : (Exchange.values (moves actions)).Nodup :=
    ((values_moves actions .left).nodup_iff).mpr distinct.of_map
  rw [ordered, ← Exchange.outlooks_agree_iff values, ← registers, shown, shown, mirrors.shown,
    mirrors.shown]
  exact (Option.map_injective fun a b same => ClipboardContent.text.inj same).eq_iff

section Example

/-- One text after the other, each delivered before the next is copied. -/
def alternating : List Action :=
  [.copy .left "x", .take .left 0, .deliver .right, .take .right 0,
    .copy .right "y", .take .right 0, .deliver .left, .take .left 0]

theorem alternating_copies_converge :
    ∃ p, Run spread twoNodes alternating p ∧ p.Quiescent ∧
      (p.station .left).content = (p.station .right).content ∧
      Ordered (fun _ => .default) alternating := by
  have view : (twoNodes.execute spread alternating).map Pair.view =
      some [([], [], some (.text "y")), ([], [], some (.text "y"))] := by decide +kernel
  obtain ⟨p, run, quiescent, left, right⟩ := run_of_view view
  have distinct : Distinct spread alternating := by
    unfold Distinct
    decide +kernel
  have sized : Sized alternating := by
    intro side
    cases side with
    | left => decide
    | right => decide
  have few : ∀ side, (copies side alternating).length + 1 < 2 ^ 64 := by
    intro side
    cases side with
    | left => decide
    | right => decide
  have agree := left.trans right.symm
  exact ⟨p, run, quiescent, agree,
    (clipboards_converge_iff run (by decide) distinct sized few quiescent).mp agree⟩

/-- Two copies that cross, and in the end each user has the other's text. -/
theorem crossing_copies_are_swapped :
    ∃ p, Run spread twoNodes [.copy .left "x", .copy .right "y", .take .left 0, .take .right 0,
        .deliver .left, .deliver .right, .take .left 0, .take .right 0] p ∧
      p.Quiescent ∧ (p.station .left).content = some (.text "y") ∧
      (p.station .right).content = some (.text "x") := by
  exact run_of_view (by decide +kernel)

end Example

end BridgeOS.Clipboard
