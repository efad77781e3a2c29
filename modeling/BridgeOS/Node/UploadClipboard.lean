import BridgeOS.Clipboard.Monitor
import BridgeOS.Node.UploadSuccess

/-! # Clipboard traffic during an upload

A trusted session is registered before the loop starts, so a clipboard frame can
be sent on it before the node has taken the offer. The command takes the next
frame on the stream for the answer to its offer and fails. Once the offer is
taken, clipboard frames wait until the transfer is over, and the run is one
without clipboard traffic in everything but the frames behind the `Complete`.
-/

namespace BridgeOS.Node

open BridgeOS.Session hiding recvFrame
open BridgeOS.Transfer BridgeOS.Transport BridgeOS.Cli Proc

section Uploads

variable [Crypto] {σ : Type}

/-- Neither waits in the `select!` nor sends a clipboard frame. -/
def NodeCall.Calm : NodeCall → Prop
  | .select => False
  | .session (.send frame) => onClipboard frame = false
  | _ => True

section Calm

variable {self : ActiveSession}

theorem afterRound_calm (next : Option Phase) : (afterRound self next).AllCalls NodeCall.Calm := by
  cases next with
  | some phase => trivial
  | none => exact ⟨trivial, fun _ => trivial⟩

theorem NodeCall.Transfers.calm {c : NodeCall} (transfers : c.Transfers) : c.Calm := by
  cases c with
  | session c =>
      cases c with
      | recv => trivial
      | send frame =>
          obtain ⟨message, rfl⟩ := transfers
          rfl
      | _ => exact transfers.elim
  | receiveChunk => trivial
  | finalizeFile => trivial
  | _ => exact transfers.elim

theorem transferRound_calm (manifest : FileManifest) (receiver : FileReceiver) :
    (transferRound manifest receiver).AllCalls NodeCall.Calm :=
  (transferRound_transfers manifest receiver).allCalls.mono fun _ transfers => transfers.calm

theorem NodeCall.Serves.calm {trusted : Prop} (c : NodeCall) (serves : c.Serves trusted) : c.Calm := by
  cases c with
  | session c =>
      cases c with
      | send frame =>
          rcases frame with _ | _ | df
          · rfl
          · rfl
          · simp only [Calm, onClipboard, serves.2]
            rfl
      | _ => trivial
  | select => exact serves
  | _ => trivial

variable {frame : Frame}

theorem handleInbound_calm (own : OfUpload frame) :
    (handleInbound self frame).AllCalls NodeCall.Calm := by
  by_cases goodbye : ∃ reason, frame = .control (.disconnect reason)
  · obtain ⟨reason, rfl⟩ := goodbye
    trivial
  refine ((handleInbound_serves (fun _ => True) ?_ ?_).mono NodeCall.Serves.calm).allCalls
  · rintro df rfl pairing
    exact absurd (pairing.symm.trans own) (by decide)
  · exact fun reason same => goodbye ⟨reason, same⟩

theorem handleConnection_calm (endpoint : Endpoint) :
    (handleConnection endpoint).AllCalls NodeCall.Calm := by
  have greets : (serverHandshake endpoint).AllCalls fun c => NodeCall.Calm (.session c) := by
    refine (allCalls_of_greeting serverHandshake_greeting).mono fun c asked => ?_
    cases c with
    | send frame =>
        rcases frame with _ | _ | df
        · rfl
        · rfl
        · exact asked.elim
    | _ => trivial
  refine allCalls_bind (allCalls_lift greets) fun session => ?_
  refine allCalls_bind (allCalls_request trivial) fun _ => ?_
  by_cases trusted : session.state.isTrusted = true
  · rw [if_pos trusted]
    exact ⟨trivial, fun _ => trivial⟩
  · rw [if_neg trusted]
    trivial

end Calm

namespace Upload

/-- The same frames without those of the clipboard. -/
def hushed (frames : List Frame) : List Frame := frames.filter fun frame => !onClipboard frame

/-- The node's task, and where it would be had the frame not come out of the queue. -/
inductive Twin : Task → Task → Prop where
  | waiting (self : ActiveSession) :
      Twin (connectionRound (self, .select)) (connectionRound (self, .select))
  | busy {p : Task} (calm : p.AllCalls NodeCall.Calm) : Twin p p
  | reading (self : ActiveSession) {frame : DataFrame}
      (queued : frame.channel = DataFrame.channelClipboard) :
      Twin (handleOutbound frame >>= afterRound self) (connectionRound (self, .select))
  | sending (self : ActiveSession) {frame : DataFrame}
      (queued : frame.channel = DataFrame.channelClipboard) :
      Twin (.ask (.session (.send (.data frame))) fun _ => .ok (.inl (self, .select)))
        (connectionRound (self, .select))

section Twins

variable {machine : Machine σ} {gone : Prop} {p q : Task} {a b : Place σ}

theorem twin_resume (calm : p.AllCalls NodeCall.Calm) :
    Twin (p.resume connectionRound) (p.resume connectionRound) := by
  rcases p with (⟨self, phase⟩ | _) | _ | _
  · cases phase with
    | select => exact .waiting self
    | chunks manifest receiver =>
        exact .busy (allCalls_bind (transferRound_calm _ _) fun next => afterRound_calm next)
  · exact .busy calm
  · exact .busy calm
  · exact .busy calm

theorem Twin.finished (twin : Twin p q) (finished : Finished p) : Finished q := by
  cases twin with
  | busy calm => exact finished
  | _ => exact finished.elim

/-- What happens to the twin when the node's question is answered: the same, or
    nothing. -/
inductive Follows (machine : Machine σ) (gone : Prop) (q : Task) (a b : Place σ) : Task → Prop where
  | same {q' : Task} (step : SideStep machine gone (q, { a with outbox := hushed a.outbox })
      (q', { b with outbox := hushed b.outbox })) : Follows machine gone q a b q'
  | stays (world : b.world = a.world) (inbox : b.inbox = a.inbox)
      (outbox : hushed b.outbox = hushed a.outbox) : Follows machine gone q a b q

variable {c : NodeCall} {next : c.Answer → Task} {answer : c.Answer}

theorem hushed_sent (moves : Moves machine gone a ⟨c, answer⟩ b)
    (calm : ∀ frame, c = .session (.send frame) → onClipboard frame = false) :
    hushed b.outbox = hushed a.outbox ++ (sent? ⟨c, answer⟩).toList := by
  rw [moves.sent, hushed, List.filter_append]
  cases sent : sent? ⟨c, answer⟩ with
  | none => rfl
  | some frame =>
      rw [Option.toList_some, List.filter_singleton, calm frame (call_of_sent sent)]
      rfl

/-- The twin takes the same step. -/
theorem follows_same (moves : Moves machine gone a ⟨c, answer⟩ b)
    (calm : ∀ frame, c = .session (.send frame) → onClipboard frame = false) :
    Follows machine gone (.ask c next) a b ((next answer).resume connectionRound) := by
  refine .same (.answer ?_)
  rw [hushed_sent moves calm]
  exact moves.elsewhere id moves.taken id

theorem Twin.follow (twin : Twin (.ask c next) q) (moves : Moves machine gone a ⟨c, answer⟩ b)
    (own : ∀ frame, received? ⟨c, answer⟩ = some frame → OfUpload frame) :
    ∃ q', Twin ((next answer).resume connectionRound) q' ∧ Follows machine gone q a b q' ∧
      ((next answer).resume connectionRound ≠ q' → .ask c next ≠ q) := by
  generalize asks : Proc.ask c next = p at twin
  cases twin with
  | busy calm =>
      subst asks
      have silent : ∀ frame, c = .session (.send frame) → onClipboard frame = false := by
        rintro frame rfl
        exact calm.1
      exact ⟨_, twin_resume (calm.2 answer), follows_same moves silent, fun moved => absurd rfl moved⟩
  | waiting self =>
      rw [connectionRound_select] at asks ⊢
      cases asks
      have calm : (handleSelected self answer >>= afterRound self).AllCalls NodeCall.Calm := by
        refine allCalls_bind ?_ fun next => afterRound_calm next
        rcases answer with (e | _ | frame) | frame
        · trivial
        · trivial
        · exact handleInbound_calm (own frame rfl)
        · exact absurd rfl (moves.inbound frame)
      exact ⟨_, twin_resume calm, follows_same moves (by simp), fun moved => absurd rfl moved⟩
  | @reading self frame queued =>
      change Proc.ask c next = .ask (.session .readState) fun state =>
        (if state.isTrusted = true then .ask (.session (.send (.data frame))) fun _ => .ok (some .select)
          else .ok (some .select) : NodeProc (Option Phase)) >>= afterRound self at asks
      cases asks
      refine ⟨_, ?_, .stays moves.works.2 moves.taken.symm (hushed_sent moves (by simp) ▸ List.append_nil _),
        fun _ => nofun⟩
      dsimp only
      by_cases trusted : SessionState.isTrusted answer = true
      · rw [if_pos trusted]
        exact .sending self queued
      · rw [if_neg trusted]
        exact .waiting self
  | @sending self frame queued =>
      cases asks
      have clipboard : onClipboard (.data frame) = true := beq_iff_eq.mpr queued
      refine ⟨_, .waiting self, .stays moves.works moves.taken.symm ?_, fun moved => absurd rfl moved⟩
      rw [moves.sent, hushed, List.filter_append]
      cases answer with
      | ok =>
          rw [sent?, Option.toList_some, List.filter_singleton, clipboard]
          exact List.append_nil _
      | error => exact List.append_nil _

/-- A clipboard frame is sent by a task that has left its twin. -/
theorem Twin.ne_of_clipboard {next : Except BridgeError Unit → Task}
    (twin : Twin (.ask (.session (.send frame)) next) q) (clipboard : onClipboard frame = true) :
    .ask (.session (.send frame)) next ≠ q := by
  intro same
  generalize asks : (Proc.ask (NodeCall.session (.send frame)) next : Task) = p at twin same
  cases twin with
  | busy calm =>
      subst asks
      rw [calm.1] at clipboard
      cases clipboard
  | waiting self => cases asks
  | reading self queued => cases asks
  | sending self queued => cases same

end Twins

section Guards

variable {progress : Progress} {stage : Stage} {frames frames' : List Frame} {event : NodeEvent}

/-- No clipboard frame comes before the `Complete`, until the command has it. -/
def Guarded (progress : Progress) (stage : Stage) (frames : List Frame) : Prop :=
  progress.confirmed = true ∨ (stage ≠ .closed ∧ ∀ frame ∈ frames, onClipboard frame = false) ∨
    ∃ clean complete rest, frames = clean ++ complete :: rest ∧ completes complete = true ∧
      ∀ frame ∈ clean, onClipboard frame = false

omit [Crypto] in
theorem onClipboard_of_completes (completing : completes frame = true) :
    onClipboard frame = false := by
  rcases frame with _ | _ | df
  · rfl
  · rfl
  · by_contra clipboard
    rw [Bool.not_eq_false] at clipboard
    have other : df.channel ≠ DataFrame.channelFileTransfer := by
      rw [beq_iff_eq.mp clipboard]
      decide
    rw [completes, message?_of_channel other] at completing
    cases completing

theorem Guarded.take (guarded : Guarded progress stage frames)
    (taken : frames = (received? event).toList ++ frames')
    (waiting : ∀ frame, received? event = some frame → progress.confirmed = false) :
    (∀ frame, received? event = some frame → onClipboard frame = false) ∧
      Guarded (progress.after event) stage frames' := by
  cases received : received? event with
  | none =>
      rw [received] at taken
      obtain rfl : frames = frames' := taken
      refine ⟨nofun, ?_⟩
      rw [Guarded, Progress.after, received, Option.any_none, Bool.or_false]
      exact guarded
  | some frame =>
      rw [received] at taken
      subst taken
      rcases guarded with confirmed | ⟨open_, clean⟩ | ⟨clean, complete, rest, split, completing, silent⟩
      · rw [waiting frame received] at confirmed
        cases confirmed
      · refine ⟨?_, .inr (.inl ⟨open_, fun other mem => clean other (List.mem_cons_of_mem _ mem)⟩)⟩
        rintro _ ⟨⟩
        exact clean frame List.mem_cons_self
      · cases clean with
        | nil =>
            cases split
            refine ⟨?_, .inl ?_⟩
            · rintro _ ⟨⟩
              exact onClipboard_of_completes completing
            · rw [Progress.after, received, Option.any_some, completing, Bool.or_true]
        | cons first clean =>
            cases split
            refine ⟨?_, .inr (.inr ⟨clean, complete, rest, rfl, completing, ?_⟩)⟩
            · rintro _ ⟨⟩
              exact silent frame List.mem_cons_self
            · exact fun other mem => silent other (List.mem_cons_of_mem _ mem)

theorem Guarded.send (guarded : Guarded progress stage frames)
    (late : ∀ frame, sent? event = some frame → onClipboard frame = true → stage = .closed) :
    Guarded progress (stage.after event) (frames ++ (sent? event).toList) := by
  rcases guarded with confirmed | ⟨open_, clean⟩ | ⟨clean, complete, rest, rfl, completing, silent⟩
  · exact .inl confirmed
  · have silent : ∀ frame ∈ frames ++ (sent? event).toList, onClipboard frame = false := by
      intro frame mem
      rcases List.mem_append.mp mem with old | new
      · exact clean frame old
      · by_contra clipboard
        exact open_ (late frame (Option.mem_toList.mp new) (Bool.not_eq_false _ ▸ clipboard))
    rcases Stage.after_cases stage event with ⟨-, -, -, after⟩ | ⟨-, ⟨frame, sent, completing, -⟩ | ⟨-, after⟩⟩
    · refine .inr (.inl ⟨?_, silent⟩)
      rw [after]
      simp
    · rw [sent]
      exact .inr (.inr ⟨frames, frame, [], rfl, completing, clean⟩)
    · refine .inr (.inl ⟨?_, silent⟩)
      rw [after]
      exact open_
  · refine .inr (.inr ⟨clean, complete, rest ++ (sent? event).toList, ?_, completing, silent⟩)
    rw [List.append_assoc, List.cons_append]

end Guards

section Runs

variable (upload : Upload σ)

/-- Every clipboard frame comes out of the queue after the node has taken the offer. -/
def OfferFirst (history : List Happening) : Prop :=
  ∀ before frame after, history = before ++ .outbound frame :: after → upload.OfferTaken before

/-- The run beside a run without clipboard traffic. -/
structure Shadow (l : Link σ) (progress : Progress) (stage : Stage) (q : Task) : Prop where
  twin : Twin l.node q
  late : l.node ≠ q → stage ≠ .fresh
  guarded : Guarded progress stage l.toInitiator
  quiet : upload.Undisturbed
    ⟨l.initiator, q, l.initiatorWorld, l.nodeWorld, l.toNode, hushed l.toInitiator⟩

variable {upload} {l : Link σ} {progress : Progress} {stage : Stage} {q : Task}

theorem call_of_received {c : NodeCall} {answer : c.Answer} (received : received? ⟨c, answer⟩ = some frame) :
    c = .session .recv ∨ c = .select := by
  unfold received? at received
  split at received
  · rename_i same
    cases same
    exact .inl rfl
  · rename_i same
    cases same
    exact .inr rfl
  · cases received

theorem shadow_start : upload.Shadow upload.start ⟨false, false⟩ .fresh upload.start.node where
  twin := .busy (handleConnection_calm _)
  late := fun moved => absurd rfl moved
  guarded := .inr (.inl ⟨nofun, by simp [start]⟩)
  quiet := ⟨[], .start, by simp⟩

/-- The command does the same beside the twin. -/
theorem Shadow.sender_step (shadow : upload.Shadow l progress stage q) (sound : upload.Sound l progress stage)
    {task : Task} {p : Place σ}
    (step : SideStep (upload.setup.machine upload.setup.initiator) (Finished l.node)
      (l.initiator, ⟨l.initiatorWorld, l.toInitiator, l.toNode⟩) (task, p)) :
    ∃ progress', upload.Sound ⟨task, l.node, p.world, l.nodeWorld, p.outbox, p.inbox⟩ progress' stage ∧
      upload.Shadow ⟨task, l.node, p.world, l.nodeWorld, p.outbox, p.inbox⟩ progress' stage q := by
  obtain ⟨c, next, answer, asks, rfl, may, moves, sound'⟩ := sound.sender_moves step
  have waiting : ∀ frame, received? ⟨c, answer⟩ = some frame → progress.confirmed = false := by
    intro frame received
    rcases call_of_received received with rfl | rfl
    · exact may
    · exact may.elim
  obtain ⟨silent, guarded⟩ := shadow.guarded.take moves.taken waiting
  refine ⟨_, sound', shadow.twin, shadow.late, guarded, ?_⟩
  have taken : hushed l.toInitiator = (received? ⟨c, answer⟩).toList ++ hushed p.inbox := by
    rw [show l.toInitiator = _ from moves.taken, hushed, List.filter_append]
    cases received : received? ⟨c, answer⟩ with
    | none => rfl
    | some frame =>
        rw [Option.toList_some, List.filter_singleton, silent frame received]
        rfl
  have swapped : Carries (upload.setup.machine upload.setup.initiator) (Finished q)
      ⟨l.initiatorWorld, hushed l.toInitiator, l.toNode⟩ ⟨c, answer⟩
      ⟨p.world, hushed p.inbox, l.toNode ++ (sent? ⟨c, answer⟩).toList⟩ := by
    apply moves.elsewhere shadow.twin.finished taken
    intro empty
    rw [show l.toInitiator = [] from empty]
    rfl
  have quiet := shadow.quiet
  rw [asks] at quiet
  have stepped : SideStep (upload.setup.machine upload.setup.initiator) (Finished q)
    (.ask c next, _) _ := .answer swapped
  have followed := quiet.step (.sender stepped) nofun
  rw [show p.outbox = l.toNode ++ _ from moves.sent]
  exact followed

/-- The node does the same as its twin, or the twin waits. -/
theorem Shadow.node_step (shadow : upload.Shadow l progress stage q) (sound : upload.Sound l progress stage)
    {task : Task} {p : Place σ}
    (step : SideStep (upload.setup.machine upload.setup.node) (Finished l.initiator)
      (l.node, ⟨l.nodeWorld, l.toNode, l.toInitiator⟩) (task, p)) :
    ∃ c answer q', Moves (upload.setup.machine upload.setup.node) (Finished l.initiator)
        ⟨l.nodeWorld, l.toNode, l.toInitiator⟩ ⟨c, answer⟩ p ∧
      (stage.after ⟨c, answer⟩ ≠ .fresh ↔ stage ≠ .fresh ∨ received? ⟨c, answer⟩ = some upload.offer) ∧
      upload.Sound ⟨l.initiator, task, l.initiatorWorld, p.world, p.inbox, p.outbox⟩ progress
        (stage.after ⟨c, answer⟩) ∧
      upload.Shadow ⟨l.initiator, task, l.initiatorWorld, p.world, p.inbox, p.outbox⟩ progress
        (stage.after ⟨c, answer⟩) q' := by
  obtain ⟨c, next, answer, asks, rfl, moves, left, sound'⟩ := sound.node_moves step
  have kept := sound.node
  have twin := shadow.twin
  rw [asks] at kept twin
  obtain ⟨q', twin', follows, behind⟩ := twin.follow moves
    fun frame received => (sound.toNode frame (moves.mem_of_received received)).1
  refine ⟨c, answer, q', moves, left, sound', twin', ?_, ?_, ?_⟩
  · intro moved
    exact left.mpr (.inl (shadow.late (asks ▸ behind moved)))
  · rw [moves.sent]
    refine shadow.guarded.send ?_
    intro frame sent clipboard
    obtain rfl := call_of_sent sent
    have left := shadow.late (asks ▸ twin.ne_of_clipboard clipboard)
    have finished := kept.1.2 clipboard
    cases stage with
    | fresh => exact absurd rfl left
    | offered => exact absurd rfl finished
    | closed => rfl
  · cases follows with
    | same step =>
        have stepped : upload.setup.Step ⟨l.initiator, q, l.initiatorWorld, l.nodeWorld, l.toNode,
          hushed l.toInitiator⟩ _ := .node step
        exact steps_keep Undisturbed.step shadow.quiet (.single stepped)
    | stays world inbox outbox =>
        rw [world, inbox, outbox]
        exact shadow.quiet

theorem Shadow.outbound (shadow : upload.Shadow l progress stage q) {next : Selected → Task}
    {frame : DataFrame} (waits : l.node = .ask .select next)
    (queued : frame.channel = DataFrame.channelClipboard) (taken : stage ≠ .fresh) :
    upload.Shadow { l with node := (next (.outbound frame)).resume connectionRound } progress stage q := by
  have twin := shadow.twin
  rw [waits] at twin
  generalize asks : (Proc.ask NodeCall.select next : Task) = p at twin
  cases twin with
  | busy calm =>
      subst asks
      exact calm.1.elim
  | reading self _ => cases asks
  | sending self _ => cases asks
  | waiting self =>
      rw [connectionRound_select] at asks
      cases asks
      exact ⟨.reading self queued, fun _ => taken, shadow.guarded, shadow.quiet⟩

variable {history : List Happening}

omit [Crypto] in
theorem offerFirst_append {what : Happening} (first : upload.OfferFirst (history ++ [what])) :
    upload.OfferFirst history ∧ ∀ frame, what = .outbound frame → upload.OfferTaken history := by
  constructor
  · rintro before frame after rfl
    exact first before frame (after ++ [what]) (by simp)
  · rintro frame rfl
    exact first history frame [] rfl

theorem exists_shadow (run : upload.Run history l) (first : upload.OfferFirst history) :
    ∃ progress stage q, upload.Sound l progress stage ∧ (upload.OfferTaken history ↔ stage ≠ .fresh) ∧
      upload.Shadow l progress stage q := by
  induction run with
  | start => exact ⟨_, _, _, sound_start, by simp [OfferTaken], shadow_start⟩
  | step before step ih =>
      obtain ⟨earlier, now⟩ := offerFirst_append first
      obtain ⟨progress, stage, q, sound, took, shadow⟩ := ih earlier
      cases step with
      | sender step =>
          obtain ⟨progress', sound', shadow'⟩ := shadow.sender_step sound step
          refine ⟨progress', stage, q, sound', ?_, shadow'⟩
          rw [offerTaken_append, took]
          simp [OfferTaken]
      | node step takes sends =>
          obtain ⟨c, answer, q', moves, left, sound', shadow'⟩ := shadow.node_step sound step
          refine ⟨progress, _, q', sound', ?_, shadow'⟩
          rw [left, offerTaken_append, took, offerTaken_node,
            List.append_cancel_right (takes.symm.trans moves.taken), Option.mem_toList]
      | outbound waits queued =>
          have taken := took.mp (now _ rfl)
          refine ⟨progress, stage, q, sound.outbound waits queued, ?_, shadow.outbound waits queued taken⟩
          rw [offerTaken_append, took]
          simp [OfferTaken]
      | elsewhere others =>
          refine ⟨progress, stage, q, sound.elsewhere others, ?_, shadow.twin, shadow.late, shadow.guarded,
            shadow.quiet.step (.elsewhere others) (by simp)⟩
          rw [offerTaken_append, took]
          simp [OfferTaken]

/-- As long as every clipboard frame comes out of the queue after the offer is taken,
    the command never waits with a clipboard frame in front of it, and it and the
    node's files are where they would be without clipboard traffic. -/
theorem clipboard_leaves_upload_alone (upload : Upload σ) {history : List Happening} {l : Link σ}
    (run : upload.Run history l) (first : upload.OfferFirst history) :
    (∀ next frame rest, l.initiator = .ask (.session .recv) next → l.toInitiator = frame :: rest →
      onClipboard frame = false) ∧
    ∃ quiet, upload.Undisturbed quiet ∧ quiet.initiator = l.initiator ∧
      quiet.initiatorWorld = l.initiatorWorld ∧ quiet.nodeWorld = l.nodeWorld := by
  obtain ⟨progress, stage, q, sound, -, shadow⟩ := exists_shadow run first
  refine ⟨?_, _, shadow.quiet, rfl, rfl, rfl⟩
  intro next frame rest waits arrived
  have kept := sound.sender
  rw [waits] at kept
  have received : received? ⟨.session .recv, .ok (some frame)⟩ = some frame := rfl
  rw [← List.singleton_append, ← Option.toList_some, ← received] at arrived
  exact (shadow.guarded.take arrived fun _ _ => kept.1).1 frame received

omit [Crypto] in
theorem offerFirst_of_taken (silent : ∀ frame, .outbound frame ∉ history) (taken : upload.OfferTaken history)
    (frame : DataFrame) :
    upload.OfferFirst (history ++ [Happening.outbound frame]) := by
  intro before other after split
  rcases after.eq_nil_or_concat with rfl | ⟨front, last, rfl⟩
  · obtain ⟨rfl, -⟩ := List.append_inj' split rfl
    exact taken
  · rw [List.concat_eq_append, ← List.cons_append, ← List.append_assoc] at split
    obtain ⟨rfl, -⟩ := List.append_inj' split rfl
    exact absurd (by simp) (silent other)

section Early

-- what a frame looks like on the wire plays no part here
attribute [local irreducible] encodeFrame

/-- A clipboard frame sent as soon as the session is registered: the command takes it
    for the answer to its offer. -/
theorem early_frame_aborts {frame : DataFrame} (ready : upload.Ready)
    (clipboard : frame.channel = DataFrame.channelClipboard) (frameFits : Sendable (.data frame)) :
    ∃ history l, upload.Run history l ∧ l.initiator =
      .error (.cause (.transfer (.protocol "Invalid channel: expected 2, received 1"))) := by
  obtain ⟨self, w, shaken, trusted, -⟩ := exists_offering ready
  obtain ⟨_, offerSent⟩ := ready.offer
  obtain ⟨_, frameSent⟩ := frameFits
  let Reached (l : Link σ) : Prop := ∃ history, upload.Run history l
  have closed : ∀ {l what l'}, Reached l → upload.Step l what l' →
      (∀ frame, what ≠ .outbound frame) → Reached l' :=
    fun ⟨_, run⟩ step _ => ⟨_, run.step step⟩
  obtain ⟨history, run⟩ := steps_keep closed ⟨[], .start⟩ shaken
  have dequeued : Reached ⟨upload.offering, (handleOutbound frame >>= afterRound self).resume connectionRound,
      upload.setup.initiatorWorld, w, [], []⟩ :=
    ⟨_, run.step (.outbound (l := ⟨_, connectionRound (self, .select), _, _, _, _⟩)
      (connectionRound_select self) clipboard)⟩
  have forwards : Runs (handleOutbound frame >>= afterRound self)
      [⟨.session .readState, .trusted⟩, ⟨.session (.send (.data frame)), .ok ()⟩]
      (.ok (.inl (self, .select))) := .ask (.ask (.stop _))
  have forwarded := steps_keep closed dequeued (Setup.node_runs forwards
    ⟨_, .inr ⟨id, _, ⟨trusted.symm, rfl⟩, rfl⟩, _, carries_sent frameSent, rfl⟩)
  have refused : TransferMessage.fromDataFrame frame =
      .error (.protocol "Invalid channel: expected 2, received 1") := by
    rw [TransferMessage.fromDataFrame, clipboard, if_pos (by decide)]
    decide +kernel
  have aborts : Runs upload.offering
      [⟨.session (.send upload.offer), .ok ()⟩, ⟨.session .recv, .ok (some (.data frame))⟩]
      (.error (.cause (.transfer (.protocol "Invalid channel: expected 2, received 1")))) := by
    refine .ask (.ask ?_)
    change Runs ((((orFail _ (TransferMessage.fromDataFrame frame) >>= _) >>= _) >>= _)) _ _
    rw [refused]
    exact .stop _
  obtain ⟨history, run⟩ := steps_keep closed forwarded (Setup.initiator_runs (p := upload.offering) aborts
    ⟨_, carries_sent offerSent, _, carries_recv rfl, rfl⟩)
  exact ⟨history, _, run, rfl⟩

end Early

end Runs

end Upload

end Uploads

section Example

attribute [local instance] transparentCrypto

/-- What the broadcaster sends when a text is copied at the node. -/
def exampleBroadcast : DataFrame :=
  (Clipboard.ClipboardMessage.sync
    (.new exampleHash 0 exampleUpload.setup.node.localIdentity.nodeId 1 (.text "x") false)).toDataFrame

theorem exampleBroadcast_fits : Sendable (.data exampleBroadcast) := by
  have short : (Frame.codec.encode (.data exampleBroadcast)).length ≤ maxFrameLength := by
    decide +kernel
  exact exists_encodeFrame short

theorem early_broadcast_aborts_upload : ∃ history l, exampleUpload.Run history l ∧ l.initiator =
    .error (.cause (.transfer (.protocol "Invalid channel: expected 2, received 1"))) :=
  Upload.early_frame_aborts exampleUpload_ready rfl exampleBroadcast_fits

theorem late_broadcast_is_harmless : ∃ history l frame,
    .outbound frame ∈ history ∧ exampleUpload.Run history l ∧ exampleUpload.OfferFirst history ∧
    l.initiator = .ok (.inr ()) ∧
    ∃ quiet, exampleUpload.Undisturbed quiet ∧ quiet.initiator = l.initiator ∧
      quiet.initiatorWorld = l.initiatorWorld ∧ quiet.nodeWorld = l.nodeWorld := by
  obtain ⟨self, w, toNode, ⟨history, run, silent⟩, -⟩ := exampleUpload_completes
  have taken : exampleUpload.OfferTaken history := by
    obtain ⟨progress, stage, sound, took⟩ := Upload.exists_sound run
    refine took.mpr ?_
    rw [sound.confirmed sound.sender.1]
    nofun
  have first := Upload.offerFirst_of_taken silent taken exampleBroadcast
  have onChannel : exampleBroadcast.channel = DataFrame.channelClipboard := rfl
  have later := run.step (.outbound (connectionRound_select self) onChannel)
  exact ⟨_, _, exampleBroadcast, by simp, later, first, rfl,
    (Upload.clipboard_leaves_upload_alone exampleUpload later first).2⟩

end Example

end BridgeOS.Node
