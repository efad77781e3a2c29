import BridgeOS.Lib.Evaluation
import BridgeOS.Node.Link
import BridgeOS.Session.Player

/-! # The two frame loops

The owner of a session that calls `process_next_frame` until it returns `false` or
an error, and the loop of `handle_connection`, each on the same frames: the peer
has sent them and closed the stream, and disk, database and stream do not fail.
Up to a pairing frame or an offer the two do the same. The node then starts a
ceremony or a transfer and takes the next frames in that.
-/

namespace BridgeOS.Node

open BridgeOS.Session hiding recvFrame
open DataFrame
open BridgeOS.Transfer BridgeOS.Transport Proc

section Parameters

variable [Crypto] {σ : Type}

/-- `recv_data_frame` on a stream that ends behind these frames. -/
def awaitData (channel : UInt16) : List Frame → Except SessionError DataFrame × List Frame
  | [] => (.error (.closed "Peer disconnected while awaiting data frame"), [])
  | frame :: rest =>
      match recvDataRound channel (.ok (some frame)) with
      | .ends result => (result, rest)
      | .pong _ => awaitData channel rest
      | .skip => awaitData channel rest

section Surroundings

variable (player : Player σ)

/-- A stream that ends behind the frames which have arrived. -/
def answerCall (seat : Seat σ) : (c : Call) → c.Answer × Seat σ :=
  player.respond (F := (· × Seat σ)) Prod.mk
    (fun frame => match encodeFrame frame with
      | .ok _ => (.ok (), seat)
      | .error e => (.error e, seat))
    (match seat.inbox with
      | [] => (.ok none, seat)
      | frame :: inbox => (.ok (some frame), { seat with inbox }))
    (fun channel =>
      let read := awaitData channel seat.inbox
      (read.1, { seat with inbox := read.2 }))
    (.error (.io "no directory"), seat) seat

/-- The answers are among those the world allows. -/
theorem handles_answerCall (seat : Seat σ) (c : Call) :
    player.machine.Handles seat.world ⟨c, (answerCall player seat c).1⟩
      (answerCall player seat c).2.world := by
  cases c with
  | host c => cases c <;> exact Player.handles_of_reply (show player.reply seat _ = some (.answer _ _ []) from rfl)
  | send frame =>
      simp only [answerCall, Player.respond]
      split <;> rfl
  | recv =>
      simp only [answerCall, Player.respond]
      split <;> rfl
  | recvData channel => rfl
  | openReceiver manifest =>
      cases directory : player.self.receiveDir with
      | none =>
          simp only [answerCall, Player.respond, directory]
          exact ⟨seat.world.disk, rfl⟩
      | some dir =>
          simp only [answerCall, Player.respond, directory]
          exact ⟨dir, directory, rfl, rfl⟩
  | _ => exact Player.handles_of_reply (show player.reply seat _ = some (.answer _ _ []) from rfl)

def answerNode (seat : Seat σ) : (c : NodeCall) → c.Answer × Seat σ
  | .session c => answerCall player seat c
  | .select =>
      let received := answerCall player seat .recv
      (.inbound received.1, received.2)
  | .receiveChunk receiver chunk =>
      match receiver.receiveChunk player.blake3 seat.world.disk chunk with
      | .ok (receiver', disk) => (.ok receiver', { seat with world := { seat.world with disk } })
      | .error (.error e) => (.error e, seat)
      -- a receiver of a directory does not panic
      | .error .panic => (.error (.io "panicked"), seat)
  | .finalizeFile receiver =>
      match receiver.finalizeFile player.blake3 seat.world.disk with
      | .ok (path, disk) => (.ok path, { seat with world := { seat.world with disk } })
      | .error e => (.error e, seat)
  | .register _ => ((), seat)
  | .unregister _ => ((), seat)

/-- The owner calls again unless it is told not to. -/
def sessionRound (self : ActiveSession) (_ : Unit) : SessionProc (Unit ⊕ Unit) := do
  let more ← processNextFrame self
  return if more then .inl () else .inr ()

def sessionLoop (rounds : Nat) (seat : Seat σ) : Option (Except SessionError Unit × Seat σ) :=
  Proc.loop (answerCall player) (sessionRound player.self) rounds () seat

def nodeLoop (rounds : Nat) (seat : Seat σ) : Option (Except NodeError Unit × Seat σ) :=
  Proc.loop (answerNode player) connectionRound rounds (player.self, .select) seat

/-- Both loops come to an end, with the same files and the same clipboard. -/
def LoopsAgree (seat : Seat σ) : Prop :=
  ∀ rounds, seat.inbox.length < rounds → ∃ session node,
    sessionLoop player rounds seat = some session ∧ nodeLoop player rounds seat = some node ∧
      session.2.world.disk = node.2.world.disk ∧ session.2.world.engine = node.2.world.engine

end Surroundings

/-- The node goes on with a ceremony or with a transfer. -/
def Diverts : Frame → Prop
  | .data df => df.channel = channelPairing ∨ df.channel = channelFileTransfer ∧
      ∃ manifest, TransferMessage.fromBytes df.payload = .ok (.offer manifest)
  | _ => False

/-- The session is over with this frame. -/
def ends : Frame → Bool
  | .control (.disconnect _) => true
  | .data df => df.channel = channelFileTransfer &&
      match TransferMessage.fromBytes df.payload with
      | .ok _ => false
      | .error _ => true
  | _ => false

/-- The frames that are taken. -/
def taken : List Frame → List Frame
  | [] => []
  | frame :: rest => if ends frame then [frame] else frame :: taken rest

section Rounds

variable {player : Player σ} {seat : Seat σ} {frame : Frame} {rest : List Frame}

theorem eval_sessionRound (arrived : seat.inbox = frame :: rest) :
    (sessionRound player.self ()).eval (answerCall player) seat =
      (handleFrame player.self frame >>= fun more =>
        .ok (if more then Sum.inl () else Sum.inr ())).eval (answerCall player)
        { seat with inbox := rest } := by
  have received : answerCall player seat .recv = (.ok (some frame), { seat with inbox := rest }) := by
    simp only [answerCall, Player.respond, arrived]
  simp only [sessionRound, processNextFrame, request_bind, ask_bind, eval_ask, received, orFail_ok,
    ok_bind, pure_eq]

theorem eval_connectionRound (arrived : seat.inbox = frame :: rest) :
    (connectionRound (player.self, .select)).eval (answerNode player) seat =
      (handleInbound player.self frame >>= afterRound player.self).eval (answerNode player)
        { seat with inbox := rest } := by
  have received : answerNode player seat .select =
      (.inbound (.ok (some frame)), { seat with inbox := rest }) := by
    simp only [answerNode, answerCall, Player.respond, arrived]
  simp only [connectionRound_select, eval_ask, received, handleSelected, orFail_ok, ok_bind]

/-- What the two loops make of a frame they both have in hand. -/
inductive Meet (player : Player σ) (seat : Seat σ) (frame : Frame) : Prop where
  | stays (after : Seat σ) (going : ends frame = false) (inbox : after.inbox = seat.inbox)
      (trusted : after.world.state = .trusted)
      (session : (handleFrame player.self frame).eval (answerCall player) seat = (.ok true, after))
      (node : (handleInbound player.self frame).eval (answerNode player) seat =
        (.ok (some .select), after))
  | leaves (finished : Except SessionError Bool) (gone : Except NodeError (Option Phase)) (s n : Seat σ)
      (session : (handleFrame player.self frame).eval (answerCall player) seat = (finished, s))
      (node : (handleInbound player.self frame).eval (answerNode player) seat = (gone, n))
      (ended : finished ≠ .ok true) (left : ∀ phase, gone ≠ .ok (some phase))
      (disk : s.world.disk = n.world.disk) (engine : s.world.engine = n.world.engine)

/-- The session is served as the node serves it. -/
structure Served (player : Player σ) (seat : Seat σ) : Prop where
  trusted : seat.world.state = .trusted
  clipboard : player.self.clipboardEngine = true
  directory : player.self.receiveDir.isSome = true

theorem meet_control {control : ControlFrame} (served : Served player seat) :
    Meet player seat (.control control) := by
  cases control with
  | ping nonce =>
      cases encoded : encodeFrame (.control (.pong nonce)) with
      | ok bytes =>
          apply Meet.stays seat rfl rfl served.trusted
          · simp [handleFrame, sendFrame, answerCall, Player.respond, encoded]
          · simp [handleInbound, answerNode, answerCall, Player.respond, encoded]
      | error e =>
          apply Meet.leaves (.error (.transport e)) (.error (.cause (.bridge e))) seat seat
          · simp [handleFrame, sendFrame, answerCall, Player.respond, encoded]
          · simp [handleInbound, answerNode, answerCall, Player.respond, encoded]
          · simp
          · simp
          · rfl
          · rfl
  | pong nonce => exact .stays seat rfl rfl served.trusted rfl rfl
  | disconnect reason => exact .leaves (.ok false) (.ok none) _ seat rfl rfl (by simp) (by simp) rfl rfl

variable {df : DataFrame}

theorem meet_clipboard (served : Served player seat) (channel : df.channel = channelClipboard) :
    Meet player seat (.data df) := by
  have other : channelClipboard ≠ channelPairing := by decide
  have transfer : channelClipboard ≠ channelFileTransfer := by decide
  have session : (handleFrame player.self (.data df)).eval (answerCall player) seat =
      (.ok true, (answerCall player seat (.clipboardFrame df)).2) := by
    simp [handleFrame, channel, other, answerCall, Player.respond, served.trusted, SessionState.isTrusted,
      served.clipboard]
  have node : (handleInbound player.self (.data df)).eval (answerNode player) seat =
      (.ok (some .select), (answerCall player seat (.clipboardFrame df)).2) := by
    simp [handleInbound, channel, other, answerNode, answerCall, Player.respond, served.trusted]
  have still : (answerCall player seat (.clipboardFrame df)).2.world.state = .trusted := served.trusted
  exact .stays (answerCall player seat (.clipboardFrame df)).2 (by simp [ends, channel, transfer]) rfl
    still session node

/-- Both loops look at the transfer message only if the session is trusted, which it is. -/
theorem eval_transfer (served : Served player seat) (channel : df.channel = channelFileTransfer) :
    (handleFrame player.self (.data df)).eval (answerCall player) seat =
        (handleFileTransferFrame df.payload >>= fun _ => .ok true).eval (answerCall player) seat ∧
      (handleInbound player.self (.data df)).eval (answerNode player) seat =
        (handleFileTransfer df.payload).eval (answerNode player) seat := by
  have pairing : channelFileTransfer ≠ channelPairing := by decide
  have clipboard : channelFileTransfer ≠ channelClipboard := by decide
  constructor
  · simp [handleFrame, channel, pairing, clipboard, answerCall, Player.respond, served.trusted,
      SessionState.isTrusted, served.directory]
  · simp [handleInbound, channel, pairing, clipboard, answerNode, answerCall, Player.respond, served.trusted]

theorem meet_transfer (served : Served player seat) (channel : df.channel = channelFileTransfer)
    (straight : ∀ manifest, TransferMessage.fromBytes df.payload ≠ .ok (.offer manifest)) :
    Meet player seat (.data df) := by
  obtain ⟨session, node⟩ := eval_transfer served channel
  cases decoded : TransferMessage.fromBytes df.payload with
  | error e =>
      simp only [handleFileTransferFrame, handleFileTransfer, decoded, orFail_error, error_bind,
        eval_error] at session node
      exact .leaves _ _ _ _ session node (by simp) (by simp) rfl rfl
  | ok message =>
      simp only [handleFileTransferFrame, handleFileTransfer, decoded, orFail_ok, ok_bind] at session node
      cases message with
      | offer manifest => exact absurd decoded (straight manifest)
      | _ => exact .stays seat (by simp [ends, channel, decoded]) rfl served.trusted session node

theorem meet_of_straight (served : Served player seat) (straight : ¬ Diverts frame) :
    Meet player seat frame := by
  cases frame with
  | control control => exact meet_control served
  | handshake h => exact .stays seat rfl rfl served.trusted rfl rfl
  | data df =>
      by_cases clipboard : df.channel = channelClipboard
      · exact meet_clipboard served clipboard
      · by_cases transfer : df.channel = channelFileTransfer
        · exact meet_transfer served transfer fun manifest offered =>
            straight (.inr ⟨transfer, manifest, offered⟩)
        · have other : df.channel ≠ channelPairing := fun pairing => straight (.inl pairing)
          apply Meet.stays seat (by simp [ends, transfer]) rfl served.trusted
          · simp [handleFrame, other, clipboard, transfer]
          · simp [handleInbound, other, clipboard, transfer]

theorem eval_sessionRound_eof (ended : seat.inbox = []) :
    (sessionRound player.self ()).eval (answerCall player) seat = (.ok (.inr ()), seat) := by
  have received : answerCall player seat .recv = (.ok none, seat) := by simp only [answerCall, Player.respond, ended]
  simp only [sessionRound, processNextFrame, request_bind, ask_bind, eval_ask, received, orFail_ok,
    ok_bind, pure_eq]
  rfl

theorem eval_connectionRound_eof (ended : seat.inbox = []) :
    (connectionRound (player.self, .select)).eval (answerNode player) seat = (.ok (.inr ()), seat) := by
  have received : answerNode player seat .select = (.inbound (.ok none), seat) := by
    simp only [answerNode, answerCall, Player.respond, ended]
  simp only [connectionRound_select, eval_ask, received, handleSelected, orFail_ok, ok_bind]
  rfl

theorem eval_transferRound_eof (ended : seat.inbox = []) (manifest : FileManifest)
    (receiver : FileReceiver) :
    (connectionRound (player.self, .chunks manifest receiver)).eval (answerNode player) seat =
      (.error (.message "Sender disconnected during file transfer"), seat) := by
  have received : answerNode player seat (.session .recv) = (.ok none, seat) := by
    simp only [answerNode, answerCall, Player.respond, ended]
  simp only [connectionRound, transferRound, request_bind, ask_bind, eval_ask, received, orFail_ok,
    ok_bind, error_bind, eval_error]

end Rounds

section Loops

variable {player : Player σ} {seat after : Seat σ} {frame : Frame} {rest : List Frame} {rounds : Nat}

theorem sessionLoop_stays (arrived : seat.inbox = frame :: rest)
    (stays : (handleFrame player.self frame).eval (answerCall player) { seat with inbox := rest } =
      (.ok true, after)) :
    sessionLoop player (rounds + 1) seat = sessionLoop player rounds after := by
  apply loop_more
  rw [eval_sessionRound arrived, eval_bind, stays]
  rfl

theorem sessionLoop_leaves {finished : Except SessionError Bool} (arrived : seat.inbox = frame :: rest)
    (leaves : (handleFrame player.self frame).eval (answerCall player) { seat with inbox := rest } =
      (finished, after)) (ended : finished ≠ .ok true) :
    ∃ result, sessionLoop player (rounds + 1) seat = some (result, after) := by
  have round : (sessionRound player.self ()).eval (answerCall player) seat = _ := eval_sessionRound arrived
  rw [eval_bind, leaves] at round
  match finished with
  | .ok true => exact absurd rfl ended
  | .ok false => exact ⟨.ok (), by simp [sessionLoop, Proc.loop, round]⟩
  | .error e => exact ⟨.error e, by simp [sessionLoop, Proc.loop, round]⟩

theorem nodeLoop_phase {phase : Phase} (arrived : seat.inbox = frame :: rest)
    (goes : (handleInbound player.self frame).eval (answerNode player) { seat with inbox := rest } =
      (.ok (some phase), after)) :
    nodeLoop player (rounds + 1) seat =
      Proc.loop (answerNode player) connectionRound rounds (player.self, phase) after := by
  apply loop_more
  rw [eval_connectionRound arrived, eval_bind, goes]
  rfl

theorem nodeLoop_leaves {gone : Except NodeError (Option Phase)} (arrived : seat.inbox = frame :: rest)
    (leaves : (handleInbound player.self frame).eval (answerNode player) { seat with inbox := rest } =
      (gone, after)) (left : ∀ phase, gone ≠ .ok (some phase)) :
    ∃ result, nodeLoop player (rounds + 1) seat = some (result, after) := by
  have round : (connectionRound (player.self, .select)).eval (answerNode player) seat = _ :=
    eval_connectionRound arrived
  rw [eval_bind, leaves] at round
  match gone with
  | .ok (some phase) => exact absurd rfl (left phase)
  | .ok none => exact ⟨.ok (), by simp [nodeLoop, Proc.loop, round, afterRound, answerNode]⟩
  | .error e => exact ⟨.error e, by simp [nodeLoop, Proc.loop, round]⟩

theorem sessionLoop_eof (ended : seat.inbox = []) :
    sessionLoop player (rounds + 1) seat = some (.ok (), seat) := by
  simp only [sessionLoop, Proc.loop, eval_sessionRound_eof ended]

theorem nodeLoop_eof (ended : seat.inbox = []) :
    nodeLoop player (rounds + 1) seat = some (.ok (), seat) := by
  simp only [nodeLoop, Proc.loop, eval_connectionRound_eof ended]

/-- A pairing frame that is the last one starts a ceremony that fails. -/
theorem loopsAgree_pairing (channel : df.channel = channelPairing) (arrived : seat.inbox = [.data df]) :
    LoopsAgree player seat := by
  intro rounds enough
  obtain ⟨rounds, rfl⟩ : ∃ n, rounds = n + 2 := ⟨rounds - 2, by rw [arrived] at enough; simp at enough; omega⟩
  let left : Seat σ := { seat with inbox := [] }
  let pairing : Seat σ := { left with world := { left.world with state := .pairing } }
  have session : (handleFrame player.self (.data df)).eval (answerCall player) left = (.ok true, left) := by
    simp [handleFrame, channel]
  have node : (handleInbound player.self (.data df)).eval (answerNode player) left =
      (.ok (some .select), pairing) := by
    simp only [handleInbound, channel, if_true]
    rfl
  refine ⟨_, _, (sessionLoop_stays arrived session).trans (sessionLoop_eof rfl),
    (nodeLoop_phase arrived node).trans (nodeLoop_eof rfl), rfl, rfl⟩

/-- Both open a receiver for an offer; they part when it has been accepted. -/
theorem eval_offer {manifest : FileManifest} (served : Served player seat)
    (channel : df.channel = channelFileTransfer)
    (offered : TransferMessage.fromBytes df.payload = .ok (.offer manifest)) :
    ∃ after : Seat σ, after.inbox = seat.inbox ∧
      ((∃ finished gone, (handleFrame player.self (.data df)).eval (answerCall player) seat = (.error finished, after) ∧
          (handleInbound player.self (.data df)).eval (answerNode player) seat = (.error gone, after)) ∨
        ∃ receiver, (handleFrame player.self (.data df)).eval (answerCall player) seat = (.ok true, after) ∧
          (handleInbound player.self (.data df)).eval (answerNode player) seat =
            (.ok (some (.chunks manifest receiver)), after)) := by
  obtain ⟨session, node⟩ := eval_transfer served channel
  obtain ⟨dir, directory⟩ := Option.isSome_iff_exists.mp served.directory
  obtain ⟨handle, made, -⟩ := FileReceiver.toDir_spec seat.world.disk dir manifest
  have named := congrArg FileReceiver.manifest made
  generalize toDir : FileReceiver.toDir seat.world.disk dir manifest = opened at named
  -- the Accept of the session names the receiver's own manifest
  obtain ⟨⟨own, target, received⟩, disk⟩ := opened
  obtain rfl : own = manifest := named
  let receiver : FileReceiver := ⟨own, target, received⟩
  let after : Seat σ := { seat with world := { seat.world with disk } }
  have answered : answerCall player seat (.openReceiver own) = (.ok receiver, after) := by
    simp only [answerCall, Player.respond, directory, toDir]
    rfl
  let accept : Frame := .data (TransferMessage.accept own.fileId receiver.nextExpectedChunk).toDataFrame
  simp only [handleFileTransferFrame, handleFileTransfer, offered, orFail_ok, ok_bind, request_bind,
    ask_bind, eval_ask, answerNode, answered, sendFrame, sendWithContext] at session node
  refine ⟨after, rfl, ?_⟩
  cases encoded : encodeFrame accept with
  | ok bytes =>
      have sent : answerCall player after (.send accept) = (.ok (), after) := by
        simp only [answerCall, Player.respond, encoded]
      rw [sent] at session node
      exact .inr ⟨receiver, session, node⟩
  | error e =>
      have refused : answerCall player after (.send accept) = (.error e, after) := by
        simp only [answerCall, Player.respond, encoded]
      rw [refused] at session node
      exact .inl ⟨_, _, session, node⟩

/-- A transfer for which no more frames come is given up. -/
theorem loopsAgree_offer {manifest : FileManifest} (served : Served player seat)
    (channel : df.channel = channelFileTransfer)
    (offered : TransferMessage.fromBytes df.payload = .ok (.offer manifest)) (arrived : seat.inbox = [.data df]) :
    LoopsAgree player seat := by
  intro rounds enough
  obtain ⟨rounds, rfl⟩ : ∃ n, rounds = n + 2 := ⟨rounds - 2, by rw [arrived] at enough; simp at enough; omega⟩
  have opened : Served player { seat with inbox := [] } := ⟨served.trusted, served.clipboard, served.directory⟩
  obtain ⟨after, ended, ⟨finished, gone, session, node⟩ | ⟨receiver, session, node⟩⟩ :=
    eval_offer opened channel offered
  · obtain ⟨_, sessionEnds⟩ := sessionLoop_leaves arrived session nofun
    obtain ⟨_, nodeEnds⟩ := nodeLoop_leaves arrived node nofun
    exact ⟨_, _, sessionEnds, nodeEnds, rfl, rfl⟩
  · have aborted : Proc.loop (answerNode player) connectionRound (rounds + 1)
        (player.self, .chunks manifest receiver) after =
        some (.error (.message "Sender disconnected during file transfer"), after) := by
      simp only [Proc.loop, eval_transferRound_eof ended manifest receiver]
    exact ⟨_, _, (sessionLoop_stays arrived session).trans (sessionLoop_eof ended),
      (nodeLoop_phase arrived node).trans aborted, rfl, rfl⟩

theorem loopsAgree_last (served : Served player seat) (diverts : Diverts frame)
    (arrived : seat.inbox = [frame]) : LoopsAgree player seat := by
  match frame with
  | .data df =>
      rcases diverts with channel | ⟨channel, manifest, offered⟩
      · exact loopsAgree_pairing channel arrived
      · exact loopsAgree_offer served channel offered arrived
  | .control _ => exact diverts.elim
  | .handshake _ => exact diverts.elim

/-- A frame on which both stay leaves the rest of the work to the rest of the frames. -/
theorem loopsAgree_stays (arrived : seat.inbox = frame :: rest)
    (session : (handleFrame player.self frame).eval (answerCall player) { seat with inbox := rest } =
      (.ok true, after))
    (node : (handleInbound player.self frame).eval (answerNode player) { seat with inbox := rest } =
      (.ok (some .select), after))
    (left : after.inbox = rest) (agree : LoopsAgree player after) : LoopsAgree player seat := by
  intro rounds enough
  rw [arrived, List.length_cons] at enough
  obtain ⟨rounds, rfl⟩ : ∃ n, rounds = n + 1 := ⟨rounds - 1, by omega⟩
  obtain ⟨s, n, sessionEnds, nodeEnds, same⟩ := agree rounds (by rw [left]; omega)
  exact ⟨s, n, (sessionLoop_stays arrived session).trans sessionEnds,
    (nodeLoop_phase arrived node).trans nodeEnds, same⟩

omit [Crypto] in
theorem ends_of_diverts (diverts : Diverts frame) : ends frame = false := by
  match frame with
  | .data df =>
      rcases diverts with channel | ⟨channel, manifest, offered⟩
      · have other : channelPairing ≠ channelFileTransfer := by decide
        simp [ends, channel, other]
      · simp [ends, offered]
  | .control _ => exact diverts.elim
  | .handshake _ => exact diverts.elim

omit [Crypto] in
theorem eq_nil_of_taken (taken_nil : taken rest = []) : rest = [] := by
  cases rest with
  | nil => rfl
  | cons frame rest =>
      rw [taken] at taken_nil
      split at taken_nil
      · cases taken_nil
      · cases taken_nil

theorem loops_agree (served : Served player seat)
    (straight : ∀ frame ∈ (taken seat.inbox).dropLast, ¬ Diverts frame) : LoopsAgree player seat := by
  generalize frames : seat.inbox = inbox at straight
  induction inbox generalizing seat with
  | nil =>
      intro rounds enough
      obtain ⟨rounds, rfl⟩ : ∃ n, rounds = n + 1 := ⟨rounds - 1, by omega⟩
      exact ⟨_, _, sessionLoop_eof frames, nodeLoop_eof frames, rfl, rfl⟩
  | cons frame rest ih =>
      by_cases diverts : Diverts frame
      · -- it is not among the frames before the last, so it is the last
        rw [taken, ends_of_diverts diverts, if_neg Bool.false_ne_true] at straight
        cases later : taken rest with
        | nil =>
            rw [eq_nil_of_taken later] at frames
            exact loopsAgree_last served diverts frames
        | cons next others =>
            rw [later] at straight
            exact absurd diverts (straight frame (by simp))
      · have served' : Served player { seat with inbox := rest } :=
          ⟨served.trusted, served.clipboard, served.directory⟩
        cases meet_of_straight served' diverts with
        | stays after going inbox trusted session node =>
            apply loopsAgree_stays frames session node inbox
            apply ih ⟨trusted, served.clipboard, served.directory⟩ inbox
            intro later member
            apply straight
            rw [taken, going, if_neg Bool.false_ne_true]
            cases others : taken rest with
            | nil =>
                rw [others] at member
                cases member
            | cons next more =>
                rw [others] at member
                exact List.mem_cons_of_mem _ member
        | leaves finished gone s n session node ended left disk engine =>
            intro rounds enough
            obtain ⟨rounds, rfl⟩ : ∃ n, rounds = n + 1 := ⟨rounds - 1, by omega⟩
            obtain ⟨_, sessionEnds⟩ := sessionLoop_leaves frames session ended
            obtain ⟨_, nodeEnds⟩ := nodeLoop_leaves frames node left
            exact ⟨_, _, sessionEnds, nodeEnds, disk, engine⟩

end Loops

end Parameters

section Example

attribute [local instance] transparentCrypto

def exampleManifest : FileManifest := .new "1" "note" 3 (.fill 32 0)

/-- What an honest sender of three bytes sends. -/
def exampleFrames : List Frame :=
  [TransferMessage.offer exampleManifest,
    .data (.new (fun _ => .fill 32 0) "1" 0 0 [1, 2, 3]),
    .finished "1" (.fill 32 0)].map fun message => .data message.toDataFrame

def examplePlayer : Player (Option Clipboard.ClipboardContent) where
  self :=
    let laptop : IdentityKey := ⟨.fill 32 1⟩
    ⟨⟨.fill 32 2⟩, "desktop", .linux, laptop.nodeId, laptop.publicKey, "laptop", .linux, .trusted, true,
      some ⟨"received".toList⟩⟩
  blake3 _ := .fill 32 0
  backend := Clipboard.memoryBackend
  user := true
  random _ := .fill 32 0
  clock _ := 0

def exampleSeat (frames : List Frame) : Seat (Option Clipboard.ClipboardContent) :=
  ⟨⟨.trusted, ∅, ⟨⟨.fill 32 2⟩, .new 256, .default, none⟩, .empty⟩, frames, 0, 0⟩

def exampleFinal : PathBuf.Location := (PathBuf.mk "received/note".toList).location

/-- The node has the file; the session has dropped its receiver with the offer. -/
theorem offered_file_is_lost : ¬ LoopsAgree examplePlayer (exampleSeat exampleFrames) ∧
    ∃ session node, sessionLoop examplePlayer 4 (exampleSeat exampleFrames) = some session ∧
      nodeLoop examplePlayer 4 (exampleSeat exampleFrames) = some node ∧
      session.2.world.disk.read exampleFinal = none ∧
      node.2.world.disk.read exampleFinal = some [1, 2, 3] := by
  have missing : (sessionLoop examplePlayer 4 (exampleSeat exampleFrames)).map
      (fun outcome => outcome.2.world.disk.read exampleFinal) = some none := by decide +kernel
  have stored : (nodeLoop examplePlayer 4 (exampleSeat exampleFrames)).map
      (fun outcome => outcome.2.world.disk.read exampleFinal) = some (some [1, 2, 3]) := by
    decide +kernel
  obtain ⟨session, sessionEnds, unread⟩ := Option.map_eq_some_iff.mp missing
  obtain ⟨node, nodeEnds, read⟩ := Option.map_eq_some_iff.mp stored
  refine ⟨?_, session, node, sessionEnds, nodeEnds, unread, read⟩
  intro agree
  obtain ⟨s, n, sessionEnds', nodeEnds', disk, -⟩ := agree 4 (by decide)
  cases sessionEnds.symm.trans sessionEnds'
  cases nodeEnds.symm.trans nodeEnds'
  rw [disk, read] at unread
  cases unread

theorem loops_agree_up_to_an_offer :
    LoopsAgree examplePlayer (exampleSeat (.control (.ping 7) :: exampleFrames.take 1)) := by
  apply loops_agree ⟨rfl, rfl, rfl⟩
  have all : taken (exampleSeat (.control (.ping 7) :: exampleFrames.take 1)).inbox =
      .control (.ping 7) :: exampleFrames.take 1 := by decide +kernel
  intro frame member
  rw [all] at member
  cases List.mem_singleton.mp member
  exact id

end Example

end BridgeOS.Node
