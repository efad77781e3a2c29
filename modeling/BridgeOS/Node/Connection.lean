import BridgeOS.Session.Questions

/-! # A connection of the node

`handle_connection` and `handle_file_transfer` of the node, and `run_pair` of the
command line. A connection's task is a loop: each round waits for an inbound
frame or an outbound clipboard frame, whichever is first. An offered file is
received in a loop of its own, which waits for frames only.
-/

namespace BridgeOS.Node

open BridgeOS.Session BridgeOS.Transfer

inductive Cause where
  | bridge (error : BridgeError)
  | session (error : SessionError)
  | transfer (error : TransferError)
  deriving DecidableEq

/-- A cause with or without context, or a message; a frame or a transfer message in
    place of its debug text. -/
inductive NodeError where
  | context (text : String) (cause : Cause)
  | cause (cause : Cause)
  | message (text : String)
  | unexpectedFrame (text : String) (got : Frame)
  | unexpectedMessage (text : String) (got : TransferMessage)
  deriving DecidableEq

/-- What `select!` came back with. -/
inductive Selected where
  | inbound (received : Except BridgeError (Option Frame))
  | outbound (frame : DataFrame)
  deriving DecidableEq

/-- Where the task waits for its next frame. -/
inductive Phase where
  | select
  | chunks (manifest : FileManifest) (receiver : FileReceiver)

variable [Crypto]

/-- The questions of a session and those the node adds: the `select!`, the open
    receiver, and the map of the sessions that clipboard frames are sent to. -/
inductive NodeCall where
  | session (c : Call)
  | select
  | receiveChunk (receiver : FileReceiver) (chunk : FileChunk)
  | finalizeFile (receiver : FileReceiver)
  | register (nodeId : NodeId)
  | unregister (nodeId : NodeId)

@[reducible] def NodeCall.Answer : NodeCall → Type
  | .session c => c.Answer
  | .select => Selected
  | .receiveChunk .. => Except TransferError FileReceiver
  | .finalizeFile _ => Except TransferError PathBuf
  | .register _ => Unit
  | .unregister _ => Unit

/-- How the question that waits for `recv_frame` goes on with its result: with an
    answer, or by receiving again. -/
def NodeCall.take : (c : NodeCall) → Except BridgeError (Option Frame) → Option c.Answer
  | .session .recv, received => some received
  | .session (.recvData channel), received =>
      match recvDataRound channel received with
      | .ends result => some result
      | _ => none
  | .select, received => some (.inbound received)
  | _, _ => none

def NodeCall.Receives : NodeCall → Prop
  | .session .recv => True
  | .session (.recvData _) => True
  | .select => True
  | _ => False

abbrev NodeProc (α : Type) := Proc NodeCall NodeCall.Answer NodeError α

abbrev NodeEvent := Proc.Event NodeCall NodeCall.Answer

/-- A session's function called with `?` behind a context. -/
def onSession {α : Type} (text : String) (p : SessionProc α) : NodeProc α :=
  p.lift NodeCall.session (fun _ answer => answer) fun e => .context text (.session e)

/-- A session's function whose outcome is matched. -/
def attemptSession {α : Type} (p : SessionProc α) : NodeProc (Except SessionError α) :=
  p.attempt.lift NodeCall.session (fun _ answer => answer) id

def sendWithContext (text : String) (frame : Frame) : NodeProc Unit := do
  let sent ← .request (NodeCall.session (.send frame))
  .orFail (fun e => NodeError.context text (.bridge e)) sent

/-- `handle_file_transfer` up to its loop. -/
def handleFileTransfer (payload : Bytes) : NodeProc (Option Phase) := do
  let message ← .orFail
    (fun e => NodeError.context "Failed to deserialize TransferMessage payload" (.transfer e))
    (TransferMessage.fromBytes payload)
  match message with
  | .offer manifest =>
      let opened ← .request (NodeCall.session (.openReceiver manifest))
      let receiver ← .orFail
        (fun e => NodeError.context "Failed to initialize file receiver" (.transfer e)) opened
      sendWithContext "Failed to send Accept frame" (.data
        (TransferMessage.accept manifest.fileId receiver.nextExpectedChunk).toDataFrame)
      return some (.chunks manifest receiver)
  | _ => return some .select

/-- What the loop of `handle_file_transfer` does with a message. -/
def handleTransferMessage (manifest : FileManifest) (receiver : FileReceiver) :
    TransferMessage → NodeProc (Option Phase)
  | .data chunk => do
      let stored ← .request (NodeCall.receiveChunk receiver chunk)
      let receiver ← .orFail
        (fun e => NodeError.context "Failed to write received file chunk" (.transfer e)) stored
      sendWithContext "Failed to send chunk Ack" (.data
        (TransferMessage.ack manifest.fileId chunk.chunkIndex).toDataFrame)
      return some (.chunks manifest receiver)
  | .finished finId blake3RootHash =>
      if finId ≠ manifest.fileId then .error (.message "Finished file ID mismatch")
      else if blake3RootHash ≠ manifest.blake3RootHash then
        .error (.message "Finished message root hash mismatch with initial offer manifest")
      else do
        let finalized ← .request (NodeCall.finalizeFile receiver)
        let _ ← .orFail (fun e => NodeError.context
          "Blake3 root hash verification failed for received file" (.transfer e)) finalized
        sendWithContext "Failed to send TransferMessage::Complete" (.data
          (TransferMessage.complete manifest.fileId).toDataFrame)
        return some .select
  | .cancel _ reason => .error (.message ("Transfer cancelled by sender: " ++ reason))
  | other => .error (.unexpectedMessage "Unexpected message during chunk streaming: " other)

/-- One round of the loop of `handle_file_transfer`. -/
def transferRound (manifest : FileManifest) (receiver : FileReceiver) : NodeProc (Option Phase) := do
  let received ← .request (NodeCall.session .recv)
  match ← .orFail (fun e => NodeError.context "Failed to receive chunk frame" (.bridge e)) received with
  | none => .error (.message "Sender disconnected during file transfer")
  | some (.data df) =>
      let message ← .orFail (fun e => NodeError.cause (.transfer e)) (TransferMessage.fromDataFrame df)
      handleTransferMessage manifest receiver message
  | some (.control (.disconnect _)) =>
      .error (.message "Sender aborted transfer with Disconnect signal")
  | some other => .error (.unexpectedFrame "Expected Data frame for file transfer, received " other)

/-- The inbound branch of the `select!`; `none` leaves the loop. -/
def handleInbound (self : ActiveSession) : Frame → NodeProc (Option Phase)
  | .control (.ping nonce) => do
      let sent ← .request (NodeCall.session (.send (.control (.pong nonce))))
      .orFail (fun e => NodeError.cause (.bridge e)) sent
      return some .select
  | .control (.pong _) => return some .select
  | .control (.disconnect _) => return none
  | .data df =>
      if df.channel = DataFrame.channelPairing then do
        -- the frame in hand is not passed on
        match ← attemptSession (executePairing self false) with
        | .ok _ => .request (NodeCall.register self.remoteNodeId)
        | .error _ => pure ()
        return some .select
      else if df.channel = DataFrame.channelClipboard then do
        let state ← .request (NodeCall.session .readState)
        if state.isTrusted then
          let _ ← .request (NodeCall.session (.clipboardFrame df))
        return some .select
      else if df.channel = DataFrame.channelFileTransfer then do
        let state ← .request (NodeCall.session .readState)
        if state.isTrusted then handleFileTransfer df.payload else return some .select
      else return some .select
  | .handshake _ => return some .select

/-- The outbound branch of the `select!`. -/
def handleOutbound (outbound : DataFrame) : NodeProc (Option Phase) := do
  let state ← .request (NodeCall.session .readState)
  if state.isTrusted then
    let _ ← .request (NodeCall.session (.send (.data outbound)))
  return some .select

def handleSelected (self : ActiveSession) : Selected → NodeProc (Option Phase)
  | .outbound frame => handleOutbound frame
  | .inbound received => do
      match ← .orFail (fun e => NodeError.context "Failed to read frame" (.bridge e)) received with
      | none => return none
      | some frame => handleInbound self frame

/-- The task of a connection: what is left of the current round. -/
abbrev Task := NodeProc ((ActiveSession × Phase) ⊕ Unit)

/-- Another round, or the code behind the loop. -/
def afterRound (self : ActiveSession) : Option Phase → Task
  | some phase => return .inl (self, phase)
  | none => do
      .request (NodeCall.unregister self.remoteNodeId)
      return .inr ()

def connectionRound : ActiveSession × Phase → Task
  | (self, .select) => do
      let selected ← .request NodeCall.select
      let next ← handleSelected self selected
      afterRound self next
  | (self, .chunks manifest receiver) => transferRound manifest receiver >>= afterRound self

theorem connectionRound_select (self : ActiveSession) : connectionRound (self, .select) =
    .ask .select fun selected => handleSelected self selected >>= afterRound self := rfl

/-- From the handshake to the loop; the session's state comes into being here. -/
def enterLoop (session : ActiveSession) : Task := do
  .request (NodeCall.session (.setState session.state))
  if session.state.isTrusted then .request (NodeCall.register session.remoteNodeId)
  return .inl (session, .select)

def handleConnection (endpoint : Endpoint) : Task := do
  let session ← onSession "Handshake failed" (serverHandshake endpoint)
  enterLoop session

def initiate (session : ActiveSession) : Task := do
  .request (NodeCall.session (.setState session.state))
  let _ ← onSession "Pairing ceremony failed or was rejected" (executePairing session true)
  return .inr ()

/-- The command's side of a pairing, which has no loop. -/
def runPair (endpoint : Endpoint) : Task := do
  let session ← onSession "Cryptographic authentication handshake failed" (clientHandshake endpoint)
  initiate session

section Calls

open Proc

/-- What the answer to a frame of the peer asks; application data needs trust. -/
def NodeCall.Serves (trusted : Prop) : NodeCall → Prop
  | .session .readState => True
  | .session (.send (.control _)) => True
  | .session (.send (.data df)) => trusted ∧ df.channel = DataFrame.channelFileTransfer
  | .session (.clipboardFrame _) => trusted
  | .session (.openReceiver _) => trusted
  | _ => False

/-- What a round asks outside a ceremony. -/
def NodeCall.Routine (trusted : Prop) : NodeCall → Prop
  | .session .recv => True
  | .session .readState => True
  | .session (.send (.control _)) => True
  | .session (.send (.data df)) => trusted ∨ df.channel = DataFrame.channelFileTransfer
  | .session (.clipboardFrame _) => trusted
  | .session (.openReceiver _) => trusted
  | .session _ => False
  | .register _ => False
  | _ => True

theorem NodeCall.Serves.routine {trusted : Prop} (c : NodeCall) (serves : c.Serves trusted) :
    c.Routine trusted := by
  cases c with
  | session c =>
      cases c with
      | send frame =>
          cases frame with
          | data df => exact .inl serves.1
          | _ => exact serves
      | recv => trivial
      | _ => exact serves
  | _ => exact serves.elim

section Transfers

/-- What a round of a transfer asks: it takes frames, writes the file and answers with messages
    of the transfer. -/
def NodeCall.Transfers : NodeCall → Prop
  | .session .recv => True
  | .session (.send frame) => ∃ message : TransferMessage, frame = .data message.toDataFrame
  | .receiveChunk .. => True
  | .finalizeFile _ => True
  | _ => False

theorem NodeCall.Transfers.routine {trusted : Prop} (c : NodeCall) (transfers : c.Transfers) :
    c.Routine trusted := by
  cases c with
  | session c =>
      cases c with
      | recv => trivial
      | send frame =>
          obtain ⟨message, rfl⟩ := transfers
          exact .inr rfl
      | _ => exact transfers.elim
  | receiveChunk => trivial
  | finalizeFile => trivial
  | _ => exact transfers.elim

theorem reply_transfers (text : String) (message : TransferMessage) :
    (sendWithContext text (.data message.toDataFrame)).Within (fun _ => True) NodeCall.Transfers
      fun _ => True :=
  ⟨⟨message, rfl⟩, fun sent _ => (allCalls_orFail _ sent).within⟩

theorem handleTransferMessage_transfers (manifest : FileManifest) (receiver : FileReceiver)
    (message : TransferMessage) :
    (handleTransferMessage manifest receiver message).Within (fun _ => True) NodeCall.Transfers
      (·.isSome) := by
  cases message with
  | data chunk =>
      refine within_bind (within_request trivial) fun stored _ => ?_
      refine within_bind (allCalls_orFail _ stored).within fun _ _ => ?_
      exact within_bind (reply_transfers _ _) fun _ _ => rfl
  | finished fileId root =>
      simp only [handleTransferMessage]
      split
      · trivial
      · split
        · trivial
        · refine within_bind (within_request trivial) fun finalized _ => ?_
          refine within_bind (allCalls_orFail _ finalized).within fun _ _ => ?_
          exact within_bind (reply_transfers _ _) fun _ _ => rfl
  | _ => trivial

theorem transferRound_transfers (manifest : FileManifest) (receiver : FileReceiver) :
    (transferRound manifest receiver).Within (fun _ => True) NodeCall.Transfers (·.isSome) := by
  refine within_bind (within_request trivial) fun received _ => ?_
  refine within_bind (allCalls_orFail _ received).within fun frame _ => ?_
  rcases frame with _ | (_ | control | df)
  · trivial
  · trivial
  · cases control <;> trivial
  · refine within_bind (allCalls_orFail _ _).within fun message _ => ?_
    exact handleTransferMessage_transfers manifest receiver message

end Transfers

section Branches

variable {self : ActiveSession} {possible : NodeEvent → Prop} {P : NodeCall → Prop}

theorem attemptSession_within {α : Type} {R : α → Prop} {p : SessionProc α}
    (within : p.Within (fun event => possible ⟨.session event.call, event.answer⟩)
      (fun c => P (.session c)) R) :
    (attemptSession p).Within possible P fun outcome => ∀ a, outcome = .ok a → R a :=
  within_lift (within_attempt within) fun _ _ possibly => possibly

/-- What a session does once it has read its state. -/
theorem readState_within {α : Type} {R : α → Prop} {trusted untrusted : NodeProc α}
    (reads : P (.session .readState))
    (granted : possible ⟨.session .readState, SessionState.trusted⟩ → trusted.Within possible P R)
    (refused : untrusted.Within possible P R) :
    (Proc.ask (NodeCall.session .readState) fun state : SessionState =>
      if state.isTrusted then trusted else untrusted).Within possible P R := by
  refine ⟨reads, fun state possibly => ?_⟩
  by_cases same : state = SessionState.trusted
  · subst same
    exact granted possibly
  · have closed : SessionState.isTrusted state = false := SessionState.isTrusted_eq_false same
    simp only [closed, Bool.false_eq_true, if_false]
    exact refused

theorem handleOutbound_within {outbound : DataFrame} (reads : P (.session .readState))
    (sends : possible ⟨.session .readState, SessionState.trusted⟩ →
      P (.session (.send (.data outbound)))) :
    (handleOutbound outbound).Within possible P (·.isSome) :=
  readState_within reads (fun granted => ⟨sends granted, fun _ _ => rfl⟩) rfl

/-- None of them leaves the loop. -/
theorem handleFileTransfer_serves {trusted : Prop} (granted : trusted) (payload : Bytes) :
    (handleFileTransfer payload).Within possible (NodeCall.Serves trusted) (·.isSome) := by
  refine within_bind (allCalls_orFail _ _).within fun message _ => ?_
  cases message with
  | offer manifest =>
      refine within_bind (within_request granted) fun opened _ => ?_
      refine within_bind (allCalls_orFail _ opened).within fun receiver _ => ?_
      refine ⟨⟨granted, rfl⟩, fun sent _ => ?_⟩
      exact within_bind (allCalls_orFail (fun e => NodeError.context _ (.bridge e)) sent).within
        fun _ _ => rfl
  | _ => rfl

/-- A frame that starts no ceremony and is not the peer's goodbye. -/
theorem handleInbound_serves (possible : NodeEvent → Prop) {frame : Frame}
    (unpaired : ∀ df, frame = .data df → df.channel ≠ DataFrame.channelPairing)
    (stays : ∀ reason, frame ≠ .control (.disconnect reason)) :
    (handleInbound self frame).Within possible
      (NodeCall.Serves (possible ⟨.session .readState, SessionState.trusted⟩)) (·.isSome) := by
  rcases frame with _ | control | df
  · rfl
  · cases control with
    | ping nonce =>
        refine within_bind (within_request trivial) fun sent _ => ?_
        exact within_bind (allCalls_orFail _ sent).within fun _ _ => rfl
    | pong nonce => rfl
    | disconnect reason => exact absurd rfl (stays reason)
  · simp only [handleInbound, if_neg (unpaired df rfl)]
    split
    · exact readState_within trivial (fun granted => ⟨granted, fun _ _ => rfl⟩) rfl
    · split
      · exact readState_within trivial (fun granted => handleFileTransfer_serves granted df.payload) rfl
      · rfl

section Rounds

variable (possible P) (pairing : (executePairing self false).Within
  (fun event => possible ⟨.session event.call, event.answer⟩) (fun c => P (.session c))
  fun _ => P (.register self.remoteNodeId))
include pairing

theorem handleInbound_within
    (serves : ∀ c : NodeCall, c.Serves (possible ⟨.session .readState, SessionState.trusted⟩) → P c)
    (frame : Frame) : (handleInbound self frame).Within possible P fun _ => True := by
  by_cases goodbye : ∃ reason, frame = .control (.disconnect reason)
  · obtain ⟨reason, rfl⟩ := goodbye
    trivial
  by_cases paired : ∃ df, frame = .data df ∧ df.channel = DataFrame.channelPairing
  · obtain ⟨df, rfl, channel⟩ := paired
    simp only [handleInbound, if_pos channel]
    refine within_bind (attemptSession_within pairing) fun outcome registers => ?_
    cases outcome with
    | error e => trivial
    | ok sas => exact ⟨registers sas rfl, fun _ _ => trivial⟩
  have served : (handleInbound self frame).Within possible _ (·.isSome) :=
    handleInbound_serves possible (fun df same channel => paired ⟨df, same, channel⟩)
      fun reason same => goodbye ⟨reason, same⟩
  exact (served.mono serves).weaken fun _ _ => trivial

/-- A round asks routine questions and what a ceremony asks, and goes on with the same session. -/
theorem connectionRound_within
    (routine : ∀ c : NodeCall, c.Routine (possible ⟨.session .readState, SessionState.trusted⟩) → P c)
    (phase : Phase) : (connectionRound (self, phase)).Within possible P
      fun next => ∀ other phase, next = .inl (other, phase) → other = self := by
  have after : ∀ next, (afterRound self next).Within possible P
      fun next => ∀ other phase, next = .inl (other, phase) → other = self := by
    intro next
    cases next with
    | some phase =>
        rintro other _ ⟨⟩
        rfl
    | none =>
        refine ⟨routine (.unregister _) trivial, fun _ _ => ?_⟩
        rintro other phase ⟨⟩
  cases phase with
  | select =>
      rw [connectionRound_select]
      refine ⟨routine _ trivial, fun selected _ => ?_⟩
      have handled : (handleSelected self selected).Within possible P fun _ => True := by
        cases selected with
        | outbound frame =>
            have sent : (handleOutbound frame).Within possible P (·.isSome) :=
              handleOutbound_within (routine _ trivial) fun granted => routine _ (.inl granted)
            exact sent.weaken fun _ _ => trivial
        | inbound received =>
            refine within_bind (allCalls_orFail _ received).within fun frame _ => ?_
            cases frame with
            | none => trivial
            | some frame =>
                exact handleInbound_within possible P pairing (fun c serves => routine c serves.routine) frame
      exact within_bind handled fun next _ => after next
  | chunks manifest receiver =>
      have transfers := (transferRound_transfers manifest receiver).mono fun c asked => routine c asked.routine
      exact within_bind transfers.of_all fun next _ => after next

end Rounds

end Branches

end Calls

end BridgeOS.Node
