import BridgeOS.Node.Deadlock
import BridgeOS.Node.UploadRuns

/-! # A reported success is a real one

When the command returns `Ok`, the node has the file. And it does return: the two
programs left to themselves do what `attempt` does.
-/

namespace BridgeOS.Node

open BridgeOS.Session hiding recvFrame
open BridgeOS.Transfer BridgeOS.Transport BridgeOS.Cli Proc
open FileReceiver

section Uploads

variable [Crypto] {σ : Type}

/-- Frames are taken from the front and put at the end. -/
theorem SideStep.exchanged {machine : Machine σ} {gone : Prop} {task task' : Task} {p p' : Place σ}
    (step : SideStep machine gone (task, p) (task', p')) :
    ∃ taken sent, p.inbox = taken ++ p'.inbox ∧ p'.outbox = p.outbox ++ sent := by
  have arrived : ∀ {result inbox rest}, Arrives gone inbox result rest → ∃ taken, inbox = taken ++ rest := by
    intro result inbox rest arrives
    cases arrives with
    | frame => exact ⟨[_], rfl⟩
    | ended => exact ⟨[], rfl⟩
  cases step with
  | pong arrives pinged =>
      obtain ⟨taken, took⟩ := arrived arrives
      exact ⟨taken, _, took, rfl⟩
  | skip arrives skipped =>
      obtain ⟨taken, took⟩ := arrived arrives
      exact ⟨taken, [], took, (List.append_nil _).symm⟩
  | @answer c next answer _ _ carried =>
      by_cases waits : ∃ channel, c = .session (.recvData channel)
      · obtain ⟨channel, rfl⟩ := waits
        rcases carried with ⟨-, result, rest, arrives, -, rfl⟩ | ⟨elsewhere, -⟩
        · obtain ⟨taken, took⟩ := arrived arrives
          exact ⟨taken, [], took, (List.append_nil _).symm⟩
        · exact absurd trivial elsewhere
      · have moves := carried.moves fun channel same => waits ⟨channel, same⟩
        exact ⟨_, _, moves.taken, moves.sent⟩

namespace Upload

open Setup (initiator_runs node_runs)

variable (upload : Upload σ)

/-- Reached without a clipboard frame. -/
def Undisturbed (l : Link σ) : Prop :=
  ∃ history, upload.Run history l ∧ ∀ frame, .outbound frame ∉ history

variable {upload} {l l' : Link σ} {w w' : World σ}

theorem Undisturbed.step {what : Happening} (reach : upload.Undisturbed l) (step : upload.Step l what l')
    (quiet : ∀ frame, what ≠ .outbound frame) : upload.Undisturbed l' := by
  obtain ⟨history, run, silent⟩ := reach
  refine ⟨history ++ [what], run.step step, ?_⟩
  intro frame mem
  rcases List.mem_append.mp mem with old | new
  · exact silent frame old
  · exact quiet frame (List.mem_singleton.mp new).symm

/-- What every step but those of the queue keeps, the two programs keep. -/
theorem steps_keep {P : Link σ → Prop}
    (closed : ∀ {l what l'}, P l → upload.Step l what l' → (∀ frame, what ≠ .outbound frame) → P l')
    (reach : P l) (steps : upload.setup.Steps l l') : P l' := by
  induction steps with
  | refl => exact reach
  | tail _ step ih =>
      cases step with
      | initiator step => exact closed ih (.sender step) nofun
      | node step =>
          obtain ⟨taken, sent, takes, sends⟩ := step.exchanged
          exact closed ih (.node step takes sends) nofun

section Handshake

variable (upload)

/-- The command with its handshake behind it. -/
def offering : Task := do
  offerFile upload.setup.blake3 upload.data upload.manifest
  return .inr ()

theorem connect_greets (setup : Setup σ) :
    Runs (connectAndHandshake setup.initiator.localIdentity setup.initiator.localName)
      (setup.greets ++ (setup.proves ++ Setup.hearsVerdict)) (.ok setup.serverHello) := by
  have greeted : Runs (connectAndHandshake setup.initiator.localIdentity setup.initiator.localName) _ _ :=
    (runs_exchangeHellos_ok.mpr rfl).bind (q := .ok (.fill 32 0, setup.serverHello)) _
  refine greeted.append ?_
  simp only [ok_bind, signHandshakeChallenge, lift_request, ask_bind]
  exact .ask (.ask (.ask (.stop _)))

theorem runSendFile_offers : Runs (runSendFile upload.setup.blake3 upload.file
      upload.setup.initiator.localIdentity upload.setup.initiator.localName)
    (upload.setup.greets.map sessionEvent ++
      (upload.setup.proves.map sessionEvent ++ Setup.hearsVerdict.map sessionEvent))
    upload.offering := by
  have run := (runs_lift_session CliError.toNode (connect_greets upload.setup)).bind
    fun _ => upload.offering
  rwa [List.map_append, List.map_append] at run

/-- The node trusts the command's device, and no name makes a message too long for a
    frame. -/
structure Ready : Prop where
  hello : Sendable upload.setup.helloFrame
  answer : Sendable upload.setup.answerFrame
  offer : Sendable upload.offer
  knows : upload.setup.nodeWorld.store.isTrusted upload.setup.initiator.localIdentity.nodeId
    upload.setup.initiator.localIdentity.publicKey = .ok true

variable {upload}

/-- Both sides get through the handshake. -/
theorem exists_offering (ready : upload.Ready) :
    ∃ self w, upload.setup.Steps upload.start ⟨upload.offering, connectionRound (self, .select),
        upload.setup.initiatorWorld, w, [], []⟩ ∧
      w.state = .trusted ∧ w.disk = upload.setup.nodeWorld.disk := by
  obtain ⟨⟨_, hello⟩, ⟨_, answer⟩, -, knows⟩ := ready
  have heard : upload.setup.Steps upload.start _ :=
    Setup.handshake_steps upload.runSendFile_offers hello answer
  let self := serverSession upload.setup.node upload.setup.clientHello
    upload.setup.initiator.localIdentity.publicKey .trusted
  have consults : Runs upload.setup.nodeConsults _ (enterLoop self) :=
    (runs_onSession "Handshake failed"
      ((runs_consultTrustStore_ok.mpr (.inl ⟨0, .ok (), rfl, rfl⟩)).bind _)).bind enterLoop
  have enters : Runs (enterLoop self)
      [⟨.session (.setState .trusted), ()⟩, ⟨.register self.remoteNodeId, ()⟩]
      (.ok (.inl (self, .select))) := .ask (.ask (.stop _))
  exact ⟨self, _, heard.trans (node_runs (p := upload.setup.nodeConsults) (consults.append enters)
    ⟨_, carries_isTrusted knows, _, carries_host trivial, _, .inr ⟨id, _, rfl, rfl⟩,
      _, carries_setState _, _, .inr ⟨id, _, rfl, rfl⟩, rfl⟩), rfl, rfl⟩

end Handshake

omit [Crypto] in
theorem encodeFrame_goodbye : ∃ bytes, encodeFrame (.control (.disconnect .graceful)) = .ok bytes := ⟨_, rfl⟩

section Transfer

-- what a frame looks like on the wire plays no part from here on
attribute [local irreducible] encodeFrame

variable {self : ActiveSession} {r r' : FileReceiver} {s s' : FileSender} {disk : Disk PathBuf.Location}

omit [Crypto] in
theorem length_fileId_le (upload : Upload σ) : (utf8 upload.manifest.fileId).length ≤ 128 := by
  refine (Hex.length_utf8_encode_le _).trans ?_
  rw [List.length_take, FixedBytes.size]
  decide

omit [Crypto] in
/-- Frames of an upload that are short whatever the file is called. -/
theorem sendable_of_fileId (upload : Upload σ) {message : TransferMessage}
    (short : message.freight ≤ (utf8 upload.manifest.fileId).length + chunkSize) :
    Sendable (.data message.toDataFrame) := by
  have bound := upload.length_fileId_le
  have chunk : chunkSize = 2 ^ 16 := rfl
  exact sendable_of_freight (by omega)

def acceptFrame (upload : Upload σ) (r : FileReceiver) : Frame :=
  .data (TransferMessage.accept upload.manifest.fileId r.nextExpectedChunk).toDataFrame

def dataFrame (chunk : FileChunk) : Frame := .data (TransferMessage.data chunk).toDataFrame

def ackFrame (upload : Upload σ) (chunk : FileChunk) : Frame :=
  .data (TransferMessage.ack upload.manifest.fileId chunk.chunkIndex).toDataFrame

def finishedFrame (upload : Upload σ) : Frame :=
  .data (TransferMessage.finished upload.manifest.fileId upload.manifest.blake3RootHash).toDataFrame

def completeFrame (upload : Upload σ) : Frame :=
  .data (TransferMessage.complete upload.manifest.fileId).toDataFrame

/-- What the command does once all chunks are over. -/
def finishing (upload : Upload σ) : NodeProc Unit := do
  sendWithContext "Failed to send Finished signal" upload.finishedFrame
  awaitComplete upload.manifest
  let _ ← .request (NodeCall.session (.send (.control (.disconnect .graceful))))
  return ()

/-- The command with some of the chunks still to send. -/
def sending (upload : Upload σ) (rounds : Nat) (s : FileSender) : Task :=
  (sendChunks upload.setup.blake3 upload.manifest rounds s >>= fun _ => upload.finishing) >>=
    fun _ => return .inr ()

theorem runs_sendWithContext (text : String) (frame : Frame) :
    Runs (sendWithContext text frame) [⟨.session (.send frame), .ok ()⟩] (.ok ()) := .ask (.stop _)

theorem runs_recvMessage {receiving ended unexpected : String} {message : TransferMessage}
    (fits : Sendable (.data message.toDataFrame)) :
    Runs (recvMessage receiving ended unexpected)
      [⟨.session .recv, .ok (some (.data message.toDataFrame))⟩] (.ok message) := by
  rw [recvMessage, request_bind]
  refine .ask ?_
  rw [orFail_ok, ok_bind]
  dsimp only
  rw [fromDataFrame_of_sendable fits]
  exact .stop _

theorem runs_awaitAccept (fits : Sendable (upload.acceptFrame r)) :
    Runs (awaitAccept upload.manifest) [⟨.session .recv, .ok (some (upload.acceptFrame r))⟩]
      (.ok r.nextExpectedChunk) := by
  refine runs_bind_ok.mpr ⟨_, _, [], rfl, runs_recvMessage fits, ?_⟩
  dsimp only
  rw [if_neg (not_not.mpr rfl)]
  exact .stop _

theorem runs_awaitAck {chunk : FileChunk} (fits : Sendable (upload.ackFrame chunk)) :
    Runs (awaitAck upload.manifest chunk.chunkIndex)
      [⟨.session .recv, .ok (some (upload.ackFrame chunk))⟩] (.ok ()) := by
  refine runs_bind_ok.mpr ⟨_, _, [], rfl, runs_recvMessage fits, ?_⟩
  dsimp only
  rw [if_neg (by simp)]
  exact .stop _

theorem runs_awaitComplete (fits : Sendable upload.completeFrame) :
    Runs (awaitComplete upload.manifest) [⟨.session .recv, .ok (some upload.completeFrame)⟩] (.ok ()) := by
  refine runs_bind_ok.mpr ⟨_, _, [], rfl, runs_recvMessage fits, ?_⟩
  dsimp only
  rw [if_neg (not_not.mpr rfl)]
  exact .stop _

theorem offering_accepted
    (started : FileSender.fromFile upload.data upload.manifest r.nextExpectedChunk = .ok s)
    (fits : Sendable (upload.acceptFrame r)) :
    Runs upload.offering ([⟨.session (.send upload.offer), .ok ()⟩] ++
        [⟨.session .recv, .ok (some (upload.acceptFrame r))⟩])
      (upload.sending (upload.manifest.totalChunks.toNat + 1) s) := by
  have offered : Runs upload.offering _ _ := ((runs_sendWithContext _ _).bind _).bind _
  refine offered.append ?_
  have accepted := ((runs_awaitAccept fits).bind fun start => do
    let sender ← .orFail (fun e => NodeError.context "Failed to initialize FileSender" (.transfer e))
      (FileSender.fromFile upload.data upload.manifest start)
    sendChunks upload.setup.blake3 upload.manifest (upload.manifest.totalChunks.toNat + 1) sender
    upload.finishing).bind fun _ => (return .inr () : Task)
  rw [ok_bind, started] at accepted
  rw [ok_bind]
  exact accepted

/-- The round of a transfer that gets a message which can be read back. -/
theorem receiving_message {message : TransferMessage} {events : List NodeEvent} {m : FileManifest}
    {outcome : Task} (fits : Sendable (.data message.toDataFrame))
    (handled : Runs (handleTransferMessage m r message >>= afterRound self) events outcome) :
    Runs (connectionRound (self, .chunks m r))
      (⟨.session .recv, .ok (some (.data message.toDataFrame))⟩ :: events) outcome := by
  rw [connectionRound, transferRound, request_bind, ask_bind]
  refine .ask ?_
  rw [orFail_ok, ok_bind]
  dsimp only
  rw [fromDataFrame_of_sendable fits]
  exact handled

theorem handleSelected_message (self : ActiveSession) (message : TransferMessage) :
    handleSelected self (.inbound (.ok (some (.data message.toDataFrame)))) =
      .ask (.session .readState) fun state =>
        if state.isTrusted then handleFileTransfer message.toBytes else return some .select := rfl

/-- The node takes the offer and answers where it wants to start. -/
theorem select_accepts (fits : Sendable upload.offer) :
    Runs (connectionRound (self, .select))
      [⟨.select, .inbound (.ok (some upload.offer))⟩, ⟨.session .readState, .trusted⟩,
        ⟨.session (.openReceiver upload.manifest), .ok r⟩,
        ⟨.session (.send (upload.acceptFrame r)), .ok ()⟩]
      (.ok (.inl (self, .chunks upload.manifest r))) := by
  rw [connectionRound_select]
  refine .ask ?_
  rw [offer, handleSelected_message]
  refine .ask ?_
  have handled : Runs (handleFileTransfer (TransferMessage.offer upload.manifest).toBytes)
      [⟨.session (.openReceiver upload.manifest), .ok r⟩,
        ⟨.session (.send (upload.acceptFrame r)), .ok ()⟩]
      (.ok (some (.chunks upload.manifest r))) := by
    rw [handleFileTransfer, fromBytes_of_sendable fits]
    exact .ask (.ask (.stop _))
  exact handled.bind (afterRound self)

/-- A chunk goes over. -/
theorem sending_chunk {chunk : FileChunk} (rounds : Nat)
    (handed : s.nextChunk upload.setup.blake3 = (.ok (some chunk), s')) (fits : Sendable (upload.ackFrame chunk)) :
    Runs (upload.sending (rounds + 1) s) ([⟨.session (.send (dataFrame chunk)), .ok ()⟩] ++
        [⟨.session .recv, .ok (some (upload.ackFrame chunk))⟩])
      (upload.sending rounds s') := by
  have sent : Runs (sendChunk upload.manifest chunk) ([⟨.session (.send (dataFrame chunk)), .ok ()⟩] ++
      [⟨.session .recv, .ok (some (upload.ackFrame chunk))⟩]) (.ok ()) :=
    ((runs_sendWithContext _ _).bind _).append (runs_awaitAck fits)
  rw [sending, sendChunks, handed]
  exact ((sent.bind _).bind _).bind _

theorem receiving_chunk {chunk : FileChunk} (fits : Sendable (dataFrame chunk)) :
    Runs (connectionRound (self, .chunks upload.manifest r))
      [⟨.session .recv, .ok (some (dataFrame chunk))⟩, ⟨.receiveChunk r chunk, .ok r'⟩,
        ⟨.session (.send (upload.ackFrame chunk)), .ok ()⟩]
      (.ok (.inl (self, .chunks upload.manifest r'))) := by
  exact receiving_message fits (.ask (.ask (.stop _)))

theorem sending_finished {rounds : Nat} (handed : s.nextChunk upload.setup.blake3 = (.ok none, s')) :
    upload.sending (rounds + 1) s = upload.finishing >>= fun _ => return .inr () := by
  rw [sending, sendChunks, handed]
  rfl

theorem finishing_completed (upload : Upload σ) (fits : Sendable upload.completeFrame) :
    Runs (upload.finishing >>= fun _ => (return .inr () : Task))
      ([⟨.session (.send upload.finishedFrame), .ok ()⟩] ++
        [⟨.session .recv, .ok (some upload.completeFrame)⟩,
          ⟨.session (.send (.control (.disconnect .graceful))), .ok ()⟩])
      (.ok (.inr ())) := by
  have finished : Runs (upload.finishing >>= fun _ => (return .inr () : Task)) _ _ :=
    ((runs_sendWithContext _ _).bind _).bind _
  refine finished.append ?_
  rw [ok_bind]
  have completed := ((runs_awaitComplete fits).bind fun _ => do
    let _ ← .request (NodeCall.session (.send (.control (.disconnect .graceful))))
    return ()).bind fun _ => (return .inr () : Task)
  exact completed.append (.ask (.stop _))

theorem receiving_finished {path : PathBuf} (fits : Sendable upload.finishedFrame) :
    Runs (connectionRound (self, .chunks upload.manifest r))
      [⟨.session .recv, .ok (some upload.finishedFrame)⟩, ⟨.finalizeFile r, .ok path⟩,
        ⟨.session (.send upload.completeFrame), .ok ()⟩]
      (.ok (.inl (self, .select))) := by
  refine receiving_message fits ?_
  rw [handleTransferMessage, if_neg (not_not.mpr rfl), if_neg (not_not.mpr rfl)]
  exact .ask (.ask (.stop _))

/-- One chunk goes over and back. -/
theorem chunk_steps {chunk : FileChunk} {rounds : Nat}
    (handed : s.nextChunk upload.setup.blake3 = (.ok (some chunk), s'))
    (same : s.manifest = upload.manifest)
    (stored : r.receiveChunk upload.setup.blake3 w'.disk chunk = .ok (r', disk)) :
    upload.setup.Steps ⟨(upload.sending (rounds + 1) s).resume connectionRound,
        connectionRound (self, .chunks upload.manifest r), w, w', [], []⟩
      ⟨(upload.sending rounds s').resume connectionRound,
        connectionRound (self, .chunks upload.manifest r'), w, { w' with disk }, [], []⟩ := by
  obtain ⟨owned, small⟩ := nextChunk_bounded handed
  rw [same] at owned
  obtain ⟨_, dataSent⟩ : Sendable (dataFrame chunk) :=
    upload.sendable_of_fileId (by rw [← owned]; exact Nat.add_le_add_left small _)
  obtain ⟨_, ackSent⟩ : Sendable (upload.ackFrame chunk) :=
    upload.sendable_of_fileId (Nat.le_add_right _ _)
  have works : Works (upload.setup.machine upload.setup.node) w' ⟨.receiveChunk r chunk, .ok r'⟩
      { w' with disk } := by
    simp [Works, Setup.machine, stored]
  obtain ⟨m, sends, hears⟩ := (sending_chunk rounds handed ⟨_, ackSent⟩).split
  refine (initiator_runs sends ⟨_, carries_sent dataSent, rfl⟩).trans ?_
  refine (node_runs (p := connectionRound (self, .chunks upload.manifest r)) (receiving_chunk ⟨_, dataSent⟩)
    ⟨_, carries_recv rfl, _, .inr ⟨id, _, works, rfl⟩, _, carries_sent ackSent, rfl⟩).trans ?_
  exact initiator_runs hears ⟨_, carries_recv rfl, rfl⟩

/-- All chunks that are missing go over. -/
theorem chunks_steps {n : Nat}
    (delivered : deliver upload.setup.blake3 n s r w'.disk = (.ok (), s', r', disk))
    (same : s.manifest = upload.manifest)
    (enough : upload.manifest.totalChunks.toNat ≤ n + s.currentChunk.toNat) :
    upload.setup.Steps ⟨(upload.sending (n + 1) s).resume connectionRound,
        connectionRound (self, .chunks upload.manifest r), w, w', [], []⟩
      ⟨(upload.finishing >>= fun _ => (return .inr () : Task)).resume connectionRound,
        connectionRound (self, .chunks upload.manifest r'), w, { w' with disk }, [], []⟩ := by
  induction n generalizing s r w' with
  | zero =>
      have exhausted : s.nextChunk upload.setup.blake3 = (.ok none, s) := by
        have all : s.currentChunk ≥ s.manifest.totalChunks := by
          rw [ge_iff_le, UInt32.le_iff_toNat_le, same]
          omega
        rw [FileSender.nextChunk, if_pos all]
      rw [sending_finished exhausted]
      cases delivered
      exact .refl
  | succ n ih =>
      rw [deliver] at delivered
      cases handed : s.nextChunk upload.setup.blake3 with
      | mk result s₁ =>
          rw [handed] at delivered
          rcases result with e | _ | chunk
          · cases delivered
          · rw [sending_finished handed]
            cases delivered
            exact .refl
          · dsimp only at delivered
            cases stored : r.receiveChunk upload.setup.blake3 w'.disk chunk with
            | error failure =>
                rw [stored] at delivered
                cases delivered
            | ok result =>
                obtain ⟨r₁, disk₁⟩ := result
                rw [stored] at delivered
                obtain ⟨-, same', counted⟩ := nextChunk_advances handed
                exact (chunk_steps handed same stored).trans (ih delivered (same'.trans same) (by omega))

theorem works_openReceiver {machine : Machine σ} {dir : PathBuf} {manifest : FileManifest}
    (receiving : machine.receiveDir = some dir) (opened : toDir w.disk dir manifest = (r, disk)) :
    Works machine w ⟨.session (.openReceiver manifest), .ok r⟩ { w with disk } := by
  have receiver : r = (toDir w.disk dir manifest).1 := by rw [opened]
  have rest : ({ w with disk } : World σ) = { w with disk := (toDir w.disk dir manifest).2 } := by rw [opened]
  exact ⟨dir, receiving, receiver, rest⟩

/-- The offer is taken, and the command starts where the node wants it to. -/
theorem offered_steps (trusted : w'.state = .trusted) (fits : Sendable upload.offer)
    (opened : toDir w'.disk upload.dir upload.manifest = (r, disk))
    (started : FileSender.fromFile upload.data upload.manifest r.nextExpectedChunk = .ok s) :
    upload.setup.Steps ⟨upload.offering, connectionRound (self, .select), w, w', [], []⟩
      ⟨(upload.sending (upload.manifest.totalChunks.toNat + 1) s).resume connectionRound,
        connectionRound (self, .chunks upload.manifest r), w, { w' with disk }, [], []⟩ := by
  obtain ⟨_, offerSent⟩ := fits
  obtain ⟨_, acceptSent⟩ : Sendable (upload.acceptFrame r) :=
    upload.sendable_of_fileId (Nat.le_add_right _ _)
  have works : Works (upload.setup.machine upload.setup.node) _ ⟨.session (.openReceiver _), _⟩ _ :=
    works_openReceiver upload.receiving opened
  obtain ⟨m, offers, hears⟩ := (offering_accepted started ⟨_, acceptSent⟩).split
  refine (initiator_runs (p := upload.offering) offers ⟨_, carries_sent offerSent, rfl⟩).trans ?_
  refine (node_runs (p := connectionRound (self, .select)) (select_accepts ⟨_, offerSent⟩)
    ⟨_, carries_select rfl, _, .inr ⟨id, _, ⟨trusted.symm, rfl⟩, rfl⟩, _, .inr ⟨id, _, works, rfl⟩,
      _, carries_sent acceptSent, rfl⟩).trans ?_
  exact initiator_runs hears ⟨_, carries_recv rfl, rfl⟩

/-- The node finalizes the file, and the command returns. -/
theorem finished_steps {path : PathBuf}
    (finalized : r.finalizeFile upload.setup.blake3 w'.disk = .ok (path, disk)) :
    upload.setup.Steps ⟨(upload.finishing >>= fun _ => (return .inr () : Task)).resume connectionRound,
        connectionRound (self, .chunks upload.manifest r), w, w', [], []⟩
      ⟨.ok (.inr ()), connectionRound (self, .select), w, { w' with disk },
        [.control (.disconnect .graceful)], []⟩ := by
  obtain ⟨_, finishedSent⟩ : Sendable upload.finishedFrame :=
    upload.sendable_of_fileId (Nat.le_add_right _ _)
  obtain ⟨_, completeSent⟩ : Sendable upload.completeFrame :=
    upload.sendable_of_fileId (Nat.le_add_right _ _)
  have works : Works (upload.setup.machine upload.setup.node) w' ⟨.finalizeFile r, .ok path⟩
      { w' with disk } := by
    simp [Works, Setup.machine, finalized]
  obtain ⟨m, finishes, confirms⟩ := (upload.finishing_completed ⟨_, completeSent⟩).split
  obtain ⟨_, goodbyeSent⟩ := encodeFrame_goodbye
  refine (initiator_runs finishes ⟨_, carries_sent finishedSent, rfl⟩).trans ?_
  refine (node_runs (p := connectionRound (self, .chunks upload.manifest r))
    (receiving_finished ⟨_, finishedSent⟩)
    ⟨_, carries_recv rfl, _, .inr ⟨id, _, works, rfl⟩, _, carries_sent completeSent, rfl⟩).trans ?_
  exact initiator_runs confirms ⟨_, carries_recv rfl, _, carries_sent goodbyeSent, rfl⟩

/-- If `attempt` delivers the file, the command and the node do. -/
theorem delivers {path : PathBuf} (ready : upload.Ready)
    (delivered : attempt upload.setup.blake3 upload.dir upload.data upload.manifest
      upload.setup.nodeWorld.disk = (.ok path, disk)) :
    ∃ self w toNode, upload.Undisturbed ⟨.ok (.inr ()), connectionRound (self, .select),
      upload.setup.initiatorWorld, w, toNode, []⟩ ∧ w.state = .trusted := by
  obtain ⟨self, w, shaken, trusted, kept⟩ := exists_offering ready
  rw [← kept] at delivered
  obtain ⟨s, s', r', disk', started, finished, finalized⟩ := exists_of_attempt _ _ _ delivered
  have offered := shaken.trans (offered_steps trusted ready.offer rfl started)
  have sent := offered.trans
    (chunks_steps finished (FileSender.manifest_of_fromFile started) (Nat.le_add_right _ _))
  have confirmed := sent.trans (finished_steps finalized)
  exact ⟨self, _, _, steps_keep Undisturbed.step ⟨[], .start, by simp⟩ confirmed, trusted⟩

/-- With nothing left over, or something that agrees with the file, it is delivered. -/
theorem completes_of_agreeing (ready : upload.Ready) (few : chunkCount upload.data < 2 ^ 32)
    (agrees : keptBytes upload.manifest
      (partBytes upload.setup.nodeWorld.disk upload.dir upload.manifest) <+: upload.data) :
    ∃ self w toNode, upload.Undisturbed ⟨.ok (.inr ()), connectionRound (self, .select),
        upload.setup.initiatorWorld, w, toNode, []⟩ ∧ w.state = .trusted := by
  have whole : assembled upload.manifest upload.data
      (partBytes upload.setup.nodeWorld.disk upload.dir upload.manifest) = upload.data :=
    assembled_of_initial upload.setup.blake3 _ _ few agrees
  obtain ⟨disk, delivered, -⟩ := attempt_matching (m := upload.manifest) upload.setup.blake3 upload.dir
    upload.setup.nodeWorld.disk (honest_covered upload.setup.blake3 _ _ (fits_of_few few))
    (congrArg upload.setup.blake3 whole)
  exact delivers ready delivered

end Transfer

end Upload

end Uploads

section Example

attribute [local instance] transparentCrypto

/-- A hash that tells these three bytes from all others. -/
def exampleHash (bytes : Bytes) : FixedBytes 32 := if bytes = [1, 2, 3] then .fill 32 1 else .fill 32 0

/-- Two devices that know each other, three bytes and an empty disk. -/
def exampleUpload : Upload (Option Clipboard.ClipboardContent) where
  setup :=
    let laptop : IdentityKey := ⟨.fill 32 1⟩
    let world : World (Option Clipboard.ClipboardContent) :=
      ⟨.handshaking, ∅, ⟨⟨.fill 32 2⟩, .new 256, .default, none⟩, .empty⟩
    ⟨exampleHash, Clipboard.memoryBackend, ⟨laptop, "laptop", .linux, false, none⟩,
      ⟨⟨.fill 32 2⟩, "desktop", .linux, true, some ⟨"received".toList⟩⟩, world,
      { world with
        store := TrustStore.savePeer ∅
          ⟨laptop.nodeId, laptop.publicKey, "laptop", .linux, 0, 0, .trusted⟩ }⟩
  display := "note"
  fileName := some "note"
  data := [1, 2, 3]
  dir := ⟨"received".toList⟩
  receiving := rfl

theorem exampleUpload_ready : exampleUpload.Ready := by
  have short : (Frame.codec.encode exampleUpload.setup.answerFrame).length ≤ maxFrameLength := by
    decide +kernel
  let laptop : TrustedPeer := ⟨(⟨.fill 32 1⟩ : IdentityKey).nodeId, (⟨.fill 32 1⟩ : IdentityKey).publicKey,
    "laptop", .linux, 0, 0, .trusted⟩
  have known : laptop.trustState = .trusted := rfl
  exact ⟨⟨_, rfl⟩, exists_encodeFrame short, sendable_of_freight (by decide +kernel),
    TrustStore.isTrusted_savePeer_self ∅ known⟩

theorem exampleUpload_completes :
    ∃ self w toNode, exampleUpload.Undisturbed ⟨.ok (.inr ()), connectionRound (self, .select),
      exampleUpload.setup.initiatorWorld, w, toNode, []⟩ ∧ w.state = .trusted :=
  Upload.completes_of_agreeing exampleUpload_ready (by decide) List.nil_prefix

end Example

end BridgeOS.Node
