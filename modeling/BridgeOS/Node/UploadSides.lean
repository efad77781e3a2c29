import BridgeOS.Node.Upload
import BridgeOS.Session.Greeting

/-! # What the two sides of an upload promise

Each side's program keeps a contract whatever the other side sends it: the
command offers its file once and returns only behind a `Complete`, the node
sends a `Complete` only with the file in place. The node's contract allows for
what happens elsewhere in between.
-/

namespace BridgeOS.Node

open BridgeOS.Session hiding recvFrame
open BridgeOS.Transfer BridgeOS.Transport BridgeOS.Cli Proc
open FileReceiver

variable [Crypto] {σ : Type}

/-- The frame an event has taken off the stream. -/
def received? : NodeEvent → Option Frame
  | ⟨.session .recv, .ok (some frame)⟩ => some frame
  | ⟨.select, .inbound (.ok (some frame))⟩ => some frame
  | _ => none

/-- The frame an event has put on the stream. -/
def sent? : NodeEvent → Option Frame
  | ⟨.session (.send frame), .ok ()⟩ => some frame
  | _ => none

/-- A handshake frame, a control frame or one on the channel for files. -/
def OfUpload : Frame → Prop
  | .data df => df.channel = DataFrame.channelFileTransfer
  | _ => True

/-- How far the command has come: it has sent its offer, it has received a `Complete`. -/
structure Progress where
  offered : Bool
  confirmed : Bool

/-- A question of a handshake that takes no other frame moves no message. -/
theorem silent_of_greeting {clean : Bool} {c : Call} {answer : c.Answer} (may : greeting.may clean c)
    (takes : takesOther ⟨c, answer⟩ = false) :
    (sent? ⟨.session c, answer⟩).bind message? = none ∧
      (received? ⟨.session c, answer⟩).bind message? = none := by
  cases c with
  | send frame =>
      refine ⟨?_, rfl⟩
      rcases may with silent | ⟨impossible, -⟩
      · rcases frame with _ | _ | df
        · cases answer <;> rfl
        · cases answer <;> rfl
        · exact silent.elim
      · cases impossible
  | recv =>
      refine ⟨rfl, ?_⟩
      rcases answer with e | _ | (_ | _ | df)
      · rfl
      · rfl
      · rfl
      · cases takes
      · cases takes
  | _ => exact ⟨rfl, rfl⟩

def Progress.after (s : Progress) (event : NodeEvent) : Progress :=
  ⟨s.offered || (sent? event).any offers, s.confirmed || (received? event).any completes⟩

/-- How far the node has come: it has taken the offer, it has sent a `Complete`. -/
inductive Stage where
  | fresh
  | offered
  | closed
  deriving DecidableEq

def Stage.after (stage : Stage) (event : NodeEvent) : Stage :=
  if (received? event).any offers then .offered
  else if (sent? event).any completes then .closed
  else stage

namespace Upload

variable (upload : Upload σ)

/-- The command sends one offer and stops receiving at a `Complete`. -/
def senderContract : Contract NodeCall NodeCall.Answer Progress where
  may s
    | .session (.send frame) => OfUpload frame ∧
        (Sendable frame → offers frame = true → s.offered = false ∧ frame = upload.offer)
    | .session .recv => s.confirmed = false
    | .session (.recvData _) => False
    | .select => False
    | _ => True
  moves s event s' := s' = s.after event

def Confirmed (s : Progress) (result : (ActiveSession × Phase) ⊕ Unit) : Prop :=
  s.confirmed = true ∧ result = .inr ()

variable {upload}

section Sender

variable {s : Progress}

/-- The frames of an upload other than the offer. -/
theorem may_send {message : TransferMessage} (other : ∀ manifest, message ≠ .offer manifest) :
    upload.senderContract.may s (.session (.send (.data message.toDataFrame))) := by
  refine ⟨rfl, ?_⟩
  intro sendable offering
  rw [offers_eq_false sendable other] at offering
  cases offering

theorem may_of_silent {c : Call} (silent : c.Silent) : upload.senderContract.may s (.session c) := by
  cases c with
  | send frame =>
      rcases frame with _ | _ | df
      · exact ⟨trivial, fun _ offering => nomatch offering⟩
      · exact ⟨trivial, fun _ offering => nomatch offering⟩
      · exact silent.elim
  | recv => exact silent.elim
  | recvData channel => exact silent.elim
  | _ => trivial

theorem keeps_sendWithContext {frame : Frame} (text : String)
    (may : upload.senderContract.may s (.session (.send frame))) :
    (sendWithContext text frame).Keeps upload.senderContract
      (fun s' _ => s'.confirmed = s.confirmed) s := by
  refine ⟨may, ?_⟩
  rintro answer _ rfl
  refine keeps_orFail fun _ _ => ?_
  exact Bool.or_false _

/-- The answer the command waits for is a message; it has been confirmed if the
    message is a `Complete`. -/
theorem keeps_recvMessage (receiving ended unexpected : String) (waiting : s.confirmed = false) :
    (recvMessage receiving ended unexpected).Keeps upload.senderContract
      (fun s' message => s'.confirmed = true ↔ ∃ id, message = .complete id) s := by
  refine ⟨waiting, ?_⟩
  rintro answer _ rfl
  rcases answer with e | _ | (_ | _ | df)
  · trivial
  · trivial
  · trivial
  · trivial
  · refine keeps_orFail fun message decoded => ?_
    have read : message? (.data df) = some message := by rw [message?, decoded]
    simp only [Progress.after, received?, waiting, Bool.false_or, Option.any_some, completes, read]
    cases message <;> simp

theorem keeps_awaitAccept (manifest : FileManifest) (waiting : s.confirmed = false) :
    (awaitAccept manifest).Keeps upload.senderContract (fun s' _ => s'.confirmed = false) s := by
  refine keeps_bind (keeps_recvMessage _ _ _ waiting) fun s' message confirmed => ?_
  cases message with
  | accept fileId startChunk =>
      have unconfirmed : s'.confirmed = false := by simpa using confirmed
      dsimp only
      split
      · trivial
      · exact unconfirmed
  | _ => trivial

theorem keeps_awaitAck (manifest : FileManifest) (index : UInt32) (waiting : s.confirmed = false) :
    (awaitAck manifest index).Keeps upload.senderContract (fun s' _ => s'.confirmed = false) s := by
  refine keeps_bind (keeps_recvMessage _ _ _ waiting) fun s' message confirmed => ?_
  cases message with
  | ack fileId acked =>
      have unconfirmed : s'.confirmed = false := by simpa using confirmed
      dsimp only
      split
      · trivial
      · exact unconfirmed
  | _ => trivial

theorem keeps_awaitComplete (manifest : FileManifest) (waiting : s.confirmed = false) :
    (awaitComplete manifest).Keeps upload.senderContract (fun s' _ => s'.confirmed = true) s := by
  refine keeps_bind (keeps_recvMessage _ _ _ waiting) fun s' message confirmed => ?_
  cases message with
  | complete fileId =>
      have done := confirmed.mpr ⟨fileId, rfl⟩
      dsimp only
      split
      · trivial
      · exact done
  | _ => trivial

theorem keeps_sendChunks (blake3 : Bytes → FixedBytes 32) (manifest : FileManifest) (rounds : Nat)
    (sender : FileSender) (waiting : s.confirmed = false) :
    (sendChunks blake3 manifest rounds sender).Keeps upload.senderContract
      (fun s' _ => s'.confirmed = false) s := by
  induction rounds generalizing sender s with
  | zero => exact waiting
  | succ rounds ih =>
      rw [sendChunks]
      split
      · trivial
      · exact waiting
      · refine keeps_bind (keeps_bind (keeps_sendWithContext _ (may_send (by simp))) ?_)
          fun _ _ waiting => ih _ waiting
        intro s' _ same
        exact keeps_awaitAck _ _ (same.trans waiting)

theorem keeps_offerFile (unoffered : s.offered = false) (waiting : s.confirmed = false) :
    (offerFile upload.setup.blake3 upload.data upload.manifest).Keeps upload.senderContract
      (fun s' _ => s'.confirmed = true) s := by
  refine keeps_bind (keeps_sendWithContext _ ⟨rfl, fun _ _ => ⟨unoffered, rfl⟩⟩) fun s' _ same => ?_
  refine keeps_bind (keeps_awaitAccept _ (same.trans waiting)) fun s' start waiting => ?_
  refine keeps_bind (keeps_orFail (R := fun s _ => s.confirmed = false) fun _ _ => waiting)
    fun s' sender waiting => ?_
  refine keeps_bind (keeps_sendChunks _ _ _ _ waiting) fun s' _ waiting => ?_
  refine keeps_bind (keeps_sendWithContext _ (may_send (by simp))) fun s' _ same => ?_
  refine keeps_bind (keeps_awaitComplete _ (same.trans waiting)) fun s' _ confirmed => ?_
  refine ⟨⟨trivial, fun _ offering => ?_⟩, ?_⟩
  · cases offering
  · rintro answer _ rfl
    exact (Bool.or_false _).trans confirmed

/-- The command returns only when it is confirmed. -/
theorem keeps_runSendFile (clientKey : IdentityKey) (deviceName : String) :
    (runSendFile upload.setup.blake3 upload.file clientKey deviceName).Keeps upload.senderContract
      Confirmed ⟨false, false⟩ := by
  have connects : (connect clientKey deviceName).Keeps upload.senderContract
      (fun s _ => s = ⟨false, false⟩) ⟨false, false⟩ := by
    refine (connectAndHandshake_keeps clientKey deviceName).lift
      (fun clean s => clean = true → s = ⟨false, false⟩) ?_ ?_ ?_ fun _ => rfl
    · rintro clean s c related (silent | ⟨rfl, opened⟩)
      · exact may_of_silent silent
      · rw [related opened]
        rfl
    · rintro clean s c answer _ related may rfl
      refine ⟨_, rfl, fun still => ?_⟩
      rw [Bool.and_eq_true, Bool.not_eq_true'] at still
      obtain ⟨sent, received⟩ := silent_of_greeting may still.2
      simp [Progress.after, related still.1, any_eq_false sent, any_eq_false received]
    · intro clean s hello related same
      exact related same
  refine keeps_bind connects fun s _ same => ?_
  subst same
  refine keeps_bind (keeps_offerFile rfl rfl) fun s _ confirmed => ?_
  exact ⟨confirmed, rfl⟩

end Sender

section Node

variable (upload)

/-- What the node watches over: its world, and how far the transfer is. -/
structure Watch (σ : Type) where
  world : World σ
  stage : Stage

/-- What can happen at the node: it takes frames of this upload only, and the offer
    once. -/
structure Admits (stage : Stage) (event : NodeEvent) : Prop where
  channel : ∀ frame, received? event = some frame → OfUpload frame
  offer : ∀ frame, received? event = some frame → offers frame = true →
    stage = .fresh ∧ message? frame = some (.offer upload.manifest)
  queued : ∀ frame, event = ⟨.select, .outbound frame⟩ → frame.channel = DataFrame.channelClipboard
  sent : ∀ frame, sent? event = some frame → Sendable frame

/-- The node opens and writes the file of the offer only, sends a `Complete` with the
    file in place, and no clipboard frame in between. -/
def nodeContract : Contract NodeCall NodeCall.Answer (Watch σ) where
  may s
    | .session (.send frame) =>
        (Sendable frame → completes frame = true → s.stage = .offered ∧ upload.Done s.world.disk) ∧
          (onClipboard frame = true → s.stage ≠ .offered)
    | .session (.recvData _) => False
    | .session (.openReceiver manifest) => s.stage = .offered ∧ manifest = upload.manifest
    | .receiveChunk receiver _ => s.stage = .offered ∧ upload.Open s.world.disk receiver
    | .finalizeFile receiver => s.stage = .offered ∧ upload.Open s.world.disk receiver
    | _ => True
  moves s event s' := upload.Admits s.stage event ∧ s'.stage = s.stage.after event ∧
    ∃ between, upload.Elsewhere s.world between ∧
      Works (upload.setup.machine upload.setup.node) between event s'.world

/-- Where the loop may be: with the offer taken it waits for chunks, unless the
    session is not trusted. -/
def Fits (s : Watch σ) : Phase → Prop
  | .select => s.stage = .offered → s.world.state ≠ .trusted
  | .chunks manifest receiver =>
      s.stage = .offered ∧ manifest = upload.manifest ∧ upload.Open s.world.disk receiver

def FitsNext (s : Watch σ) (next : Option Phase) : Prop := ∀ phase, next = some phase → upload.Fits s phase

def FitsTask (s : Watch σ) : (ActiveSession × Phase) ⊕ Unit → Prop
  | .inl (_, phase) => upload.Fits s phase
  | .inr _ => True

variable {upload} {s : Watch σ} {w : World σ} {self : ActiveSession}

omit [Crypto] in
theorem Elsewhere.fits {phase : Phase} (others : upload.Elsewhere s.world w) (fits : upload.Fits s phase) :
    upload.Fits ⟨w, s.stage⟩ phase := by
  cases phase with
  | select =>
      intro offered
      rw [others.state]
      exact fits offered
  | chunks manifest receiver =>
      obtain ⟨offered, same, opened⟩ := fits
      exact ⟨offered, same, others.opened opened⟩

theorem Stage.after_sent (stage : Stage) (frame : Frame) :
    stage.after ⟨.session (.send frame), .ok ()⟩ = if completes frame then .closed else stage := rfl

theorem node_may_of_silent {c : Call} (silent : c.Silent) : upload.nodeContract.may s (.session c) := by
  cases c with
  | send frame =>
      rcases frame with _ | _ | df
      · exact ⟨fun _ completing => (nomatch completing), fun clipboard => (nomatch clipboard)⟩
      · exact ⟨fun _ completing => (nomatch completing), fun clipboard => (nomatch clipboard)⟩
      · exact silent.elim
  | openReceiver manifest => exact silent.elim
  | recvData channel => exact silent.elim
  | _ => trivial

theorem keeps_reply {frame : Frame} (text : String)
    (may : upload.nodeContract.may s (.session (.send frame))) :
    (sendWithContext text frame).Keeps upload.nodeContract
      (fun s' _ => Sendable frame ∧ s'.stage = (if completes frame then .closed else s.stage) ∧
        upload.Elsewhere s.world s'.world) s := by
  refine ⟨may, ?_⟩
  rintro answer ⟨w', stage'⟩ ⟨admits, rfl, between, others, works⟩
  cases works
  refine keeps_orFail fun _ sent => ?_
  subst sent
  exact ⟨admits.sent frame rfl, rfl, others⟩

/-- The node's answers other than `Complete`. -/
theorem keeps_message {message : TransferMessage} (text : String)
    (other : ∀ id, message ≠ .complete id) :
    (sendWithContext text (.data message.toDataFrame)).Keeps upload.nodeContract
      (fun s' _ => s'.stage = s.stage ∧ upload.Elsewhere s.world s'.world) s := by
  refine (keeps_reply text ⟨?_, fun clipboard => (Bool.noConfusion clipboard)⟩).weaken ?_
  · intro sendable completing
    rw [completes_eq_false sendable other] at completing
    cases completing
  · rintro s' _ ⟨sendable, stage, others⟩
    rw [completes_eq_false sendable other] at stage
    exact ⟨stage, others⟩

theorem keeps_readState {α : Type} {R : Watch σ → α → Prop} {next : SessionState → NodeProc α}
    (rest : ∀ w, upload.Elsewhere s.world w → (next w.state).Keeps upload.nodeContract R ⟨w, s.stage⟩) :
    (Proc.request (NodeCall.session .readState) >>= next).Keeps upload.nodeContract R s := by
  refine keeps_request trivial ?_
  rintro answer ⟨w', stage'⟩ ⟨-, rfl, between, others, rfl, same⟩
  obtain rfl : w' = between := same
  exact rest w' others

theorem keeps_handleFileTransfer {payload : Bytes}
    (offer : ∀ manifest, TransferMessage.fromBytes payload = .ok (.offer manifest) →
      manifest = upload.manifest ∧ s.stage = .offered)
    (fits : (∀ manifest, TransferMessage.fromBytes payload ≠ .ok (.offer manifest)) →
      upload.Fits s .select) :
    (handleFileTransfer payload).Keeps upload.nodeContract upload.FitsNext s := by
  unfold handleFileTransfer
  cases decoded : TransferMessage.fromBytes payload with
  | error e => trivial
  | ok message =>
      rw [orFail_ok, ok_bind]
      cases message with
      | offer manifest =>
          obtain ⟨rfl, offered⟩ := offer manifest decoded
          refine keeps_request ⟨offered, rfl⟩ ?_
          rintro opened ⟨w', stage'⟩ ⟨-, rfl, between, others, works⟩
          cases opened with
          | error e => trivial
          | ok receiver =>
              obtain ⟨dir, receiving, rfl, rfl⟩ := works
              cases upload.receiving.symm.trans receiving
              rw [orFail_ok, ok_bind]
              refine keeps_bind (keeps_message _ (by simp)) ?_
              rintro s' _ ⟨stage, others⟩ phase next
              cases next
              exact ⟨stage.trans offered, rfl, others.opened (open_toDir _)⟩
      | _ =>
          intro phase next
          cases next
          refine fits fun manifest same => ?_
          rw [decoded] at same
          cases same

theorem handleInbound_of_files {df : DataFrame} (files : df.channel = DataFrame.channelFileTransfer) :
    handleInbound self (.data df) = (do
      let state ← .request (NodeCall.session .readState)
      if state.isTrusted then handleFileTransfer df.payload else return some .select) := by
  have notPairing : df.channel ≠ DataFrame.channelPairing := by
    rw [files]
    decide
  have notClipboard : df.channel ≠ DataFrame.channelClipboard := by
    rw [files]
    decide
  rw [handleInbound, if_neg notPairing, if_neg notClipboard, if_pos files]

theorem keeps_handleInbound {frame : Frame} (channel : OfUpload frame)
    (offer : offers frame = true → s.stage = .offered ∧ message? frame = some (.offer upload.manifest))
    (fits : offers frame = false → upload.Fits s .select) :
    (handleInbound self frame).Keeps upload.nodeContract upload.FitsNext s := by
  rcases frame with _ | control | df
  · intro phase next
    cases next
    exact fits rfl
  · cases control with
    | ping nonce =>
        refine keeps_request
          ⟨fun _ completing => (nomatch completing), fun clipboard => (nomatch clipboard)⟩ ?_
        rintro answer ⟨w', stage'⟩ ⟨-, rfl, between, others, works⟩
        cases works
        cases answer with
        | error e => trivial
        | ok =>
            intro phase next
            cases next
            exact others.fits (fits rfl)
    | pong nonce =>
        intro phase next
        cases next
        exact fits rfl
    | disconnect reason => exact fun phase next => nomatch next
  · have files : df.channel = DataFrame.channelFileTransfer := channel
    have read : message? (.data df) = (TransferMessage.fromBytes df.payload).toOption := by
      rw [message?, TransferMessage.fromDataFrame, if_neg (not_not.mpr files)]
      cases TransferMessage.fromBytes df.payload <;> rfl
    rw [handleInbound_of_files files]
    refine keeps_readState fun w others => ?_
    by_cases trusted : w.state.isTrusted = true
    · rw [if_pos trusted]
      refine keeps_handleFileTransfer ?_ ?_
      · intro manifest decoded
        rw [decoded] at read
        obtain ⟨offered, message⟩ := offer (by rw [offers, read]; rfl)
        cases read.symm.trans message
        exact ⟨rfl, offered⟩
      · intro other
        refine others.fits (fits ?_)
        rw [offers, read]
        cases decoded : TransferMessage.fromBytes df.payload with
        | error e => rfl
        | ok message =>
            cases message with
            | offer manifest => exact absurd decoded (other manifest)
            | _ => rfl
    · rw [if_neg trusted]
      intro phase next
      cases next
      intro _ same
      exact trusted (SessionState.isTrusted_iff.mpr same)

theorem keeps_handleOutbound {frame : DataFrame} (channel : frame.channel = DataFrame.channelClipboard)
    (fits : upload.Fits s .select) :
    (handleOutbound frame).Keeps upload.nodeContract upload.FitsNext s := by
  refine keeps_readState fun w others => ?_
  have fits' := others.fits fits
  by_cases trusted : w.state.isTrusted = true
  · rw [if_pos trusted]
    have silent : message? (.data frame) = none := message?_of_channel (by rw [channel]; decide)
    have incomplete : completes (.data frame) = false := by rw [completes, silent]
    refine keeps_request
      ⟨?_, fun _ offered => fits' offered (SessionState.isTrusted_iff.mp trusted)⟩ ?_
    · intro _ completing
      rw [incomplete] at completing
      cases completing
    · rintro answer ⟨w', stage'⟩ ⟨-, rfl, between, others, works⟩
      cases works
      intro phase next
      cases next
      have stays : s.stage.after ⟨.session (.send (.data frame)), answer⟩ = s.stage := by
        cases answer with
        | error e => rfl
        | ok => rw [Stage.after_sent, incomplete, if_neg Bool.false_ne_true]
      intro offered
      refine others.fits fits' ?_
      exact stays.symm.trans offered
  · rw [if_neg trusted]
    intro phase next
    cases next
    exact fits'

theorem keeps_handleTransferMessage {manifest : FileManifest} {receiver : FileReceiver}
    (fits : upload.Fits s (.chunks manifest receiver)) (message : TransferMessage) :
    (handleTransferMessage manifest receiver message).Keeps upload.nodeContract upload.FitsNext s := by
  obtain ⟨offered, rfl, opened⟩ := fits
  cases message with
  | data chunk =>
      refine keeps_request ⟨offered, opened⟩ ?_
      rintro answer ⟨w', stage'⟩ ⟨-, rfl, between, others, works⟩
      cases answer with
      | error e => trivial
      | ok receiver' =>
          have opened' : upload.Open w'.disk receiver' := by
            simp only [Works] at works
            split at works
            · rename_i stored
              obtain ⟨same, rfl⟩ := works
              cases same
              exact (others.opened opened).receiveChunk stored
            · cases works.1
            · exact works.elim
          rw [orFail_ok, ok_bind]
          refine keeps_bind (keeps_message _ (by simp)) ?_
          rintro s' _ ⟨stage, others⟩ phase next
          cases next
          exact ⟨stage.trans offered, rfl, others.opened opened'⟩
  | finished fileId root =>
      rw [handleTransferMessage]
      split
      · trivial
      · split
        · trivial
        · refine keeps_request ⟨offered, opened⟩ ?_
          rintro answer ⟨w', stage'⟩ ⟨-, rfl, between, others, works⟩
          cases answer with
          | error e => trivial
          | ok path =>
              have done : upload.Done w'.disk := by
                simp only [Works] at works
                split at works
                · rename_i finalized
                  obtain ⟨-, rfl⟩ := works
                  exact (others.opened opened).finalizeFile finalized
                · cases works.1
              rw [orFail_ok, ok_bind]
              refine keeps_bind (keeps_reply _ ⟨fun _ _ => ⟨offered, done⟩,
                fun clipboard => (Bool.noConfusion clipboard)⟩) ?_
              rintro s' _ ⟨sendable, stage, others⟩ phase next
              cases next
              rw [completes, message?_of_sendable sendable] at stage
              intro impossible
              cases impossible.symm.trans stage
  | _ => trivial

theorem keeps_transferRound {manifest : FileManifest} {receiver : FileReceiver}
    (fits : upload.Fits s (.chunks manifest receiver)) :
    (transferRound manifest receiver).Keeps upload.nodeContract upload.FitsNext s := by
  refine keeps_request trivial ?_
  rintro answer ⟨w', stage'⟩ ⟨-, rfl, between, others, works⟩
  cases works
  obtain ⟨offered, same, opened⟩ := others.fits fits
  rcases answer with e | _ | (_ | control | df)
  · trivial
  · trivial
  · trivial
  · cases control <;> trivial
  · rw [orFail_ok, ok_bind]
    refine keeps_bind (keeps_orFail (R := fun s' _ => s' = _) fun _ _ => rfl) ?_
    rintro s' message rfl
    have stays : s.stage.after ⟨.session .recv, .ok (some (.data df))⟩ = .offered := by
      rw [Stage.after]
      split
      · rfl
      · exact offered
    have fits' : upload.Fits ⟨w', s.stage.after ⟨.session .recv, .ok (some (.data df))⟩⟩
      (.chunks manifest receiver) := ⟨stays, same, opened⟩
    exact keeps_handleTransferMessage fits' message

theorem keeps_afterRound {next : Option Phase} (fits : upload.FitsNext s next) :
    (afterRound self next).Keeps upload.nodeContract upload.FitsTask s := by
  cases next with
  | some phase => exact fits phase rfl
  | none => exact ⟨trivial, fun _ _ _ => trivial⟩

theorem keeps_connectionRound {phase : Phase} (fits : upload.Fits s phase) :
    (connectionRound (self, phase)).Keeps upload.nodeContract upload.FitsTask s := by
  cases phase with
  | chunks manifest receiver =>
      exact keeps_bind (keeps_transferRound fits) fun _ _ => keeps_afterRound
  | select =>
      refine keeps_request trivial ?_
      rintro answer ⟨w', stage'⟩ ⟨admits, rfl, between, others, works⟩
      cases works
      refine keeps_bind ?_ fun _ _ => keeps_afterRound
      rcases answer with (e | _ | frame) | frame
      · trivial
      · exact fun phase next => nomatch next
      · have after : s.stage.after ⟨.select, .inbound (.ok (some frame))⟩ =
            if offers frame then .offered else s.stage := rfl
        refine keeps_handleInbound (admits.channel frame rfl) ?_ ?_
        · intro offering
          refine ⟨?_, (admits.offer frame rfl offering).2⟩
          rw [after, if_pos offering]
        · intro other
          rw [after, other, if_neg Bool.false_ne_true]
          exact others.fits fits
      · exact keeps_handleOutbound (admits.queued frame rfl) (others.fits fits)

theorem keeps_enterLoop (fresh : s.stage = .fresh) :
    (enterLoop self).Keeps upload.nodeContract upload.FitsTask s := by
  refine keeps_request trivial ?_
  rintro _ ⟨w', stage'⟩ ⟨-, rfl, -⟩
  have fits : ∀ w, upload.Fits ⟨w, s.stage⟩ .select := by
    intro w offered
    cases fresh.symm.trans offered
  by_cases trusted : self.state.isTrusted = true
  · rw [if_pos trusted]
    refine keeps_request trivial ?_
    rintro _ ⟨w'', stage''⟩ ⟨-, rfl, -⟩
    exact fits w''
  · rw [if_neg trusted]
    exact fits w'

/-- The node keeps its side of an upload. -/
theorem keeps_handleConnection (fresh : s.stage = .fresh) :
    (handleConnection upload.setup.node).Keeps upload.nodeContract upload.FitsTask s := by
  have greets : (onSession "Handshake failed" (serverHandshake upload.setup.node)).Keeps
      upload.nodeContract (fun s _ => s.stage = .fresh) s := by
    refine (serverHandshake_keeps upload.setup.node).lift
      (fun clean s => clean = true → s.stage = .fresh) ?_ ?_ ?_ fun _ => fresh
    · rintro clean s c related (silent | ⟨rfl, opened⟩)
      · exact node_may_of_silent silent
      · trivial
    · rintro clean s c answer ⟨w', stage'⟩ related may ⟨-, rfl, -⟩
      refine ⟨_, rfl, fun still => ?_⟩
      rw [Bool.and_eq_true, Bool.not_eq_true'] at still
      obtain ⟨sent, received⟩ := silent_of_greeting may still.2
      simp [Stage.after, related still.1, any_eq_false sent, any_eq_false received]
    · intro clean s session related same
      exact related same
  exact keeps_bind greets fun s session => keeps_enterLoop

end Node

end Upload

end BridgeOS.Node
