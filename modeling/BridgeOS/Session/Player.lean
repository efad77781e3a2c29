import BridgeOS.Lib.Dialogue
import BridgeOS.Session.World
import BridgeOS.Transport.Framed

/-! # One side of a pairing

A session that calls `execute_pairing`, at a desk that answers its questions:
frames arrive in order, random numbers and times are drawn from tapes, and the
user has made up their mind. So a side is deterministic, and its run falls into
parts between which it waits for the other side.
-/

namespace BridgeOS.Session

open BridgeOS.Transfer BridgeOS.Transport Proc

/-- The message can be sent. -/
def PairingMessage.Fits (message : PairingMessage) : Prop :=
  (Frame.codec.encode (.data message.toDataFrame)).length ≤ maxFrameLength

/-- A message that fits into a frame is read as it was written. -/
theorem PairingMessage.Fits.fromDataFrame {message : PairingMessage} (fits : message.Fits) :
    PairingMessage.fromDataFrame message.toDataFrame = .ok message := by
  have payload := (length_encode_data message.toDataFrame).1.trans fits
  exact PairingMessage.fromDataFrame_toDataFrame (lt_of_le_of_lt payload (by decide))

variable [Crypto] {σ : Type}

/-- A session on its machine, with what its user will answer and what the machine's
    random numbers and clock will read. -/
structure Player (σ : Type) where
  self : ActiveSession
  blake3 : Bytes → FixedBytes 32
  backend : Clipboard.ClipboardBackend σ
  user : Bool
  random : Nat → FixedBytes 32
  clock : Nat → UInt64

/-- What a player has in front of it: its world, the frames that have arrived, and how
    far the tapes have been read. -/
structure Seat (σ : Type) where
  world : World σ
  inbox : List Frame
  drawn : Nat
  ticks : Nat

namespace Player

variable (player : Player σ)

def machine : Machine σ :=
  ⟨player.blake3, player.backend, player.self.localIdentity, player.self.receiveDir⟩

/-- One round of `recv_data_frame` on the next frame. -/
def takeData (channel : UInt16) (seat : Seat σ) :
    Option (Reply (Seat σ) Frame (Except SessionError DataFrame)) :=
  match seat.inbox with
  | [] => none
  | frame :: inbox =>
      match recvDataRound channel (.ok (some frame)) with
      | .ends result => some (.answer result { seat with inbox } [])
      | .pong nonce => some (.again { seat with inbox } [.control (.pong nonce)])
      | .skip => some (.again { seat with inbox } [])

/-- How the trust store, the disk, the tapes and the user answer, none of which fails. What
    an answer comes to, and what the stream does, is left open. -/
def respond {F : Type → Type} (answer : {α : Type} → α → Seat σ → F α)
    (send : Frame → F (Except BridgeError Unit)) (recv : F (Except BridgeError (Option Frame)))
    (recvData : UInt16 → F (Except SessionError DataFrame))
    (noDirectory : F (Except TransferError FileReceiver)) (seat : Seat σ) : (c : Call) → F c.Answer
  | .host (.sign text) => answer (player.self.localIdentity.sign (Crypto.sha256 text).bytes) seat
  | .host (.verify key text signature) => answer (key.verify (Crypto.sha256 text).bytes signature) seat
  | .host .random => answer (player.random seat.drawn) { seat with drawn := seat.drawn + 1 }
  | .host .now => answer (player.clock seat.ticks) { seat with ticks := seat.ticks + 1 }
  | .send frame => send frame
  | .recv => recv
  | .recvData channel => recvData channel
  | .isTrusted nodeId key => answer (seat.world.store.isTrusted nodeId key) seat
  | .updateLastSeen nodeId timestamp =>
      answer (.ok ()) { seat with world :=
        { seat.world with store := seat.world.store.updateLastSeen nodeId timestamp } }
  | .savePeer peer =>
      answer (.ok ()) { seat with world := { seat.world with store := seat.world.store.savePeer peer } }
  | .confirm _ _ => answer player.user seat
  | .setState state => answer () { seat with world := { seat.world with state } }
  | .readState => answer seat.world.state seat
  | .clipboardFrame frame =>
      let outcome := seat.world.engine.handleIncomingFrame player.blake3 player.backend frame
      answer outcome.result { seat with world := { seat.world with engine := outcome.engine } }
  | .openReceiver manifest =>
      match player.self.receiveDir with
      | none => noDirectory
      | some dir =>
          let opened := FileReceiver.toDir seat.world.disk dir manifest
          answer (.ok opened.1) { seat with world := { seat.world with disk := opened.2 } }

/-- The stream does not fail; a frame that is too large is not sent. -/
def reply (seat : Seat σ) : (c : Call) → Option (Reply (Seat σ) Frame c.Answer) :=
  player.respond (fun answer seat => some (.answer answer seat []))
    (fun frame => match encodeFrame frame with
      | .ok _ => some (.answer (.ok ()) seat [frame])
      | .error e => some (.answer (.error e) seat []))
    (match seat.inbox with
      | [] => none
      | frame :: inbox => some (.answer (.ok (some frame)) { seat with inbox } []))
    (fun channel => takeData channel seat) none seat

end Player

def Seat.deliver (seat : Seat σ) (more : List Frame) : Seat σ := { seat with inbox := seat.inbox ++ more }

namespace Player

variable {player : Player σ} {seat seat' : Seat σ}

/-- The replies are among those the world allows. -/
theorem handles_of_reply {c : Call} {answer : c.Answer} {sent : List Frame}
    (replied : player.reply seat c = some (.answer answer seat' sent)) :
    player.machine.Handles seat.world ⟨c, answer⟩ seat'.world := by
  cases c with
  | host c => cases c <;> cases replied <;> exact ⟨by trivial, rfl⟩
  | send frame =>
      simp only [reply, respond] at replied
      split at replied
      · cases replied
        rfl
      · cases replied
        rfl
  | recv =>
      cases arrived : seat.inbox with
      | nil => simp [reply, respond, arrived] at replied
      | cons frame inbox =>
          simp only [reply, respond, arrived] at replied
          cases replied
          rfl
  | recvData channel =>
      cases arrived : seat.inbox with
      | nil => simp [reply, respond, takeData, arrived] at replied
      | cons frame inbox =>
          simp only [reply, respond, takeData, arrived] at replied
          split at replied
          · cases replied
            rfl
          · cases replied
          · cases replied
  | isTrusted nodeId key =>
      cases replied
      exact ⟨.inl rfl, rfl⟩
  | readState =>
      cases replied
      exact ⟨rfl, rfl⟩
  | clipboardFrame frame =>
      cases replied
      exact ⟨rfl, rfl⟩
  | openReceiver manifest =>
      cases dir : player.self.receiveDir with
      | none => simp [reply, respond, dir] at replied
      | some path =>
          simp only [reply, respond, dir] at replied
          cases replied
          exact ⟨path, dir, rfl, rfl⟩
  | _ =>
      cases replied
      rfl

/-- Only receiving looks at what has arrived, and only at the first of it. -/
theorem reply_deliver {c : Call} {found : Reply (Seat σ) Frame c.Answer} (more : List Frame)
    (replied : player.reply seat c = some found) :
    player.reply (seat.deliver more) c = some (found.onDesk fun seat => seat.deliver more) := by
  cases c with
  | host c => cases c <;> cases replied <;> rfl
  | send frame =>
      simp only [reply, respond] at replied ⊢
      split at replied
      · cases replied
        rfl
      · cases replied
        rfl
  | recv =>
      cases arrived : seat.inbox with
      | nil => simp [reply, respond, arrived] at replied
      | cons frame inbox =>
          simp only [reply, respond, arrived] at replied
          cases replied
          simp [reply, respond, Seat.deliver, arrived, Reply.onDesk]
  | recvData channel =>
      cases arrived : seat.inbox with
      | nil => simp [reply, respond, takeData, arrived] at replied
      | cons frame inbox =>
          simp only [reply, respond, takeData, arrived, Seat.deliver, List.cons_append] at replied ⊢
          split at replied
          · cases replied
            rfl
          · cases replied
            rfl
          · cases replied
            rfl
  | openReceiver manifest =>
      simp only [reply, respond] at replied ⊢
      split at replied
      · cases replied
      · cases replied
        rfl
  | _ =>
      cases replied
      rfl

def desk (player : Player σ) : Desk Call Call.Answer (Seat σ) Frame where
  reply := player.reply
  deliver := Seat.deliver
  deliver_append seat a b := by simp [Seat.deliver]
  deliver_nil seat := by simp [Seat.deliver]
  reply_deliver more replied := reply_deliver more replied

/-- What a side presents; request and response have the same fields. -/
def request (player : Player σ) : PairingRequest :=
  ⟨player.self.localIdentity.nodeId, player.self.localIdentity.publicKey.bytes, player.self.localName,
    player.self.localDeviceType, player.random 0, player.clock 0⟩

def response (player : Player σ) : PairingResponse :=
  ⟨player.self.localIdentity.nodeId, player.self.localIdentity.publicKey.bytes, player.self.localName,
    player.self.localDeviceType, player.random 0, player.clock 0⟩

/-- What the other side of a player is to it before it is trusted. -/
def candidate (other : Player σ) (now : UInt64) : TrustedPeer :=
  ⟨other.self.localIdentity.nodeId, other.self.localIdentity.publicKey, other.self.localName,
    other.self.localDeviceType, now, now, .pending⟩

def opened (player other : Player σ) (now : UInt64) : PairingSession × SasVerification :=
  pairingOpened player.self (player.random 0) (other.candidate now) (other.random 0)

def sas (player other : Player σ) : SasVerification :=
  .derive player.self.localIdentity.nodeId other.self.localIdentity.nodeId (player.random 0)
    (other.random 0)

/-- The text that a side signs and has verified. -/
def text (player other : Player σ) : Bytes :=
  (player.opened other 0).1.confirmationText (player.sas other)

def signature (player other : Player σ) : FixedBytes 64 :=
  player.self.localIdentity.sign (Crypto.sha256 (player.text other)).bytes

/-- What a side says once its user has answered. -/
def word (player other : Player σ) : PairingMessage :=
  if player.user then
    .confirm ⟨player.self.localIdentity.nodeId, true, (player.signature other).bytes⟩
  else .failed "Local user rejected pairing"

end Player

/-- A side from the user's decision on. -/
def conclusion (self : ActiveSession) (opened : PairingSession × SasVerification) :
    SessionProc SasVerification := do
  concludePairing self opened.1 opened.2
  .request (Call.setState .trusted)
  return opened.2

section Transcripts

variable {self : ActiveSession} {opened : PairingSession × SasVerification}

theorem runs_executePairing_opened {isInitiator : Bool} {lead : List SessionEvent}
    (opening : Runs (openPairing self isInitiator) lead (.ok opened)) :
    Runs (executePairing self isInitiator) (⟨.setState .pairing, ()⟩ :: lead) (conclusion self opened) :=
  .ask (opening.bind (conclusion self))

theorem runs_concludePairing_rejected (self : ActiveSession) (session : PairingSession)
    (sas : SasVerification) (sent : Except BridgeError Unit) :
    Runs (concludePairing self session sas)
      [⟨.confirm sas self.remoteName, false⟩,
        ⟨.send (.data (PairingMessage.failed "Local user rejected pairing").toDataFrame), sent⟩,
        ⟨.setState .authenticatedUntrusted, ()⟩] (.error .pairingRejected) :=
  .ask (.ask (.ask (.stop _)))

/-- The user agrees and the peer's user does not. -/
theorem runs_concludePairing_refused {session : PairingSession} {sas : SasVerification}
    {own : FixedBytes 64} {frame : DataFrame} {reason : String} (derived : session.sas = some sas)
    (decoded : PairingMessage.fromDataFrame frame = .ok (.failed reason)) :
    Runs (concludePairing self session sas)
      [⟨.confirm sas self.remoteName, true⟩,
        ⟨.host (.sign (session.confirmationText sas)), own⟩,
        ⟨.send (.data (PairingMessage.confirm
          ⟨session.localKey.nodeId, true, own.bytes⟩).toDataFrame), .ok ()⟩,
        ⟨.recvData DataFrame.channelPairing, .ok frame⟩]
      (.error (.closed ("Pairing rejected by peer: " ++ reason))) := by
  simp only [concludePairing, request_bind, onHost, PairingSession.confirm, derived, pure_eq, lift_ask,
    lift_ok, ask_bind, ok_bind, sendPairingMessage, sendFrame, recvPairingMessage]
  refine .ask (.ask (.ask (.ask ?_)))
  simp only [orFail_ok, ok_bind, decoded]
  exact .stop _

end Transcripts

namespace Player

variable (player other : Player σ)

/-- How a call ends, given both answers. -/
def outcome : SessionProc SasVerification :=
  if player.user then
    if other.user then .ok (player.sas other)
    else .error (.closed ("Pairing rejected by peer: " ++ "Local user rejected pairing"))
  else .error .pairingRejected

theorem outcome_error {player other : Player σ} (no : ¬ (player.user ∧ other.user)) :
    ∃ e, player.outcome other = .error e := by
  unfold outcome
  split
  · split
    · exact absurd ⟨‹_›, ‹_›⟩ no
    · exact ⟨_, rfl⟩
  · exact ⟨_, rfl⟩

/-- The seat after the user's answer. -/
def decided (seat : Seat σ) : Seat σ :=
  if player.user then seat
  else { seat with world := { seat.world with state := .authenticatedUntrusted } }

@[simp] theorem decided_inbox (seat : Seat σ) : (player.decided seat).inbox = seat.inbox := by
  unfold decided
  split <;> rfl

@[simp] theorem decided_store (seat : Seat σ) :
    (player.decided seat).world.store = seat.world.store := by
  unfold decided
  split <;> rfl

theorem length_encode_word : (PairingMessage.codec.encode (player.word other)).length ≤ 112 := by
  unfold word
  cases player.user with
  | false =>
      simp only [Bool.false_eq_true, if_false]
      decide +kernel
  | true =>
      have confirm := PairingMessage.length_encode_confirm
        ⟨player.self.localIdentity.nodeId, true, (player.signature other).bytes⟩
      rw [FixedBytes.size] at confirm
      exact confirm

theorem exists_encode_word : ∃ bytes, encodeFrame (.data (player.word other).toDataFrame) = .ok bytes := by
  apply exists_encodeFrame
  have short := Nat.add_le_add_right (player.length_encode_word other) 18
  exact (length_encode_data _).2.trans (short.trans (by decide))

theorem fromDataFrame_word :
    PairingMessage.fromDataFrame (player.word other).toDataFrame = .ok (player.word other) := by
  apply PairingMessage.fromDataFrame_toDataFrame
  exact lt_of_le_of_lt (player.length_encode_word other) (by decide)

variable {player other}

theorem reply_send {seat : Seat σ} {frame : Frame} {bytes : Bytes} (encoded : encodeFrame frame = .ok bytes) :
    player.desk.reply seat (.send frame) = some (.answer (.ok ()) seat [frame]) := by
  simp only [desk, reply, respond, encoded]

theorem reply_unsent {seat : Seat σ} {frame : Frame} {e : BridgeError}
    (refused : encodeFrame frame = .error e) :
    player.desk.reply seat (.send frame) = some (.answer (.error e) seat []) := by
  simp only [desk, reply, respond, refused]

theorem reply_recvData {seat : Seat σ} (message : PairingMessage) {inbox : List Frame}
    (arrived : seat.inbox = .data message.toDataFrame :: inbox) :
    player.desk.reply seat (.recvData DataFrame.channelPairing) =
      some (.answer (.ok message.toDataFrame) { seat with inbox } []) := by
  simp only [desk, reply, respond, takeData, arrived]
  rfl

/-- A user who says no ends the ceremony without waiting for the peer. -/
theorem decides_no (no : player.user = false) (now : UInt64) (seat : Seat σ) :
    player.desk.party.Goes (conclusion player.self (player.opened other now), seat)
      [.data (player.word other).toDataFrame] (player.outcome other, player.decided seat) := by
  obtain ⟨bytes, encoded⟩ := player.exists_encode_word other
  simp only [word, outcome, decided, no, Bool.false_eq_true, if_false] at encoded ⊢
  have run : Runs (conclusion player.self (player.opened other now)) _ (.error .pairingRejected) :=
    (runs_concludePairing_rejected _ _ _ (.ok ())).bind _
  refine Desk.Serves.goes (.quiet ?_ (.sends (reply_send encoded) (.quiet rfl .nil))) run
  simp only [desk, reply, respond, no]

/-- The questions of a user who says yes, up to the peer's answer. -/
def agrees (player other : Player σ) : List SessionEvent :=
  [⟨.confirm (player.sas other) player.self.remoteName, true⟩,
    ⟨.host (.sign (player.text other)), player.signature other⟩,
    ⟨.send (.data (PairingMessage.confirm
      ⟨player.self.localIdentity.nodeId, true, (player.signature other).bytes⟩).toDataFrame), .ok ()⟩]

theorem serves_agrees (yes : player.user = true) (seat : Seat σ) :
    player.desk.Serves seat (player.agrees other) [.data (player.word other).toDataFrame] seat := by
  obtain ⟨bytes, encoded⟩ := player.exists_encode_word other
  simp only [word, yes, if_true] at encoded ⊢
  refine .quiet ?_ (.quiet rfl (.sends (reply_send encoded) .nil))
  simp only [desk, reply, respond, yes]

/-- The rest if the peer's user says yes as well. -/
def settles (player other : Player σ) (now : UInt64) : List SessionEvent :=
  [⟨.recvData DataFrame.channelPairing, .ok (other.word player).toDataFrame⟩,
    ⟨.host (.verify other.self.localIdentity.publicKey (player.text other) (other.signature player)),
      .ok ()⟩,
    ⟨.savePeer { other.candidate now with trustState := .trusted }, .ok ()⟩,
    ⟨.setState .trusted, ()⟩]

theorem runs_conclusion_ok (yes : other.user = true) (now : UInt64) :
    Runs (conclusion player.self (player.opened other now))
      (player.agrees other ++ player.settles other now) (.ok (player.sas other)) := by
  have decoded := other.fromDataFrame_word player
  simp only [word, yes, if_true] at decoded
  have concluded : Runs (concludePairing player.self (player.opened other now).1 (player.sas other)) _
      (.ok ()) :=
    (runs_concludePairing_ok rfl rfl).mpr ⟨player.signature other, _, _, other.signature player, rfl,
      decoded, rfl, rfl, FixedBytes.ofBytes?_bytes _⟩
  let rest : SessionProc SasVerification := do
    .request (Call.setState .trusted)
    return player.sas other
  have trusting : Runs rest [⟨.setState .trusted, ()⟩] (.ok (player.sas other)) := .ask (.stop _)
  simp only [settles, word, yes, if_true]
  exact (concluded.bind fun _ => rest).append trusting

theorem runs_conclusion_refused (no : other.user = false) (now : UInt64) :
    Runs (conclusion player.self (player.opened other now))
      (player.agrees other ++
        [⟨.recvData DataFrame.channelPairing, .ok (other.word player).toDataFrame⟩])
      (.error (.closed ("Pairing rejected by peer: " ++ "Local user rejected pairing"))) := by
  have decoded := other.fromDataFrame_word player
  simp only [word, no, Bool.false_eq_true, if_false] at decoded ⊢
  exact (runs_concludePairing_refused rfl decoded).bind _

/-- The other side signs the text this side has verified. -/
theorem verify_signature (same : other.text player = player.text other) :
    other.self.localIdentity.publicKey.verify (Crypto.sha256 (player.text other)).bytes
      (other.signature player) = .ok () := by
  rw [signature, same]
  exact IdentityKey.verify_sign _ _

/-- The seat after both users have said yes. -/
def settled (other : Player σ) (now : UInt64) (seat : Seat σ) : Seat σ :=
  { seat with
    inbox := []
    world := { seat.world with
      store := seat.world.store.savePeer { other.candidate now with trustState := .trusted }
      state := .trusted } }

theorem serves_settles (same : other.text player = player.text other) (now : UInt64) {heard : Seat σ}
    (arrived : heard.inbox = [.data (other.word player).toDataFrame]) :
    player.desk.Serves heard (player.settles other now) [] (other.settled now heard) := by
  have verified (seat : Seat σ) : player.desk.reply seat (.host (.verify
      other.self.localIdentity.publicKey (player.text other) (other.signature player))) =
      some (.answer (.ok ()) seat []) := by
    simp only [desk, reply, respond, verify_signature same]
  exact .quiet (reply_recvData _ arrived) (.quiet (verified _) (.quiet rfl (.quiet rfl .nil)))

/-- From the user's answer to the end, in two parts: what the side says, and what it
    does once it has heard the other side. -/
theorem concludes (same : other.text player = player.text other) (now : UInt64) (seat : Seat σ) :
    ∃ p, player.desk.party.Goes (conclusion player.self (player.opened other now), seat)
        [.data (player.word other).toDataFrame] (p, player.decided seat) ∧
      ∀ heard : Seat σ, heard.inbox = [.data (other.word player).toDataFrame] →
        ∃ last, player.desk.party.Goes (p, heard) [] (player.outcome other, last) ∧
          last.world.store =
            if player.user ∧ other.user then
              heard.world.store.savePeer { other.candidate now with trustState := .trusted }
            else heard.world.store := by
  cases mine : player.user with
  | false =>
      refine ⟨player.outcome other, decides_no mine now seat, ?_⟩
      intro heard _
      refine ⟨heard, .refl _, ?_⟩
      simp
  | true =>
      have stays : player.decided seat = seat := by simp [decided, mine]
      cases theirs : other.user with
      | false =>
          obtain ⟨p, first, second⟩ := (runs_conclusion_refused theirs now).split
          rw [stays]
          refine ⟨p, (serves_agrees mine seat).goes first, ?_⟩
          intro heard arrived
          refine ⟨{ heard with inbox := [] }, ?_, ?_⟩
          · simp only [outcome, mine, theirs, Bool.false_eq_true, if_true, if_false]
            exact Desk.Serves.goes (.quiet (reply_recvData _ arrived) .nil) second
          · simp
      | true =>
          obtain ⟨p, first, second⟩ := (runs_conclusion_ok theirs now).split
          rw [stays]
          refine ⟨p, (serves_agrees mine seat).goes first, ?_⟩
          intro heard arrived
          refine ⟨other.settled now heard, ?_, ?_⟩
          · simp only [outcome, mine, theirs, if_true]
            exact (serves_settles same now arrived).goes second
          · simp only [settled, and_self, if_true]

theorem checkIdentity_own (player : Player σ) :
    PairingSession.checkIdentity player.self.localIdentity.nodeId player.self.localIdentity.publicKey.bytes =
      .ok player.self.localIdentity.publicKey :=
  PairingSession.checkIdentity_eq_ok.mpr ⟨rfl, rfl⟩

/-- The initiator's questions up to the request. -/
def requests (player : Player σ) : List SessionEvent :=
  [⟨.setState .pairing, ()⟩, ⟨.host .random, player.random 0⟩, ⟨.host .now, player.clock 0⟩,
    ⟨.send (.data (PairingMessage.request player.request).toDataFrame), .ok ()⟩]

/-- The initiator asks, and waits for the response. -/
theorem runs_requests (player : Player σ) :
    ∃ next, Runs (executePairing player.self true) player.requests
      (.ask (.recvData DataFrame.channelPairing) next) :=
  ⟨_, .ask (.ask (.ask (.ask (.stop _))))⟩

theorem serves_requests (asks : (PairingMessage.request player.request).Fits) (w : World σ) :
    player.desk.Serves ⟨w, [], 0, 0⟩ player.requests
      [.data (PairingMessage.request player.request).toDataFrame]
      ⟨{ w with state := .pairing }, [], 1, 1⟩ := by
  obtain ⟨bytes, encoded⟩ := exists_encodeFrame asks
  exact .quiet rfl (.quiet rfl (.quiet rfl (.sends (reply_send encoded) .nil)))

/-- With the response the initiator is where its user decides. -/
theorem runs_response (answers : (PairingMessage.response other.response).Fits) :
    Runs (executePairing player.self true)
      (player.requests ++
        [⟨.recvData DataFrame.channelPairing,
          .ok (PairingMessage.response other.response).toDataFrame⟩, ⟨.host .now, player.clock 1⟩])
      (conclusion player.self (player.opened other (player.clock 1))) := by
  have opening : Runs (openPairing player.self true) _ (.ok (player.opened other (player.clock 1))) :=
    runs_initiatePairing_ok.mpr ⟨player.random 0, player.clock 0, _, other.response, _, player.clock 1,
      rfl, answers.fromDataFrame, other.checkIdentity_own, rfl⟩
  exact runs_executePairing_opened opening

/-- The responder takes the request and answers it. -/
theorem responds (asks : (PairingMessage.request other.request).Fits)
    (answers : (PairingMessage.response player.response).Fits) (w : World σ) :
    player.desk.party.Goes
      (executePairing player.self false,
        ⟨w, [.data (PairingMessage.request other.request).toDataFrame], 0, 0⟩)
      [.data (PairingMessage.response player.response).toDataFrame]
      (conclusion player.self (player.opened other (player.clock 0)),
        ⟨{ w with state := .pairing }, [], 1, 1⟩) := by
  obtain ⟨bytes, encoded⟩ := exists_encodeFrame answers
  have opening : Runs (openPairing player.self false) _ (.ok (player.opened other (player.clock 0))) :=
    runs_respondPairing_ok.mpr ⟨_, other.request, _, player.random 0, player.clock 0, rfl,
      asks.fromDataFrame, other.checkIdentity_own, rfl⟩
  exact Desk.Serves.goes (.quiet rfl (.quiet (reply_recvData _ rfl) (.quiet rfl (.quiet rfl
    (.sends (reply_send encoded) .nil))))) (runs_executePairing_opened opening)

/-- The responder fails where it cannot send its response. -/
theorem runs_response_unsent (asks : (PairingMessage.request other.request).Fits) (e : BridgeError) :
    Runs (executePairing player.self false)
      [⟨.setState .pairing, ()⟩,
        ⟨.recvData DataFrame.channelPairing, .ok (PairingMessage.request other.request).toDataFrame⟩,
        ⟨.host .random, player.random 0⟩, ⟨.host .now, player.clock 0⟩,
        ⟨.send (.data (PairingMessage.response player.response).toDataFrame), .error e⟩]
      (.error (.transport e)) := by
  have checked : PairingSession.checkIdentity other.request.nodeId other.request.publicKey =
      .ok other.self.localIdentity.publicKey := other.checkIdentity_own
  simp only [executePairing, openPairing, respondPairing, recvPairingMessage, request_bind, ask_bind,
    Bool.false_eq_true, if_false]
  refine .ask (.ask ?_)
  simp only [orFail_ok, ok_bind, asks.fromDataFrame, pure_eq, onHost, PairingSession.newResponder, checked,
    request_bind, lift_ask, lift_ok, ask_bind, sendPairingMessage, sendFrame]
  exact .ask (.ask (.ask (.stop _)))

theorem sas_comm (distinct : player.self.localIdentity.nodeId ≠ other.self.localIdentity.nodeId) :
    player.sas other = other.sas player :=
  SasVerification.derive_comm distinct _ _

theorem text_comm (distinct : player.self.localIdentity.nodeId ≠ other.self.localIdentity.nodeId) :
    player.text other = other.text player := by
  unfold text PairingSession.confirmationText
  rw [sas_comm distinct]
  exact congrArg _ (ordered_comm distinct _ _)

end Player

end BridgeOS.Session
