import BridgeOS.Cli.Connect
import BridgeOS.Session.Ceremony

/-! # What the programs of a session ask

Each program is gone through once: a handshake up to the question about trust, a
ceremony up to the peer it saves, and the service of a frame. That the questions of a
program are harmless, silent or keyed follows from what is asked here.
-/

namespace BridgeOS.Session

open BridgeOS.Transfer Proc

variable [Crypto]

section Handshakes

/-- What a handshake asks before it asks for trust; it signs such texts only. -/
def Call.Greets (signs : Bytes → Prop) : Call → Prop
  | .host (.sign text) => signs text
  | .host _ => True
  | .send (.handshake _) => True
  | .recv => True
  | _ => False

/-- What a handshake asks: about a peer only under the key its identifier stands for. -/
def Call.OfHandshake (signs : Bytes → Prop) : Call → Prop
  | .host (.sign text) => signs text
  | .host _ => True
  | .send (.handshake _) => True
  | .send (.control _) => True
  | .recv => True
  | .isTrusted nodeId key => key.nodeId = nodeId
  | .updateLastSeen _ _ => True
  | _ => False

theorem Call.Greets.ofHandshake {signs : Bytes → Prop} (c : Call) (greets : c.Greets signs) :
    c.OfHandshake signs := by
  cases c with
  | host c => cases c <;> exact greets
  | send frame =>
      cases frame with
      | handshake h => trivial
      | _ => exact greets.elim
  | recv => trivial
  | _ => exact greets.elim

/-- A frame comes that is not one of a handshake. -/
def takesOther : SessionEvent → Bool
  | ⟨.recv, .ok (some (.handshake _))⟩ => false
  | ⟨.recv, .ok (some _)⟩ => true
  | _ => false

/-- A handshake up to here, and what it comes to. -/
abbrev Greeting {ε α : Type} (signs : Bytes → Prop) (Q : Proc Call Call.Answer ε α → Prop) :
    Proc Call Call.Answer ε α → Prop :=
  Leads (Call.Greets signs) (takesOther · = true) Q

/-- The question about trust, and a session only if it is answered. -/
def Consults (p : SessionProc ActiveSession) : Prop :=
  ∃ (nodeId : NodeId) (key : PublicKey) (make : SessionState → ActiveSession), key.nodeId = nodeId ∧
    (∀ state, (make state).remoteNodeId = nodeId ∧ (make state).state = state) ∧
      p = consultTrustStore nodeId key >>= fun state => .ok (make state)

section Parts

variable {ε α β : Type} {signs : Bytes → Prop} {Q : Proc Call Call.Answer ε α → Prop}

theorem greeting_ask {c : Call} {next : c.Answer → Proc Call Call.Answer ε α} (greets : c.Greets signs)
    (other : c ≠ .recv) (rest : ∀ answer, Greeting signs Q (next answer)) :
    Greeting signs Q (.ask c next) := by
  refine .ask greets (fun answer taken => ?_) rest
  cases c with
  | recv => exact absurd rfl other
  | _ => cases taken

theorem greeting_recv {next : Call.Answer .recv → Proc Call Call.Answer ε α}
    (control : ∀ c, ∃ e, next (.ok (some (.control c))) = .error e)
    (data : ∀ df, ∃ e, next (.ok (some (.data df))) = .error e)
    (rest : ∀ received, Greeting signs Q (next received)) : Greeting signs Q (.ask .recv next) := by
  refine .ask trivial (fun received taken => ?_) rest
  rcases received with e | _ | (h | c | df)
  · cases taken
  · cases taken
  · cases taken
  · exact control c
  · exact data df

theorem greeting_sendFrame {Q : SessionProc α → Prop} {h : HandshakeFrame} {f : Unit → SessionProc α}
    (rest : Greeting signs Q (f ())) : Greeting signs Q (sendFrame (.handshake h) >>= f) :=
  greeting_ask trivial nofun fun _ => leads_orFail fun _ _ => rest

theorem greeting_recvFrame {Q : SessionProc α → Prop} {ended : String} {f : Frame → SessionProc α}
    (control : ∀ c, ∃ e, f (.control c) = .error e) (data : ∀ df, ∃ e, f (.data df) = .error e)
    (rest : ∀ h, Greeting signs Q (f (.handshake h))) : Greeting signs Q (recvFrame ended >>= f) := by
  have failed : ∀ {p : SessionProc α}, (∃ e, p = .error e) → Greeting signs Q p := by
    rintro _ ⟨e, rfl⟩
    exact .failed e
  refine greeting_recv control data fun received => ?_
  rcases received with e | _ | (h | c | df)
  · exact .failed _
  · exact .failed _
  · exact rest h
  · exact failed (control c)
  · exact failed (data df)

end Parts

variable {endpoint : Endpoint}

theorem serverHandshake_greeting : Greeting (fun _ => False) Consults (serverHandshake endpoint) := by
  refine greeting_recvFrame (fun _ => ⟨_, rfl⟩) (fun _ => ⟨_, rfl⟩) fun h => ?_
  rcases h with hello | _ | _ | _ <;> try exact .failed _
  refine leads_orFail fun key made => ?_
  refine greeting_ask trivial nofun fun nonce => ?_
  refine greeting_sendFrame ?_
  refine greeting_recvFrame (fun _ => ⟨_, rfl⟩) (fun _ => ⟨_, rfl⟩) fun h => ?_
  rcases h with _ | _ | response | _ <;> try exact .failed _
  refine greeting_ask trivial nofun fun verified => ?_
  cases verified with
  | error e => exact greeting_ask trivial nofun fun _ => .failed _
  | ok =>
      refine greeting_sendFrame (.reached ⟨hello.nodeId, key, _, PublicKey.nodeId_of_fromBytes made, ?_, rfl⟩)
      exact fun state => ⟨rfl, rfl⟩

/-- The greetings of a client sign nothing. -/
theorem exchangeHellos_greeting {ε : Type} {identity : IdentityKey} {name : String}
    {sending receiving : BridgeError → ε} {ended : ε} {unexpected : Frame → ε} (signs : Bytes → Prop) :
    Greeting signs (∃ opened, · = .ok opened)
      (exchangeHellos identity name sending receiving ended unexpected) := by
  refine greeting_ask trivial nofun fun nonce => greeting_ask trivial nofun fun sent => ?_
  refine leads_orFail fun _ _ => greeting_recv (fun _ => ⟨_, rfl⟩) (fun _ => ⟨_, rfl⟩) fun received => ?_
  rcases received with e | _ | ((_ | hello | _ | _) | _ | _) <;> try exact .failed _
  exact .reached ⟨_, rfl⟩

theorem awaitVerdict_greeting {hello : ServerHello} {key : PublicKey} (own : key.nodeId = hello.nodeId)
    (signs : Bytes → Prop) (signature : FixedBytes 64) :
    Greeting signs Consults (awaitVerdict endpoint hello key signature) := by
  refine greeting_sendFrame ?_
  refine greeting_recvFrame (fun _ => ⟨_, rfl⟩) (fun _ => ⟨_, rfl⟩) fun h => ?_
  rcases h with _ | _ | _ | result <;> try exact .failed _
  dsimp only
  split
  · exact .failed _
  · exact .reached ⟨hello.nodeId, key, _, own, fun state => ⟨rfl, rfl⟩, rfl⟩

theorem clientHandshake_greeting : Greeting (fun _ => True) Consults (clientHandshake endpoint) := by
  refine (exchangeHellos_greeting _).bind ?_
  rintro _ ⟨opened, rfl⟩
  refine leads_orFail fun key made => greeting_ask trivial nofun fun signature => ?_
  exact awaitVerdict_greeting (PublicKey.nodeId_of_fromBytes made) _ signature

theorem cliAwaitVerdict_greeting (signs : Bytes → Prop) (hello : ServerHello) (signature : FixedBytes 64) :
    Greeting signs (∃ hello, · = .ok hello) (Cli.awaitVerdict hello signature) := by
  refine greeting_ask trivial nofun fun sent => leads_orFail fun _ _ => ?_
  refine greeting_recv (fun _ => ⟨_, rfl⟩) (fun _ => ⟨_, rfl⟩) fun received => ?_
  rcases received with e | _ | ((_ | _ | _ | result) | _ | _) <;> try exact .failed _
  change Greeting signs _ (if result.success = true then .ok hello else .error _)
  split
  · exact .reached ⟨hello, rfl⟩
  · exact .failed _

theorem connectAndHandshake_greeting (clientKey : IdentityKey) (deviceName : String) :
    Greeting (fun _ => True) (∃ hello, · = .ok hello) (Cli.connectAndHandshake clientKey deviceName) := by
  refine (exchangeHellos_greeting _).bind ?_
  rintro _ ⟨opened, rfl⟩
  exact greeting_ask trivial nofun fun signature => cliAwaitVerdict_greeting _ opened.2 signature

section Trust

variable {signs : Bytes → Prop} {p : SessionProc ActiveSession}

/-- A handshake makes a session only with the peer that the trust store has given an answer
    about, and a trusted one only if the answer was yes. -/
theorem within_of_greeting {possible : SessionEvent → Prop} {R : ActiveSession → Prop}
    (greeting : Greeting signs Consults p)
    (returns : ∀ self key known, possible ⟨.isTrusted self.remoteNodeId key, .ok known⟩ →
      (self.state = .trusted → known = true) → R self) :
    p.Within possible (Call.OfHandshake signs) R := by
  refine greeting.within Call.Greets.ofHandshake ?_
  rintro _ ⟨nodeId, key, make, own, made, rfl⟩
  refine ⟨own, fun answer possibly => ?_⟩
  rcases answer with e | known
  · cases e <;> first | trivial | exact ⟨trivial, fun _ _ => trivial⟩
  · have returned : ∀ state, (state = .trusted → known = true) → R (make state) := by
      intro state granted
      refine returns _ key known ?_ ?_
      · rw [(made state).1]
        exact possibly
      · rw [(made state).2]
        exact granted
    cases known with
    | false => exact returned _ nofun
    | true => exact ⟨trivial, fun _ _ => ⟨trivial, fun _ _ => returned _ fun _ => rfl⟩⟩

theorem allCalls_of_greeting (greeting : Greeting signs Consults p) : p.AllCalls (Call.OfHandshake signs) :=
  (within_of_greeting (R := fun _ => True) greeting fun _ _ _ _ _ => trivial).allCalls

end Trust

end Handshakes

section Ceremonies

variable {self : ActiveSession}

/-- What the two sides of a ceremony tell each other. -/
def Call.Exchanges : Call → Prop
  | .host (.sign text) => ∃ (session : PairingSession) (sas : SasVerification), text = session.confirmationText sas
  | .host _ => True
  | .send (.data df) => df.channel = DataFrame.channelPairing
  | .recvData _ => True
  | _ => False

/-- What a ceremony asks before it saves the peer. -/
def Call.Pairs : Call → Prop
  | .confirm _ _ => True
  | .setState state => state ≠ .trusted
  | .host c => Call.Exchanges (.host c)
  | .send frame => Call.Exchanges (.send frame)
  | .recvData _ => True
  | _ => False

theorem Call.Exchanges.pairs (c : Call) (exchanges : c.Exchanges) : c.Pairs := by
  cases c with
  | host c => exact exchanges
  | send frame => exact exchanges
  | recvData channel => trivial
  | _ => exact exchanges.elim

/-- The remote side of a ceremony goes by the identifier of its key. -/
def Matched (session : PairingSession) : Prop :=
  ∀ remote ∈ session.remotePeer, remote.publicKey.nodeId = remote.nodeId

/-- The last question before a ceremony has its peer. -/
def Saves (session : PairingSession) (p : SessionProc Unit) : Prop :=
  ∃ peer : TrustedPeer, (Matched session → peer.publicKey.nodeId = peer.nodeId) ∧
    p = .ask (.savePeer peer) (.orFail SessionError.identity)

section Parts

variable {possible : SessionEvent → Prop}

theorem sendPairingMessage_exchanges (message : PairingMessage) :
    (sendPairingMessage message).AllCalls Call.Exchanges := ⟨rfl, fun sent => allCalls_orFail _ sent⟩

theorem recvPairingMessage_exchanges : recvPairingMessage.AllCalls Call.Exchanges :=
  allCalls_bind (allCalls_request trivial) fun received =>
    allCalls_bind (allCalls_orFail id received) fun _ => allCalls_orFail _ _

theorem onHost_exchanges {α : Type} {R : α → Prop} {p : HostProc IdentityError α}
    (within : p.Within (fun _ => True) (fun c => Call.Exchanges (.host c)) R) :
    (onHost p).Within (fun _ => True) Call.Exchanges R := within_lift within fun _ _ _ => trivial

theorem initiatorReceiveResponse_matched (session : PairingSession) (response : PairingResponse) :
    (session.initiatorReceiveResponse response).Within (fun _ => True)
      (fun c => Call.Exchanges (.host c)) fun opened => Matched opened.1 := by
  apply within_bind (within_orFail (R := fun key => key.nodeId = response.nodeId) ?_)
  · intro key own
    refine ⟨trivial, fun now _ => ?_⟩
    rintro remote ⟨⟩
    exact own
  · intro key checked
    exact (PairingSession.checkIdentity_eq_ok.mp checked).2

theorem newResponder_matched (localKey : IdentityKey) (localName : String) (localType : DeviceType)
    (request : PairingRequest) :
    (PairingSession.newResponder localKey localName localType request).Within (fun _ => True)
      (fun c => Call.Exchanges (.host c)) fun opened => Matched opened.1 := by
  apply within_bind (within_orFail (R := fun key => key.nodeId = request.nodeId) ?_)
  · intro key own
    refine ⟨trivial, fun nonce _ => ⟨trivial, fun now _ => ?_⟩⟩
    rintro remote ⟨⟩
    exact own
  · intro key checked
    exact (PairingSession.checkIdentity_eq_ok.mp checked).2

theorem confirm_exchanges (session : PairingSession) :
    session.confirm.AllCalls fun c => Call.Exchanges (.host c) := by
  unfold PairingSession.confirm
  cases session.sas with
  | none => trivial
  | some sas => exact ⟨⟨session, sas, rfl⟩, fun _ => trivial⟩

theorem finalize_matched (session : PairingSession) (confirmation : PairingConfirm) :
    (session.finalize confirmation).Within (fun _ => True) (fun c => Call.Exchanges (.host c))
      fun peer => Matched session → peer.publicKey.nodeId = peer.nodeId := by
  rcases session.finalize_fails_or confirmation with ⟨e, failed⟩ | ⟨sas, peer, signature, acceptable⟩
  · rw [failed]
    trivial
  · rw [acceptable.finalize_eq]
    refine ⟨trivial, fun verified _ => ?_⟩
    apply within_bind (allCalls_orFail _ verified).within
    intro _ _ matched
    exact matched peer acceptable.present

end Parts

theorem openPairing_matched (isInitiator : Bool) :
    (openPairing self isInitiator).Within (fun _ => True) Call.Exchanges fun opened => Matched opened.1 := by
  cases isInitiator with
  | true =>
      have created : (PairingSession.newInitiator self.localIdentity self.localName
          self.localDeviceType : HostProc IdentityError _).AllCalls fun c => Call.Exchanges (.host c) :=
        ⟨trivial, fun _ => ⟨trivial, fun _ => trivial⟩⟩
      apply within_bind (onHost_exchanges created.within)
      rintro ⟨session, request⟩ _
      apply within_bind (sendPairingMessage_exchanges _).within
      intro _ _
      apply within_bind recvPairingMessage_exchanges.within
      intro message _
      cases message <;> try trivial
      exact onHost_exchanges (initiatorReceiveResponse_matched session _)
  | false =>
      apply within_bind recvPairingMessage_exchanges.within
      intro message _
      cases message with
      | request request =>
          apply within_bind (onHost_exchanges (newResponder_matched _ _ _ request))
          rintro ⟨session, response, sas⟩ matched
          apply within_bind (sendPairingMessage_exchanges _).within
          intro _ _
          exact matched
      | _ => trivial

/-- The user is asked first; with their consent the sides exchange confirmations, and the peer
    is saved. -/
theorem concludePairing_asks (session : PairingSession) (sas : SasVerification) :
    ∃ next : Bool → SessionProc Unit,
      concludePairing self session sas = .ask (.confirm sas self.remoteName) next ∧
      next false = (.ask (.send (.data (PairingMessage.failed "Local user rejected pairing").toDataFrame)) fun _ =>
        .ask (.setState .authenticatedUntrusted) fun _ => .error .pairingRejected) ∧
      (next true).Leads Call.Exchanges (fun _ => False) (Saves session) := by
  have calm : ∀ {α : Type} {R : α → Prop} {p : SessionProc α},
      p.Within (fun _ => True) Call.Exchanges R →
      p.Within (fun _ => True) (fun c => c.Exchanges ∧ ∀ answer : c.Answer, ¬ False) R :=
    fun within => within.mono fun _ exchanges => ⟨exchanges, fun _ => id⟩
  refine ⟨_, rfl, rfl, ?_⟩
  change Leads _ _ _ (onHost session.confirm >>= _)
  refine leads_bind (calm (onHost_exchanges (confirm_exchanges session).within)) fun confirmation _ => ?_
  refine leads_bind (calm (sendPairingMessage_exchanges _).within) fun _ _ => ?_
  refine leads_bind (calm recvPairingMessage_exchanges.within) fun message _ => ?_
  cases message with
  | confirm confirmation =>
      change Leads _ _ _ (onHost (session.finalize confirmation) >>= _)
      exact leads_bind (calm (onHost_exchanges (finalize_matched session confirmation)))
        fun peer own => .reached ⟨peer, own, rfl⟩
  | _ => exact .failed _

variable {possible : SessionEvent → Prop} {P : Call → Prop}

theorem concludePairing_within {R : Unit → Prop} {session : PairingSession} (sas : SasVerification)
    (pairs : ∀ c : Call, c.Pairs → P c)
    (saves : ∀ peer : TrustedPeer, (Matched session → peer.publicKey.nodeId = peer.nodeId) →
      P (.savePeer peer) ∧ (possible ⟨.savePeer peer, .ok ()⟩ → R ())) :
    (concludePairing self session sas).Within possible P R := by
  obtain ⟨next, shape, declined, agreed⟩ := concludePairing_asks session sas
  rw [shape]
  refine ⟨pairs _ trivial, fun confirmed _ => ?_⟩
  cases confirmed with
  | false =>
      rw [declined]
      exact ⟨pairs _ rfl, fun _ _ => ⟨pairs (.setState _) nofun, fun _ _ => trivial⟩⟩
  | true =>
      refine agreed.within (fun c exchanges => pairs c exchanges.pairs) ?_
      rintro _ ⟨peer, own, rfl⟩
      refine ⟨(saves peer own).1, fun saved possibly => ?_⟩
      cases saved with
      | error e => trivial
      | ok => exact (saves peer own).2 possibly

/-- A ceremony grants trust once it has saved the peer, which goes by the identifier of its key. -/
theorem executePairing_within {R : SasVerification → Prop} (isInitiator : Bool)
    (pairs : ∀ c : Call, c.Pairs → P c)
    (saves : ∀ peer : TrustedPeer, peer.publicKey.nodeId = peer.nodeId → P (.savePeer peer) ∧
      (possible ⟨.savePeer peer, .ok ()⟩ → P (.setState .trusted) ∧ ∀ sas, R sas)) :
    (executePairing self isInitiator).Within possible P R := by
  refine ⟨pairs (.setState _) nofun, fun _ _ => ?_⟩
  have opened : (openPairing self isInitiator).Within possible P fun opened => Matched opened.1 :=
    ((openPairing_matched isInitiator).mono fun c exchanges => pairs c exchanges.pairs).of_all
  apply within_bind opened
  rintro ⟨session, sas⟩ matched
  apply within_bind (concludePairing_within (R := fun _ => P (.setState .trusted) ∧ ∀ sas, R sas) sas pairs
    fun peer own => saves peer (own matched))
  intro _ granted
  exact ⟨granted.1, fun _ _ => granted.2 sas⟩

end Ceremonies

section Service

variable {self : ActiveSession}

/-- What the answer to a frame asks; application data needs trust. -/
def Call.Serves (self : ActiveSession) (trusted : Prop) : Call → Prop
  | .recv => True
  | .readState => True
  | .send (.control _) => True
  | .send (.data df) => trusted ∧ df.channel = DataFrame.channelFileTransfer
  | .setState state => ∃ text, state = .terminated text
  | .clipboardFrame _ => trusted ∧ self.clipboardEngine = true
  | .openReceiver _ => trusted ∧ self.receiveDir.isSome = true
  | _ => False

theorem handleFileTransferFrame_serves {trusted : Prop} (granted : trusted)
    (given : self.receiveDir.isSome = true) (payload : Bytes) :
    (handleFileTransferFrame payload).AllCalls (Call.Serves self trusted) := by
  refine allCalls_bind (allCalls_orFail _ _) fun message => ?_
  cases message with
  | offer manifest =>
      refine allCalls_bind (allCalls_request ⟨granted, given⟩) fun opened => ?_
      refine allCalls_bind (allCalls_orFail _ opened) fun receiver => ?_
      exact ⟨⟨granted, rfl⟩, fun sent => allCalls_orFail _ sent⟩
  | _ => trivial

theorem handleFrame_serves (possible : SessionEvent → Prop) (frame : Frame) :
    (handleFrame self frame).Within possible
      (Call.Serves self (possible ⟨.readState, .trusted⟩)) fun _ => True := by
  have gated : ∀ {next : SessionProc Bool}, (possible ⟨.readState, .trusted⟩ →
      next.AllCalls (Call.Serves self (possible ⟨.readState, .trusted⟩))) →
      (Proc.ask Call.readState fun state => if !state.isTrusted then .ok true else next).Within possible
        (Call.Serves self (possible ⟨.readState, .trusted⟩)) fun _ => True := by
    intro next served
    refine ⟨trivial, fun state possibly => ?_⟩
    by_cases trusted : state = .trusted
    · subst trusted
      exact (served possibly).within
    · simp only [SessionState.isTrusted_eq_false trusted, Bool.not_false, if_true]
      trivial
  rcases frame with _ | control | df
  · trivial
  · cases control with
    | ping nonce =>
        refine ⟨trivial, fun sent _ => ?_⟩
        exact within_bind (allCalls_orFail SessionError.transport sent).within fun _ _ => trivial
    | pong nonce => trivial
    | disconnect reason => exact ⟨⟨_, rfl⟩, fun _ _ => trivial⟩
  · simp only [handleFrame]
    split
    · trivial
    · split
      · refine gated fun granted => ?_
        split
        · rename_i given
          exact ⟨⟨granted, given⟩, fun _ => trivial⟩
        · trivial
      · split
        · refine gated fun granted => ?_
          split
          · rename_i given
            exact allCalls_bind (handleFileTransferFrame_serves granted given _) fun _ => trivial
          · trivial
        · trivial

theorem processNextFrame_serves (possible : SessionEvent → Prop) :
    (processNextFrame self).Within possible
      (Call.Serves self (possible ⟨.readState, .trusted⟩)) fun _ => True := by
  refine ⟨trivial, fun received _ => ?_⟩
  apply within_bind (allCalls_orFail _ received).within
  intro frame _
  cases frame with
  | none => trivial
  | some frame => exact handleFrame_serves possible frame

end Service

end BridgeOS.Session
