import BridgeOS.Session.World

/-! # Nothing passes before trust

A session's life is a handshake followed by calls of `process_next_frame` and
`execute_pairing` in any order, each of which may succeed, fail or be dropped
while it waits. Application data changes only while the session is trusted, and
it is trusted only for a reason found in its history.
-/

namespace BridgeOS.Session

open Proc

section Lives

variable [Crypto] {σ : Type}

/-- A call of `process_next_frame`, or of `execute_pairing` in one of its roles. -/
inductive Operation where
  | nextFrame
  | pairing (isInitiator : Bool)
  deriving DecidableEq

/-- The operation can put these questions, whether or not it is through with them. -/
def Operation.Asks (self : ActiveSession) : Operation → List SessionEvent → Prop
  | .nextFrame, events => ∃ q, Runs (processNextFrame self) events q
  | .pairing isInitiator, events => ∃ q, Runs (executePairing self isInitiator) events q

structure Turn (σ : Type) where
  operation : Operation
  before : World σ
  events : List SessionEvent
  after : World σ

/-- Either handshake, on a machine with the endpoint's key and directory. -/
structure Machine.Starts (machine : Machine σ) (endpoint : Endpoint) (w₀ : World σ)
    (events : List SessionEvent) (session : ActiveSession) (w : World σ) : Prop where
  identity : machine.localIdentity = endpoint.localIdentity
  directory : machine.receiveDir = endpoint.receiveDir
  handshake : Runs (serverHandshake endpoint) events (.ok session) ∨
    Runs (clientHandshake endpoint) events (.ok session)
  effect : ∃ w', machine.Effect w₀ events w' ∧ w = { w' with state := session.state }

inductive Machine.Lives (machine : Machine σ) (self : ActiveSession) :
    World σ → List (Turn σ) → World σ → Prop where
  | start (w) : Lives machine self w [] w
  | turn {w turns before after} {operation : Operation} {events} (life : Lives machine self w turns before)
      (asks : operation.Asks self events) (effect : machine.Effect before events after) :
      Lives machine self w (turns ++ [⟨operation, before, events, after⟩]) after

/-- The ceremony returned, the local user said yes, and the peer's confirmation
    verifies over this ceremony's text under the key in the peer's own message. -/
def Confirmed (self : ActiveSession) (isInitiator : Bool) (events : List SessionEvent) : Prop :=
  ∃ sas, Runs (executePairing self isInitiator) events (.ok sas) ∧
    ⟨.confirm sas self.remoteName, true⟩ ∈ events ∧
    ∃ nonce frame message presented key now reply confirmation signature,
      ⟨.host .random, nonce⟩ ∈ events ∧
      ⟨.recvData DataFrame.channelPairing, .ok frame⟩ ∈ events ∧
      PairingMessage.fromDataFrame frame = .ok message ∧
      message.presented isInitiator = some presented ∧
      key.bytes = presented.publicKey ∧
      ⟨.recvData DataFrame.channelPairing, .ok reply⟩ ∈ events ∧
      PairingMessage.fromDataFrame reply = .ok (.confirm confirmation) ∧
      confirmation.confirmed = true ∧
      FixedBytes.ofBytes? 64 confirmation.signature = some signature ∧
      let session := (pairingOpened self nonce
        ⟨presented.nodeId, key, presented.deviceName, presented.deviceType, now, now, .pending⟩
        presented.nonce).1
      key.verify (Crypto.sha256 (session.confirmationText sas)).bytes signature = .ok ()

section Steps

variable {machine : Machine σ} {self : ActiveSession} {events : List SessionEvent} {w w' : World σ}

/-- A ceremony grants trust with its last question and only when it returns. -/
theorem executePairing_grants_last {isInitiator : Bool} {q : SessionProc SasVerification}
    (run : Runs (executePairing self isInitiator) events q) :
    (∀ event ∈ events, event.call.Harmless) ∨
      ∃ sas granted, q = .ok sas ∧ events = granted ++ [⟨.setState .trusted, ()⟩] ∧
        ∀ event ∈ granted, event.call.Harmless := by
  have pairing : Call.Harmless (.setState .pairing) := by simp [Call.Harmless]
  rcases runs_ask.mp run with ⟨rfl, -⟩ | ⟨⟨⟩, rest, rfl, opening⟩
  · exact .inl (by simp)
  change Runs (openPairing self isInitiator >>= _) rest q at opening
  rcases runs_bind opening with ⟨_, opened, -⟩ | ⟨opened, lead, _, rfl, opened', conclusion⟩
  · have harmless := (opened.allCalls (harmless_of_plain openPairing_plain)).1
    exact .inl (List.forall_mem_cons.mpr ⟨pairing, harmless⟩)
  have harmlessLead := (opened'.allCalls (harmless_of_plain openPairing_plain)).1
  rcases runs_bind conclusion with ⟨_, concluded, -⟩ | ⟨_, concluded, last, rfl, concluded', granting⟩
  · have harmless := (concluded.allCalls (harmless_of_plain concludePairing_plain)).1
    exact .inl (List.forall_mem_cons.mpr
      ⟨pairing, List.forall_mem_append.mpr ⟨harmlessLead, harmless⟩⟩)
  have harmless := (concluded'.allCalls (harmless_of_plain concludePairing_plain)).1
  have all : ∀ event ∈ (⟨.setState .pairing, ()⟩ : SessionEvent) :: (lead ++ concluded),
      event.call.Harmless :=
    List.forall_mem_cons.mpr ⟨pairing, List.forall_mem_append.mpr ⟨harmlessLead, harmless⟩⟩
  rcases runs_ask.mp granting with ⟨rfl, -⟩ | ⟨⟨⟩, last, rfl, ended⟩
  · exact .inl (by simpa using all)
  · obtain ⟨rfl, rfl⟩ := runs_ok.mp ended
    exact .inr ⟨opened.2, _, rfl, by simp, all⟩

/-- What both application channels do first. -/
theorem runs_gated {next : SessionProc Bool} {q : SessionProc Bool}
    (run : Runs (.ask .readState fun state => if !state.isTrusted then .ok true else next) events q) :
    (∀ event ∈ events, event.call.Harmless) ∨ ∃ rest, events = ⟨.readState, .trusted⟩ :: rest := by
  rcases runs_ask.mp run with ⟨rfl, -⟩ | ⟨state, rest, rfl, taken⟩
  · exact .inl (by simp)
  by_cases trusted : state = .trusted
  · subst trusted
    exact .inr ⟨rest, rfl⟩
  · have untrusted : state.isTrusted = false := SessionState.isTrusted_eq_false trusted
    rw [untrusted] at taken
    obtain ⟨rfl, -⟩ := runs_ok.mp taken
    exact .inl (by simp [Call.Harmless])

theorem runs_handleFrame {frame : Frame} {q : SessionProc Bool}
    (run : Runs (handleFrame self frame) events q) :
    (∀ event ∈ events, event.call.Harmless) ∨ ∃ rest, events = ⟨.readState, .trusted⟩ :: rest := by
  cases frame with
  | handshake h =>
      obtain ⟨rfl, -⟩ := runs_ok.mp run
      exact .inl (by simp)
  | control c =>
      left
      cases c with
      | ping nonce =>
          exact (run.allCalls (allCalls_bind
            (harmless_of_plain (sendFrame_plain _)) fun _ => allCalls_pure _)).1
      | pong nonce =>
          obtain ⟨rfl, -⟩ := runs_ok.mp run
          simp
      | disconnect reason =>
          have all : (handleFrame self (.control (.disconnect reason))).AllCalls Call.Harmless :=
            ⟨by simp [Call.Harmless], fun _ => trivial⟩
          exact (run.allCalls all).1
  | data df =>
      simp only [handleFrame] at run
      split at run
      · obtain ⟨rfl, -⟩ := runs_ok.mp run
        exact .inl (by simp)
      · split at run
        · exact runs_gated run
        · split at run
          · exact runs_gated run
          · obtain ⟨rfl, -⟩ := runs_ok.mp run
            exact .inl (by simp)

/-- Only a frame taken in a trusted state leads to anything but harmless questions. -/
theorem processNextFrame_asks {q : SessionProc Bool} (run : Runs (processNextFrame self) events q) :
    (∀ event ∈ events, event.call.Harmless) ∨
      ∃ received rest, events = ⟨.recv, received⟩ :: ⟨.readState, .trusted⟩ :: rest := by
  rw [processNextFrame, request_bind] at run
  rcases runs_ask.mp run with ⟨rfl, -⟩ | ⟨received, rest, rfl, taken⟩
  · exact .inl (by simp)
  rcases received with e | _ | frame
  · obtain ⟨rfl, -⟩ := runs_error.mp taken
    exact .inl (by simp [Call.Harmless])
  · obtain ⟨rfl, -⟩ := runs_ok.mp taken
    exact .inl (by simp [Call.Harmless])
  · rcases runs_handleFrame taken with spared | ⟨more, rfl⟩
    · exact .inl (List.forall_mem_cons.mpr ⟨trivial, spared⟩)
    · exact .inr ⟨_, more, rfl⟩

theorem confirmed_of_returned {isInitiator : Bool} {sas : SasVerification}
    (run : Runs (executePairing self isInitiator) events (.ok sas))
    (effect : machine.Effect w events w') : Confirmed self isInitiator events := by
  obtain ⟨opened, lead, concluded, same, opening, conclusion, rfl⟩ := runs_executePairing_ok.mp run
  have inLead : ∀ event ∈ lead, event ∈ events := by
    intro event member
    simp [same, member]
  have inConcluded : ∀ event ∈ concluded, event ∈ events := by
    intro event member
    simp [same, member]
  obtain ⟨before, later, nonce, frame, message, presented, key, now, rfl, -, -, drawn, decoded, presents,
    checked, rfl⟩ := runs_openPairing_ok opening
  obtain ⟨own, reply, confirmation, signature, rfl, replied, confirmed, -, sized⟩ :=
    (runs_concludePairing_ok rfl rfl).mp conclusion
  obtain ⟨_, _, verified, -⟩ := effect.exists_of_mem (inConcluded _ (.tail _ (.tail _ (.tail _ (.tail _
    (.head _))))))
  refine ⟨_, run, inConcluded _ (.head _), nonce, frame, message, presented, key, now, reply,
    confirmation, signature, inLead _ drawn, inLead _ (by simp), decoded, presents,
    (PairingSession.checkIdentity_eq_ok.mp checked).1, inConcluded _ (.tail _ (.tail _ (.tail _ (.head _)))), replied,
    confirmed, sized, verified.symm⟩

/-- One turn: application data changes only when it found the session trusted, and
    trust that was not there before was confirmed in it. -/
theorem turn_gated {operation : Operation} (asks : operation.Asks self events)
    (effect : machine.Effect w events w') :
    (w'.engine ≠ w.engine ∨ w'.disk ≠ w.disk → operation = .nextFrame ∧ w.state = .trusted) ∧
      (w'.state = .trusted → w.state = .trusted ∨
        ∃ isInitiator, operation = .pairing isInitiator ∧ Confirmed self isInitiator events) := by
  cases operation with
  | nextFrame =>
      obtain ⟨q, run⟩ := asks
      rcases processNextFrame_asks run with harmless | ⟨received, rest, rfl⟩
      · have spared := effect.spared harmless
        exact ⟨fun changed => (changed.elim (· spared.engine) (· spared.disk)).elim,
          fun trusted => .inl (spared.trusted trusted)⟩
      · obtain ⟨_, rfl, _, ⟨found, -⟩, -⟩ := effect
        exact ⟨fun _ => ⟨rfl, found.symm⟩, fun _ => .inl found.symm⟩
  | pairing isInitiator =>
      obtain ⟨q, run⟩ := asks
      rcases executePairing_grants_last run with harmless | ⟨sas, granted, rfl, rfl, harmless⟩
      · have spared := effect.spared harmless
        exact ⟨fun changed => (changed.elim (· spared.engine) (· spared.disk)).elim,
          fun trusted => .inl (spared.trusted trusted)⟩
      · refine ⟨fun changed => ?_, fun _ => .inr ⟨isInitiator, rfl, confirmed_of_returned run effect⟩⟩
        obtain ⟨middle, untilGrant, _, rfl, rfl⟩ := along_append.mp effect
        have spared := Machine.Effect.spared untilGrant harmless
        exact (changed.elim (· spared.engine) (· spared.disk)).elim

/-- A handshake leaves application data alone and starts trusted only on the
    word of the trust store. -/
theorem starts_gated {endpoint : Endpoint} (starts : machine.Starts endpoint w events self w') :
    (w'.engine = w.engine ∧ w'.disk = w.disk) ∧
      (w'.state = .trusted →
        ⟨.isTrusted self.remoteNodeId self.remotePubkey, .ok true⟩ ∈ events) := by
  obtain ⟨-, -, handshake, reached, effect, rfl⟩ := starts
  have consulted : ∀ {nodeId key trust state}, Runs (consultTrustStore nodeId key) trust (.ok state) →
      state = .trusted → ⟨.isTrusted nodeId key, .ok true⟩ ∈ trust := by
    intro nodeId key trust state run trusted
    rcases runs_consultTrustStore_ok.mp run with ⟨_, _, rfl, -⟩ | ⟨-, rfl⟩
    · exact .head _
    · cases trusted
  cases handshake with
  | inl run =>
      have spared := effect.spared (run.allCalls (harmless_of_plain serverHandshake_plain)).1
      obtain ⟨hello, key, nonce, response, trust, state, rfl, -, consulting, rfl⟩ :=
        runs_serverHandshake_ok.mp run
      refine ⟨⟨spared.engine, spared.disk⟩, fun trusted => ?_⟩
      have asked := consulted consulting trusted
      exact .tail _ (.tail _ (.tail _ (.tail _ (.tail _ (.tail _ asked)))))
  | inr run =>
      have spared := effect.spared (run.allCalls clientHandshake_harmless).1
      obtain ⟨nonce, hello, key, signature, result, trust, state, rfl, -, -, consulting, rfl⟩ :=
        runs_clientHandshake_ok.mp run
      refine ⟨⟨spared.engine, spared.disk⟩, fun trusted => ?_⟩
      have asked := consulted consulting trusted
      exact .tail _ (.tail _ (.tail _ (.tail _ (.tail _ (.tail _ asked)))))

/-- Trust that a life did not start with was confirmed in one of its turns. -/
theorem lives_trusted {turns : List (Turn σ)} (life : machine.Lives self w turns w')
    (trusted : w'.state = .trusted) : w.state = .trusted ∨
      ∃ turn ∈ turns, ∃ isInitiator, turn.operation = .pairing isInitiator ∧
        Confirmed self isInitiator turn.events := by
  induction life with
  | start => exact .inl trusted
  | turn life asks effect ih =>
      rcases (turn_gated asks effect).2 trusted with before | ⟨isInitiator, rfl, confirmed⟩
      · rcases ih before with found | ⟨turn, member, reason⟩
        · exact .inl found
        · exact .inr ⟨turn, List.mem_append_left _ member, reason⟩
      · exact .inr ⟨_, List.mem_append_right _ (.head _), isInitiator, rfl, confirmed⟩

theorem lives_turns {turns : List (Turn σ)} (life : machine.Lives self w turns w') :
    ∀ turn ∈ turns, turn.after.engine ≠ turn.before.engine ∨ turn.after.disk ≠ turn.before.disk →
      turn.operation = .nextFrame ∧ turn.before.state = .trusted := by
  induction life with
  | start => simp
  | turn life asks effect ih =>
      intro turn member
      rcases List.mem_append.mp member with earlier | last
      · exact ih turn earlier
      · cases List.mem_singleton.mp last
        exact (turn_gated asks effect).1

end Steps

theorem application_data_gated {machine : Machine σ} {endpoint : Endpoint} {self : ActiveSession}
    {w₀ w w' : World σ} {opening : List SessionEvent} {turns : List (Turn σ)}
    (starts : machine.Starts endpoint w₀ opening self w) (life : machine.Lives self w turns w') :
    (w.engine = w₀.engine ∧ w.disk = w₀.disk) ∧
    (∀ turn ∈ turns, turn.after.engine ≠ turn.before.engine ∨ turn.after.disk ≠ turn.before.disk →
      turn.operation = .nextFrame ∧ turn.before.state = .trusted) ∧
    (w'.state = .trusted →
      ⟨.isTrusted self.remoteNodeId self.remotePubkey, .ok true⟩ ∈ opening ∨
      ∃ turn ∈ turns, ∃ isInitiator, turn.operation = .pairing isInitiator ∧
        Confirmed self isInitiator turn.events) := by
  obtain ⟨untouched, known⟩ := starts_gated starts
  refine ⟨untouched, lives_turns life, fun trusted => ?_⟩
  rcases lives_trusted life trusted with fromStart | confirmed
  · exact .inl (known fromStart)
  · exact .inr confirmed

/-- A peer that greets under its own name and signs the challenge is let in, whatever
    else its greeting says, and trusted if the store trusts it. -/
theorem handshake_of_hello (machine : Machine σ) (endpoint : Endpoint) (peer : IdentityKey)
    (hello : ClientHello) (named : hello.nodeId = peer.nodeId) {w : World σ} {trusted : Bool}
    (known : w.store.isTrusted peer.nodeId peer.publicKey = .ok trusted) :
    ∃ nonce rest, let events := ⟨.recv, .ok (some (.handshake (.clientHello hello)))⟩ ::
          ⟨.host .random, nonce⟩ :: ⟨.send (serverHelloFrame endpoint hello nonce), .ok ()⟩ :: rest
      Runs (serverHandshake endpoint) events (.ok (serverSession endpoint hello peer.publicKey
          (if trusted then .trusted else .authenticatedUntrusted))) ∧
        (trusted = false → ∀ nodeId key, ⟨.isTrusted nodeId key, .ok true⟩ ∉ events) ∧
        machine.Effect w events
          (if trusted then { w with store := w.store.updateLastSeen peer.nodeId 0 } else w) := by
  obtain ⟨version, _, deviceName, clientNonce, capabilities⟩ := hello
  subst named
  let text := handshakeChallenge clientNonce (.fill 32 1)
  have verified := peer.verify_sign (Crypto.sha256 text).bytes
  have accepted : ∀ {trust state}, Runs (consultTrustStore peer.nodeId peer.publicKey) trust (.ok state) →
      Runs (serverHandshake endpoint) _ (.ok _) := fun consulted =>
    runs_serverHandshake_ok.mpr ⟨⟨version, _, deviceName, clientNonce, capabilities⟩, peer.publicKey,
      .fill 32 1, ⟨peer.sign (Crypto.sha256 text).bytes⟩, _, _, rfl, PublicKey.fromBytes_eq_ok.mpr rfl,
      consulted, rfl⟩
  cases trusted with
  | true =>
      have run := accepted (runs_consultTrustStore_ok.mpr (.inl ⟨0, .ok (), rfl, rfl⟩))
      exact ⟨.fill 32 1, _, run, nofun,
        ⟨w, rfl, w, ⟨trivial, rfl⟩, w, rfl, w, rfl, w, ⟨verified.symm, rfl⟩, w, rfl, w,
          ⟨.inl known.symm, rfl⟩, w, ⟨trivial, rfl⟩, _, rfl, rfl⟩⟩
  | false =>
      have run := accepted (runs_consultTrustStore_ok.mpr (.inr ⟨rfl, rfl⟩))
      exact ⟨.fill 32 1, _, run, by simp,
        ⟨w, rfl, w, ⟨trivial, rfl⟩, w, rfl, w, rfl, w, ⟨verified.symm, rfl⟩, w, rfl, w,
          ⟨.inl known.symm, rfl⟩, rfl⟩⟩

theorem handshake_of_signed (machine : Machine σ) (endpoint : Endpoint) (peer : IdentityKey)
    {w : World σ} {trusted : Bool}
    (known : w.store.isTrusted peer.nodeId peer.publicKey = .ok trusted) :
    ∃ events self, Runs (serverHandshake endpoint) events (.ok self) ∧
      self.clipboardEngine = endpoint.clipboardEngine ∧
      self.localIdentity = endpoint.localIdentity ∧ self.remoteNodeId = peer.nodeId ∧
      self.state = (if trusted then .trusted else .authenticatedUntrusted) ∧
      (trusted = false → ∀ nodeId key, ⟨.isTrusted nodeId key, .ok true⟩ ∉ events) ∧
      machine.Effect w events
        (if trusted then { w with store := w.store.updateLastSeen peer.nodeId 0 } else w) := by
  obtain ⟨nonce, rest, run, unlisted, effect⟩ := handshake_of_hello machine endpoint peer
    ⟨.current, peer.nodeId, "laptop", .fill 32 0, .all⟩ rfl known
  exact ⟨_, _, run, rfl, rfl, rfl, rfl, unlisted, effect⟩

theorem starts_of_signed (machine : Machine σ) {endpoint : Endpoint} (peer : IdentityKey)
    (identity : machine.localIdentity = endpoint.localIdentity)
    (directory : machine.receiveDir = endpoint.receiveDir) {w : World σ} {trusted : Bool}
    (known : w.store.isTrusted peer.nodeId peer.publicKey = .ok trusted) :
    ∃ events self, self.clipboardEngine = endpoint.clipboardEngine ∧
      self.localIdentity = endpoint.localIdentity ∧ self.remoteNodeId = peer.nodeId ∧
      machine.Starts endpoint w events self
        (if trusted then { w with state := .trusted, store := w.store.updateLastSeen peer.nodeId 0 }
        else { w with state := .authenticatedUntrusted }) := by
  obtain ⟨events, self, run, enabled, own, remote, state, -, effect⟩ :=
    handshake_of_signed machine endpoint peer known
  refine ⟨events, self, enabled, own, remote, identity, directory, .inl run, _, effect, ?_⟩
  rw [state]
  cases trusted with
  | true => rfl
  | false => rfl

/-- A clipboard frame that finds the session trusted reaches the engine. -/
theorem turn_of_clipboardFrame (machine : Machine σ) {self : ActiveSession} (w : World σ) (df : DataFrame)
    (enabled : self.clipboardEngine = true) (channel : df.channel = DataFrame.channelClipboard)
    (trusted : w.state = .trusted) :
    ∃ events answer, ⟨.clipboardFrame df, answer⟩ ∈ events ∧ Operation.nextFrame.Asks self events ∧
      machine.Effect w events
        { w with engine := (w.engine.handleIncomingFrame machine.blake3 machine.backend df).engine } := by
  let outcome := w.engine.handleIncomingFrame machine.blake3 machine.backend df
  refine ⟨[⟨.recv, .ok (some (.data df))⟩, ⟨.readState, .trusted⟩, ⟨.clipboardFrame df, outcome.result⟩],
    outcome.result, by simp, ⟨.ok true, .ask ?_⟩, w, rfl, w, ⟨trusted.symm, rfl⟩, _, ⟨rfl, rfl⟩, rfl⟩
  have other : DataFrame.channelClipboard ≠ DataFrame.channelPairing := by decide
  change Runs (handleFrame self (.data df)) _ _
  simp only [handleFrame, channel, other, if_false, if_true, enabled]
  exact .ask (.ask (.stop _))

/-- A node meets a peer it knows, which then sends a clipboard frame. -/
theorem exists_trusted_life (machine : Machine σ) (endpoint : Endpoint) (peer : IdentityKey)
    (engine : Clipboard.ClipboardSyncEngine σ) (identity : machine.localIdentity = endpoint.localIdentity)
    (directory : machine.receiveDir = endpoint.receiveDir) (enabled : endpoint.clipboardEngine = true) :
    ∃ w₀ opening self w turns w', machine.Starts endpoint w₀ opening self w ∧
      machine.Lives self w turns w' ∧ turns.length = 1 ∧ w'.state = .trusted := by
  have known := TrustStore.isTrusted_savePeer_self ∅
    (rfl : (⟨peer.nodeId, peer.publicKey, "laptop", .linux, 0, 0, .trusted⟩ : TrustedPeer).trustState = _)
  obtain ⟨opening, self, same, -, -, starts⟩ := starts_of_signed machine peer identity directory
    (w := ⟨.handshaking, _, engine, .empty⟩) known
  obtain ⟨events, -, -, asks, effect⟩ := turn_of_clipboardFrame machine
    ⟨.trusted, TrustStore.updateLastSeen _ peer.nodeId 0, engine, .empty⟩ ⟨DataFrame.channelClipboard, []⟩
    (same.trans enabled) rfl rfl
  exact ⟨_, opening, self, _, _, _, starts, (Machine.Lives.start _).turn asks effect, rfl, rfl⟩

end Lives

section Example

attribute [local instance] transparentCrypto

theorem known_peer_gated :
    let machine : Machine (Option Clipboard.ClipboardContent) :=
      ⟨fun _ => .fill 32 0, Clipboard.memoryBackend, ⟨.fill 32 1⟩, none⟩
    ∃ w₀ opening self w turns w', machine.Starts ⟨⟨.fill 32 1⟩, "node", .windows, true, none⟩
        w₀ opening self w ∧ machine.Lives self w turns w' ∧ turns.length = 1 ∧ w'.state = .trusted ∧
      (⟨.isTrusted self.remoteNodeId self.remotePubkey, .ok true⟩ ∈ opening ∨
        ∃ turn ∈ turns, ∃ isInitiator, turn.operation = .pairing isInitiator ∧
          Confirmed self isInitiator turn.events) := by
  intro machine
  obtain ⟨w₀, opening, self, w, turns, w', starts, life, one, trusted⟩ :=
    exists_trusted_life machine ⟨⟨.fill 32 1⟩, "node", .windows, true, none⟩ ⟨.fill 32 2⟩
      ⟨⟨.fill 32 1⟩, .new 0, .default, none⟩ rfl rfl rfl
  exact ⟨w₀, opening, self, w, turns, w', starts, life, one, trusted,
    (application_data_gated starts life).2.2 trusted⟩

end Example

end BridgeOS.Session
