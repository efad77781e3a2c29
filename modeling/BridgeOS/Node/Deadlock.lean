import BridgeOS.Node.Link

/-! # A command cannot be paired with a node

The node's loop takes the pairing request off the stream and then starts a
ceremony that waits for a pairing request. The command waits for the response.
-/

namespace BridgeOS.Node

open BridgeOS.Session hiding recvFrame
open BridgeOS.Transport Proc

section Ceremonies

variable [Crypto] {σ : Type} {machine : Machine σ} {trusted : Bool}

/-- A trust store that knows the peer or not lets it pass. -/
theorem consult_passes {gone : Prop} {p : Place σ} {nodeId : NodeId} {key : PublicKey}
    (found : p.world.store.isTrusted nodeId key = .ok trusted) :
    ∃ events state world, Runs (consultTrustStore nodeId key) events (.ok state) ∧
      Along (Carries machine gone) p (events.map sessionEvent) { p with world } := by
  cases trusted with
  | true =>
      have updated : Carries machine gone p ⟨.session (.updateLastSeen nodeId 0), .ok ()⟩
          { p with world := { p.world with store := p.world.store.updateLastSeen nodeId 0 } } :=
        .inr ⟨id, _, rfl, rfl⟩
      exact ⟨_, _, _, runs_consultTrustStore_ok.mpr (.inl ⟨0, .ok (), rfl, rfl⟩),
        _, carries_isTrusted found, _, carries_host trivial, _, updated, rfl⟩
  | false =>
      exact ⟨_, _, p.world, runs_consultTrustStore_ok.mpr (.inr ⟨rfl, rfl⟩),
        _, carries_isTrusted found, rfl⟩

namespace Setup

variable (setup : Setup σ)

def clientHello : ClientHello :=
  ⟨.current, setup.initiator.localIdentity.nodeId, setup.initiator.localName, .fill 32 0, .all⟩

def helloFrame : Frame := .handshake (.clientHello setup.clientHello)

def serverHello : ServerHello :=
  ⟨.current, setup.node.localIdentity.nodeId, setup.node.localName, .fill 32 1,
    setup.clientHello.capabilities.intersect .all⟩

def answerFrame : Frame := .handshake (.serverHello setup.serverHello)

def challenge : Bytes := handshakeChallenge (.fill 32 0) (.fill 32 1)

def signature : FixedBytes 64 := setup.initiator.localIdentity.sign (Crypto.sha256 challenge).bytes

def proofFrame : Frame := .handshake (.authResponse ⟨setup.signature⟩)

def verdictFrame : Frame := .handshake (.authResult .accepted)

/-- The client's questions up to the one to its trust store, in the three parts in
    which it takes turns with the server. -/
def greets : List SessionEvent :=
  [⟨.host .random, .fill 32 0⟩, ⟨.send setup.helloFrame, .ok ()⟩]

def proves : List SessionEvent :=
  [⟨.recv, .ok (some setup.answerFrame)⟩, ⟨.host (.sign challenge), setup.signature⟩,
    ⟨.send setup.proofFrame, .ok ()⟩]

def hearsVerdict : List SessionEvent := [⟨.recv, .ok (some verdictFrame)⟩]

/-- The server's, in two parts. -/
def answers : List SessionEvent :=
  [⟨.recv, .ok (some setup.helloFrame)⟩, ⟨.host .random, .fill 32 1⟩, ⟨.send setup.answerFrame, .ok ()⟩]

def accepts : List SessionEvent :=
  [⟨.recv, .ok (some setup.proofFrame)⟩,
    ⟨.host (.verify setup.initiator.localIdentity.publicKey challenge setup.signature), .ok ()⟩,
    ⟨.send verdictFrame, .ok ()⟩]

/-- What is left of the handshakes when the trust stores are asked. -/
def clientConsults : SessionProc ActiveSession := do
  let state ← consultTrustStore setup.node.localIdentity.nodeId setup.node.localIdentity.publicKey
  return clientSession setup.initiator setup.serverHello setup.node.localIdentity.publicKey state

def serverConsults : SessionProc ActiveSession := do
  let state ← consultTrustStore setup.initiator.localIdentity.nodeId
    setup.initiator.localIdentity.publicKey
  return serverSession setup.node setup.clientHello setup.initiator.localIdentity.publicKey state

theorem fromBytes_own (key : IdentityKey) : PublicKey.fromBytes key.nodeId.bytes = .ok key.publicKey :=
  PublicKey.fromBytes_eq_ok.mpr rfl

theorem client_consults : Runs (clientHandshake setup.initiator)
    (setup.greets ++ (setup.proves ++ hearsVerdict)) setup.clientConsults := by
  have greeted : Runs (clientHandshake setup.initiator) _ _ :=
    (runs_exchangeHellos_ok.mpr rfl).bind (q := .ok (.fill 32 0, setup.serverHello)) _
  refine greeted.append ?_
  simp only [ok_bind, serverHello, fromBytes_own, orFail_ok, onHost, signHandshakeChallenge,
    lift_request, ask_bind]
  exact .ask (.ask (.ask (.stop _)))

theorem server_consults : Runs (serverHandshake setup.node)
    (setup.answers ++ setup.accepts) setup.serverConsults := by
  simp only [serverHandshake, Session.recvFrame, sendFrame, request_bind, ask_bind]
  refine .ask ?_
  simp only [pure_eq, ok_bind, helloFrame, clientHello, fromBytes_own, orFail_ok]
  refine .ask (.ask (.ask ?_))
  simp only [ok_bind, onHost, verifyHandshakeChallenge, lift_request, ask_bind]
  exact .ask (.ask (.stop _))

/-- The two tasks when the trust stores are asked. -/
def initiatorConsults : Task :=
  onSession "Cryptographic authentication handshake failed" setup.clientConsults >>= initiate

def nodeConsults : Task := onSession "Handshake failed" setup.serverConsults >>= enterLoop

theorem runPair_consults : Runs (runPair setup.initiator)
    (setup.greets.map sessionEvent ++ (setup.proves.map sessionEvent ++ hearsVerdict.map sessionEvent))
    setup.initiatorConsults := by
  have run := (runs_onSession "Cryptographic authentication handshake failed"
    setup.client_consults).bind initiate
  rwa [List.map_append, List.map_append] at run

theorem handleConnection_consults : Runs (handleConnection setup.node)
    (setup.answers.map sessionEvent ++ setup.accepts.map sessionEvent) setup.nodeConsults := by
  have run := (runs_onSession "Handshake failed" setup.server_consults).bind enterLoop
  rwa [List.map_append] at run

theorem encodeFrame_proofFrame : ∃ bytes, encodeFrame setup.proofFrame = .ok bytes :=
  exists_encodeFrame (le_trans (length_encode_authResponse _) (by decide))

omit [Crypto] in
theorem encodeFrame_verdictFrame : ∃ bytes, encodeFrame verdictFrame = .ok bytes := ⟨_, rfl⟩

variable {setup}

/-- Both greetings fit into frames: the handshakes come to the trust stores. -/
theorem handshake_steps {client after : Task} {bytes bytes' : Bytes} {w w' : World σ}
    (run : Runs client (setup.greets.map sessionEvent ++
      (setup.proves.map sessionEvent ++ hearsVerdict.map sessionEvent)) after)
    (fits : encodeFrame setup.helloFrame = .ok bytes) (fits' : encodeFrame setup.answerFrame = .ok bytes') :
    setup.Steps ⟨client.resume connectionRound, handleConnection setup.node, w, w', [], []⟩
      ⟨after.resume connectionRound, setup.nodeConsults, w, w', [], []⟩ := by
  obtain ⟨m, greets, later⟩ := run.split
  obtain ⟨m', proves, hears⟩ := later.split
  obtain ⟨n, answers, accepts⟩ := setup.handleConnection_consults.split
  obtain ⟨_, proofFits⟩ := setup.encodeFrame_proofFrame
  obtain ⟨_, verdictFits⟩ := encodeFrame_verdictFrame
  have verified : HostCall.Honest setup.node.localIdentity
      (.verify setup.initiator.localIdentity.publicKey challenge setup.signature) (.ok ()) :=
    (setup.initiator.localIdentity.verify_sign _).symm
  refine (initiator_runs greets ⟨_, carries_host trivial, _, carries_sent fits, rfl⟩).trans ?_
  refine (node_runs (p := handleConnection setup.node) answers
    ⟨_, carries_recv rfl, _, carries_host trivial, _, carries_sent fits', rfl⟩).trans ?_
  refine (initiator_runs proves
    ⟨_, carries_recv rfl, _, carries_host rfl, _, carries_sent proofFits, rfl⟩).trans ?_
  refine (node_runs accepts
    ⟨_, carries_recv rfl, _, carries_host verified, _, carries_sent verdictFits, rfl⟩).trans ?_
  exact initiator_runs hears ⟨_, carries_recv rfl, rfl⟩

theorem reachable_consulting {bytes bytes' : Bytes} (fits : encodeFrame setup.helloFrame = .ok bytes)
    (fits' : encodeFrame setup.answerFrame = .ok bytes') :
    setup.Reachable ⟨setup.initiatorConsults, setup.nodeConsults, setup.initiatorWorld,
      setup.nodeWorld, [], []⟩ :=
  handshake_steps setup.runPair_consults fits fits'

end Setup

/-- A session that was let in goes to the loop. -/
theorem enterLoop_selects {gone : Prop} (session : ActiveSession) (p : Place σ) :
    ∃ events world, Runs (enterLoop session) events (.ok (.inl (session, .select))) ∧
      Along (Carries machine gone) p events { p with world } := by
  have registered : ∀ q : Place σ, Carries machine gone q ⟨.register session.remoteNodeId, ()⟩ q :=
    fun q => .inr ⟨id, q.world, rfl, rfl⟩
  unfold enterLoop
  cases trusted : session.state.isTrusted with
  | true =>
      exact ⟨_, _, .ask (.ask (.stop _)), _, carries_setState session.state, _, registered _, rfl⟩
  | false => exact ⟨_, _, .ask (.stop _), _, carries_setState session.state, rfl⟩

/-- The first message of a ceremony. -/
def requestFrame (session : ActiveSession) : Frame :=
  .data (PairingMessage.request ⟨session.localIdentity.nodeId, session.localIdentity.publicKey.bytes,
    session.localName, session.localDeviceType, .fill 32 2, 0⟩).toDataFrame

theorem length_encode_requestFrame (session : ActiveSession) :
    (Frame.codec.encode (requestFrame session)).length ≤ (utf8 session.localName).length + 140 :=
  (length_encode_data _).2.trans (Nat.add_le_add_right (PairingMessage.length_encode_request _) 18)

/-- What the initiator asks before it sends that message. -/
def opensCeremony (session : ActiveSession) : List NodeEvent :=
  [⟨.session (.setState session.state), ()⟩, ⟨.session (.setState .pairing), ()⟩,
    ⟨.session (.host .random), .fill 32 2⟩, ⟨.session (.host .now), (0 : UInt64)⟩]

theorem opensCeremony_carried {gone : Prop} (session : ActiveSession) (p : Place σ) :
    ∃ world, Along (Carries machine gone) p (opensCeremony session) { p with world } :=
  ⟨_, _, carries_setState _, _, carries_setState _, _, carries_host trivial, _, carries_host trivial, rfl⟩

/-- It sends the request and waits for the response. -/
theorem initiate_waits (session : ActiveSession) : ∃ next, Runs (initiate session)
    (opensCeremony session ++ [⟨.session (.send (requestFrame session)), .ok ()⟩])
    (.ask (.session (.recvData DataFrame.channelPairing)) next) :=
  ⟨_, .ask (.ask (.ask (.ask (.ask (.stop _)))))⟩

/-- The loop takes the request, and the ceremony it starts waits for another one. -/
theorem selecting_waits (self session : ActiveSession) : ∃ next, Runs (connectionRound (self, .select))
    [⟨.select, .inbound (.ok (some (requestFrame session)))⟩, ⟨.session (.setState .pairing), ()⟩]
    (.ask (.session (.recvData DataFrame.channelPairing)) next) :=
  ⟨_, .ask (.ask (.stop _))⟩

namespace Setup

variable {setup : Setup σ} {w w' : World σ} {other : Task}

/-- The session the initiator gets out of the handshake. -/
def initiatorSession (setup : Setup σ) (state : SessionState) : ActiveSession :=
  clientSession setup.initiator setup.serverHello setup.node.localIdentity.publicKey state

theorem node_passes (reach : setup.Reachable ⟨other, setup.nodeConsults, w, w', [], []⟩)
    (found : w'.store.isTrusted setup.initiator.localIdentity.nodeId setup.initiator.localIdentity.publicKey =
      .ok trusted) :
    ∃ session world, setup.Reachable ⟨other, connectionRound (session, .select), w, world, [], []⟩ := by
  obtain ⟨events, state, world, run, carried⟩ := consult_passes (p := ⟨w', [], []⟩) found
  have admitted := reach.trans (node_runs (p := setup.nodeConsults)
    ((runs_onSession "Handshake failed" (run.bind _)).bind enterLoop) carried)
  let session := serverSession setup.node setup.clientHello setup.initiator.localIdentity.publicKey state
  obtain ⟨events', world', run', carried'⟩ := enterLoop_selects session ⟨world, [], []⟩
  exact ⟨session, world', admitted.trans (node_runs (p := enterLoop session) run' carried')⟩

theorem initiator_passes (reach : setup.Reachable ⟨setup.initiatorConsults, other, w, w', [], []⟩)
    (found : w.store.isTrusted setup.node.localIdentity.nodeId setup.node.localIdentity.publicKey = .ok trusted) :
    ∃ state world,
      setup.Reachable ⟨initiate (setup.initiatorSession state), other, world, w', [], []⟩ := by
  obtain ⟨events, state, world, run, carried⟩ := consult_passes (p := ⟨w, [], []⟩) found
  exact ⟨state, world, reach.trans (initiator_runs (p := setup.initiatorConsults)
    ((runs_onSession "Cryptographic authentication handshake failed" (run.bind _)).bind initiate) carried)⟩

/-- The request goes out, the loop swallows it, and both sides wait. -/
theorem exists_deadlock {self session : ActiveSession} {bytes : Bytes}
    (reach : setup.Reachable ⟨initiate session, connectionRound (self, .select), w, w', [], []⟩)
    (fits : encodeFrame (requestFrame session) = .ok bytes) :
    ∃ l, setup.Reachable l ∧ setup.Deadlocked l := by
  obtain ⟨next, sends⟩ := initiate_waits session
  obtain ⟨next', takes⟩ := selecting_waits self session
  obtain ⟨world, opened⟩ := opensCeremony_carried session ⟨w, [], []⟩
  have requested := reach.trans (initiator_runs (p := initiate session) sends
    (along_append.mpr ⟨_, opened, _, carries_sent fits, rfl⟩))
  have taken := requested.trans (node_runs (p := connectionRound (self, .select)) takes
    ⟨_, carries_select rfl, _, carries_setState _, rfl⟩)
  exact ⟨_, taken, deadlocked_of_waiting⟩

variable (setup) in
/-- Neither trust store refuses the other device, and no name makes one of the three
    messages that carry it too long for a frame. -/
structure Meets : Prop where
  hello : ∃ bytes, encodeFrame setup.helloFrame = .ok bytes
  answer : ∃ bytes, encodeFrame setup.answerFrame = .ok bytes
  request : ∃ bytes, encodeFrame (requestFrame (setup.initiatorSession .pairing)) = .ok bytes
  nodeAdmits : ∃ trusted, setup.nodeWorld.store.isTrusted setup.initiator.localIdentity.nodeId
    setup.initiator.localIdentity.publicKey = .ok trusted
  initiatorAdmits : ∃ trusted, setup.initiatorWorld.store.isTrusted setup.node.localIdentity.nodeId
    setup.node.localIdentity.publicKey = .ok trusted

/-- Whatever the endpoints and their trust stores: a command and a node that get as
    far as the ceremony can both come to wait for the other. -/
theorem pairing_deadlocks (meets : setup.Meets) : ∃ l, setup.Reachable l ∧ setup.Deadlocked l := by
  obtain ⟨_, hello⟩ := meets.hello
  obtain ⟨_, answer⟩ := meets.answer
  obtain ⟨_, request⟩ := meets.request
  obtain ⟨_, knows⟩ := meets.nodeAdmits
  obtain ⟨_, known⟩ := meets.initiatorAdmits
  obtain ⟨self, _, selecting⟩ := node_passes (reachable_consulting hello answer) knows
  obtain ⟨state, _, initiating⟩ := initiator_passes selecting known
  exact exists_deadlock initiating request

end Setup

end Ceremonies

section Example

attribute [local instance] transparentCrypto

/-- A laptop with this trust store and a node that was just installed. -/
def exampleSetup (store : TrustStore) : Setup (Option Clipboard.ClipboardContent) :=
  let engine : Clipboard.ClipboardSyncEngine _ := ⟨⟨.fill 32 1⟩, .new 0, .default, none⟩
  ⟨fun _ => .fill 32 0, Clipboard.memoryBackend, ⟨⟨.fill 32 1⟩, "laptop", .windows, false, none⟩,
    ⟨⟨.fill 32 2⟩, "desktop", .windows, true, none⟩, ⟨.handshaking, store, engine, .empty⟩,
    ⟨.handshaking, ∅, engine, .empty⟩⟩

theorem exampleSetup_meets (store : TrustStore)
    (admits : store.isTrusted (exampleSetup store).node.localIdentity.nodeId (exampleSetup
      store).node.localIdentity.publicKey = .ok trusted) : (exampleSetup store).Meets := by
  have answer : (Frame.codec.encode (exampleSetup ∅).answerFrame).length ≤ maxFrameLength := by
    decide +kernel
  have request := (length_encode_requestFrame ((exampleSetup store).initiatorSession .pairing)).trans
    (show (utf8 "laptop").length + 140 ≤ maxFrameLength by decide)
  exact ⟨⟨_, rfl⟩, exists_encodeFrame answer, exists_encodeFrame request, ⟨_, rfl⟩, _, admits⟩

/-- A laptop that has paired with the node before and was forgotten by it. -/
theorem known_node_deadlocks :
    let node := (exampleSetup ∅).node.localIdentity
    let setup := exampleSetup (TrustStore.savePeer ∅
      ⟨node.nodeId, node.publicKey, "desktop", .windows, 0, 0, .trusted⟩)
    setup.Meets ∧ ∃ l, setup.Reachable l ∧ setup.Deadlocked l := by
  intro node setup
  have meets : setup.Meets := exampleSetup_meets _ (TrustStore.isTrusted_savePeer_self ∅ rfl)
  exact ⟨meets, Setup.pairing_deadlocks meets⟩

/-- Two fresh installations: the ceremony never gets to the users. -/
theorem fresh_pairing_deadlocks :
    ∃ l, (exampleSetup ∅).Reachable l ∧ (exampleSetup ∅).Deadlocked l := by
  obtain ⟨⟨_, hello⟩, ⟨_, answer⟩, ⟨_, request⟩, -, -⟩ := exampleSetup_meets ∅ rfl
  obtain ⟨self, _, selecting⟩ := Setup.node_passes (Setup.reachable_consulting hello answer) rfl
  obtain ⟨state, _, initiating⟩ := Setup.initiator_passes selecting rfl
  exact Setup.exists_deadlock initiating request

end Example

end BridgeOS.Node
