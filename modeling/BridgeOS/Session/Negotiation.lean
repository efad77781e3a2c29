import BridgeOS.Clipboard.Monitor
import BridgeOS.Session.Gating

/-! # What is negotiated and what is enforced

Both greetings carry a version and a mask of capabilities. The handshakes pass
them on and decide nothing by them: which application frames a session processes
depends on what its endpoint was given, not on the mask.
-/

namespace BridgeOS.Session

open Proc BridgeOS.Transfer BridgeOS.Clipboard Capabilities

section Negotiation

variable [Crypto] {σ : Type}

/-- The side of the handshake a session was made on. -/
inductive Part where
  | server
  | client
  deriving DecidableEq

/-- What a `ClientHello` offers and a `ServerHello` replies. -/
structure PeerTerms where
  version : ProtocolVersion
  capabilities : Capabilities

namespace Part

def handshake (endpoint : Endpoint) : Part → SessionProc ActiveSession
  | .server => serverHandshake endpoint
  | .client => clientHandshake endpoint

/-- The terms in the peer's greeting. -/
def Greeted (opening : List SessionEvent) (terms : PeerTerms) : Part → Prop
  | .server => ∃ hello, ⟨.recv, .ok (some (.handshake (.clientHello hello)))⟩ ∈ opening ∧
      terms = ⟨hello.version, hello.capabilities⟩
  | .client => ∃ hello, ⟨.recv, .ok (some (.handshake (.serverHello hello)))⟩ ∈ opening ∧
      terms = ⟨hello.agreedVersion, hello.negotiatedCapabilities⟩

/-- The `ServerHello` of the opening, sent or received. -/
def Settled (opening : List SessionEvent) (hello : ServerHello) : Part → Prop
  | .server => ⟨.send (.handshake (.serverHello hello)), .ok ()⟩ ∈ opening
  | .client => ⟨.recv, .ok (some (.handshake (.serverHello hello)))⟩ ∈ opening

end Part

/-- The machine an endpoint runs on. -/
def Endpoint.machine (endpoint : Endpoint) (blake3 : Bytes → FixedBytes 32)
    (backend : ClipboardBackend σ) : Machine σ :=
  ⟨blake3, backend, endpoint.localIdentity, endpoint.receiveDir⟩

/-- A whole session: the handshake of one side and all that came after it. -/
def Machine.Converses (machine : Machine σ) (endpoint : Endpoint) (part : Part)
    (opening : List SessionEvent) (turns : List (Turn σ)) : Prop :=
  ∃ w₀ self w w', machine.Starts endpoint w₀ opening self w ∧
    Runs (part.handshake endpoint) opening (.ok self) ∧ machine.Lives self w turns w'

/-- The flag for a content; HTML is text. -/
def contentFlag : ClipboardContent → UInt32
  | .image _ _ _ _ => clipboardImage
  | _ => clipboardText

/-- The mask has what this question needs: a clipboard frame goes to the engine, an
    offer opens a receiver. -/
def Covers (mask : Capabilities) : Call → Prop
  | .clipboardFrame frame =>
      match ClipboardMessage.fromDataFrame frame with
      | .ok (.sync entry) => mask.contains (contentFlag entry.content) = true
      -- a clear, an ack or what cannot be read has no content
      | _ => mask.contains clipboardText = true ∨ mask.contains clipboardImage = true
  | .openReceiver _ => mask.contains fileTransfer = true
  | _ => True

/-- Every session opened under these terms has a version that is compatible with ours
    and processes only what the mask in the `ServerHello` covers. -/
def Enforced (machine : Machine σ) (endpoint : Endpoint) (part : Part) (terms : PeerTerms) : Prop :=
  ∀ opening turns, machine.Converses endpoint part opening turns → part.Greeted opening terms →
    ProtocolVersion.current.isCompatibleWith terms.version = true ∧
      ∀ hello, part.Settled opening hello → ∀ turn ∈ turns, ∀ event ∈ turn.events,
        Covers hello.negotiatedCapabilities event.call

/-- The session was given what this question is put to. -/
def Call.Equipped (self : ActiveSession) : Call → Prop
  | .clipboardFrame _ => self.clipboardEngine = true
  | .openReceiver _ => self.receiveDir.isSome = true
  | _ => True

section Equipment

variable {self : ActiveSession} {events : List SessionEvent}

theorem equipped_of_harmless {c : Call} (harmless : c.Harmless) : c.Equipped self := by
  cases c with
  | clipboardFrame frame => exact harmless.elim
  | openReceiver manifest => exact harmless.elim
  | _ => trivial

theorem equipped_of_serves (c : Call) (serves : c.Serves self True) : c.Equipped self := by
  cases c with
  | clipboardFrame frame => exact serves.2
  | openReceiver manifest => exact serves.2
  | _ => trivial

theorem asks_equipped {operation : Operation} (asks : operation.Asks self events) :
    ∀ event ∈ events, event.call.Equipped self := by
  cases operation with
  | nextFrame =>
      obtain ⟨q, run⟩ := asks
      exact (run.allCalls ((processNextFrame_serves fun _ => True).allCalls.mono equipped_of_serves)).1
  | pairing isInitiator =>
      obtain ⟨q, run⟩ := asks
      rcases executePairing_grants_last run with harmless | ⟨sas, granted, -, rfl, harmless⟩
      · exact fun event member => equipped_of_harmless (harmless event member)
      · exact List.forall_mem_append.mpr
          ⟨fun event member => equipped_of_harmless (harmless event member),
            List.forall_mem_singleton.mpr trivial⟩

theorem lives_equipped {machine : Machine σ} {w w' : World σ} {turns : List (Turn σ)}
    (life : machine.Lives self w turns w') :
    ∀ turn ∈ turns, ∀ event ∈ turn.events, event.call.Equipped self := by
  induction life with
  | start => simp
  | turn life asks effect ih =>
      exact List.forall_mem_append.mpr ⟨ih, List.forall_mem_singleton.mpr (asks_equipped asks)⟩

end Equipment

/-- A session has what its endpoint has, and its `ServerHello` the flags of the peer's
    mask: the server's own mask is full. -/
theorem settled_of_handshake {endpoint : Endpoint} {part : Part} {opening : List SessionEvent}
    {self : ActiveSession} {terms : PeerTerms} {hello : ServerHello}
    (run : Runs (part.handshake endpoint) opening (.ok self)) (greeted : part.Greeted opening terms)
    (settled : part.Settled opening hello) :
    self.clipboardEngine = endpoint.clipboardEngine ∧ self.receiveDir = endpoint.receiveDir ∧
      ∀ flag, Capabilities.all.flags &&& flag = flag →
        hello.negotiatedCapabilities.contains flag = terms.capabilities.contains flag := by
  cases part with
  | server =>
      obtain ⟨offer, key, nonce, response, trust, state, rfl, -, consulted, rfl⟩ :=
        runs_serverHandshake_ok.mp run
      obtain ⟨offer', received, rfl⟩ := greeted
      rcases runs_consultTrustStore_ok.mp consulted with ⟨_, _, rfl, -⟩ | ⟨rfl, -⟩
      all_goals
        simp [Part.Settled, serverHelloFrame] at received settled
        subst received settled
        exact ⟨rfl, rfl, fun flag known => contains_intersect known⟩
  | client =>
      obtain ⟨nonce, reply, key, signature, result, trust, state, rfl, -, -, consulted, rfl⟩ :=
        runs_clientHandshake_ok.mp run
      obtain ⟨reply', received, rfl⟩ := greeted
      rcases runs_consultTrustStore_ok.mp consulted with ⟨_, _, rfl, -⟩ | ⟨rfl, -⟩
      all_goals
        simp [Part.Settled] at received settled
        subst received settled
        exact ⟨rfl, rfl, fun _ _ => rfl⟩

/-- An offer that finds the session trusted opens a receiver. -/
theorem turn_of_offer (machine : Machine σ) {self : ActiveSession} (w : World σ) {dir : PathBuf}
    {manifest : FileManifest} (given : self.receiveDir = some dir) (directory : machine.receiveDir = some dir)
    (trusted : w.state = .trusted)
    (decoded : TransferMessage.fromBytes (TransferMessage.offer manifest).toBytes = .ok (.offer manifest)) :
    ∃ events answer, ⟨.openReceiver manifest, answer⟩ ∈ events ∧ Operation.nextFrame.Asks self events ∧
      ∃ w', machine.Effect w events w' := by
  let receiver := (FileReceiver.toDir w.disk dir manifest).1
  let df := (TransferMessage.offer manifest).toDataFrame
  let reply := (TransferMessage.accept receiver.manifest.fileId receiver.nextExpectedChunk).toDataFrame
  refine ⟨[⟨.recv, .ok (some (.data df))⟩, ⟨.readState, .trusted⟩, ⟨.openReceiver manifest, .ok receiver⟩,
      ⟨.send (.data reply), .ok ()⟩],
    .ok receiver, by simp, ⟨.ok true, .ask ?_⟩, _, w, rfl, w, ⟨trusted.symm, rfl⟩, _,
    ⟨dir, directory, rfl, rfl⟩, _, rfl, rfl⟩
  change Runs (handleFrame self (.data df)) _ _
  have pairing : DataFrame.channelFileTransfer ≠ DataFrame.channelPairing := by decide
  have clipboard : DataFrame.channelFileTransfer ≠ DataFrame.channelClipboard := by decide
  have channel : df.channel = DataFrame.channelFileTransfer := rfl
  have payload : TransferMessage.fromBytes df.payload = .ok (.offer manifest) := decoded
  simp only [handleFrame, channel, pairing, clipboard, if_false, if_true, given, Option.isSome_some,
    handleFileTransferFrame, payload, orFail_ok, ok_bind]
  exact .ask (.ask (.ask (.stop _)))

/-- With both flags, every clipboard frame is covered. -/
theorem covers_clipboardFrame {mask : Capabilities} (text : mask.contains clipboardText = true)
    (image : mask.contains clipboardImage = true) (frame : DataFrame) :
    Covers mask (.clipboardFrame frame) := by
  simp only [Covers]
  split
  · rename_i entry _
    rcases entry.content with _ | _ | _
    · exact text
    · exact text
    · exact image
  · exact .inl text

/-- An entry with this content, and the frame that carries it. -/
def entryOf (content : ClipboardContent) : ClipboardEntry :=
  ⟨⟨⟨.fill 32 0⟩, 0, 0, .fill 32 0, content.format, 0, false⟩, content⟩

def entryFrame (content : ClipboardContent) : DataFrame := (ClipboardMessage.sync (entryOf content)).toDataFrame

omit [Crypto] in
theorem fromDataFrame_entryFrame {content : ClipboardContent}
    (short : (ClipboardMessage.codec.encode (.sync (entryOf content))).length < 2 ^ 64) :
    ClipboardMessage.fromDataFrame (entryFrame content) = .ok (.sync (entryOf content)) :=
  ClipboardMessage.fromDataFrame_toDataFrame short

section Conversations

variable (blake3 : Bytes → FixedBytes 32) (backend : ClipboardBackend σ)
  (engine : ClipboardSyncEngine σ) (endpoint : Endpoint) (part : Part) (terms : PeerTerms)

include engine

/-- Whatever the terms, a peer that the store trusts can open a session under them. -/
theorem exists_opening : ∃ w₀ opening self w hello,
    (endpoint.machine blake3 backend).Starts endpoint w₀ opening self w ∧
      Runs (part.handshake endpoint) opening (.ok self) ∧ part.Greeted opening terms ∧
      part.Settled opening hello ∧ w.state = .trusted := by
  let peer := endpoint.localIdentity
  let machine := endpoint.machine blake3 backend
  let saved : TrustedPeer := ⟨peer.nodeId, peer.publicKey, "laptop", .linux, 0, 0, .trusted⟩
  have known := TrustStore.isTrusted_savePeer_self ∅ (rfl : saved.trustState = _)
  let w : World σ := ⟨.handshaking, TrustStore.savePeer ∅ saved, engine, .empty⟩
  cases part with
  | server =>
      obtain ⟨nonce, rest, run, -, effect⟩ := handshake_of_hello machine endpoint peer
        ⟨terms.version, peer.nodeId, "laptop", .fill 32 0, terms.capabilities⟩ rfl (w := w) known
      exact ⟨w, _, _, _, _, ⟨rfl, rfl, .inl run, _, effect, rfl⟩, run,
        ⟨_, .head _, rfl⟩, .tail _ (.tail _ (.head _)), rfl⟩
  | client =>
      let hello : ServerHello := ⟨terms.version, peer.nodeId, "laptop", .fill 32 1, terms.capabilities⟩
      let signature := peer.sign (Crypto.sha256 (handshakeChallenge (.fill 32 0) hello.serverNonce)).bytes
      have run : Runs (clientHandshake endpoint) _ (.ok _) := runs_clientHandshake_ok.mpr
        ⟨.fill 32 0, hello, peer.publicKey, signature, .accepted, _, _, rfl, PublicKey.fromBytes_eq_ok.mpr rfl, rfl,
          runs_consultTrustStore_ok.mpr (.inl ⟨0, .ok (), rfl, rfl⟩), rfl⟩
      exact ⟨w, _, _, _, hello, ⟨rfl, rfl, .inr run, _,
          ⟨w, ⟨trivial, rfl⟩, w, rfl, w, rfl, w, ⟨rfl, rfl⟩, w, rfl, w, rfl, w, ⟨.inl known.symm, rfl⟩, w,
            ⟨trivial, rfl⟩, _, rfl, rfl⟩, rfl⟩, run, ⟨hello, by simp, rfl⟩,
        by simp [Part.Settled], rfl⟩

/-- A session opened under these terms goes on to process what its endpoint is equipped for. -/
theorem exists_conversation {c : Call} (asks : ∀ self w, self.clipboardEngine = endpoint.clipboardEngine →
      self.receiveDir = endpoint.receiveDir → w.state = .trusted → ∃ events answer,
        ⟨c, answer⟩ ∈ events ∧ Operation.nextFrame.Asks self events ∧
          ∃ w', (endpoint.machine blake3 backend).Effect w events w') :
    ∃ opening hello turn answer, (endpoint.machine blake3 backend).Converses endpoint part opening [turn] ∧
      part.Greeted opening terms ∧ part.Settled opening hello ∧ ⟨c, answer⟩ ∈ turn.events ∧
      ∀ flag, Capabilities.all.flags &&& flag = flag →
        hello.negotiatedCapabilities.contains flag = terms.capabilities.contains flag := by
  obtain ⟨w₀, opening, self, w, hello, starts, run, greeted, settled, trusted⟩ :=
    exists_opening blake3 backend engine endpoint part terms
  obtain ⟨clipboard, directory, flags⟩ := settled_of_handshake run greeted settled
  obtain ⟨events, answer, asked, turn, w', effect⟩ := asks self w clipboard directory trusted
  exact ⟨opening, hello, _, answer, ⟨w₀, self, w, w', starts, run, (Machine.Lives.start w).turn turn effect⟩,
    greeted, settled, asked, flags⟩

theorem negotiation_enforced_iff :
    Enforced (endpoint.machine blake3 backend) endpoint part terms ↔
      ProtocolVersion.current.isCompatibleWith terms.version = true ∧
      (endpoint.clipboardEngine = true → terms.capabilities.contains clipboardText = true ∧
        terms.capabilities.contains clipboardImage = true) ∧
      (endpoint.receiveDir.isSome = true →
        terms.capabilities.contains fileTransfer = true) := by
  constructor
  · intro enforced
    refine ⟨?_, fun enabled => ?_, fun given => ?_⟩
    · obtain ⟨w₀, opening, self, w, hello, starts, run, greeted, -, -⟩ :=
        exists_opening blake3 backend engine endpoint part terms
      exact (enforced opening [] ⟨w₀, self, w, w, starts, run, .start w⟩ greeted).1
    · have covered : ∀ content, ClipboardMessage.fromDataFrame (entryFrame content) =
            .ok (.sync (entryOf content)) → Capabilities.all.flags &&& contentFlag content = contentFlag content →
          terms.capabilities.contains (contentFlag content) = true := by
        intro content decoded known
        obtain ⟨opening, hello, turn, answer, converses, greeted, settled, asked, flags⟩ :=
          exists_conversation blake3 backend engine endpoint part terms fun self w same _ trusted =>
            have ⟨events, answer, asked, turn, effect⟩ := turn_of_clipboardFrame _ w (entryFrame content)
              (same.trans enabled) rfl trusted
            ⟨events, answer, asked, turn, _, effect⟩
        have covered := (enforced opening _ converses greeted).2 hello settled turn (.head _) _ asked
        rw [Covers, decoded] at covered
        rwa [← flags _ known]
      exact ⟨covered (.text "") (fromDataFrame_entryFrame (by decide +kernel)) (by decide),
        covered (.image .png [] 0 0) (fromDataFrame_entryFrame (by decide +kernel)) (by decide)⟩
    · obtain ⟨dir, given⟩ := Option.isSome_iff_exists.mp given
      let manifest : FileManifest := ⟨"", "", 0, 0, .fill 32 0⟩
      have short := TransferMessage.length_encode_le (.offer manifest)
      obtain ⟨opening, hello, turn, answer, converses, greeted, settled, asked, flags⟩ :=
        exists_conversation blake3 backend engine endpoint part terms fun self w _ same trusted =>
          turn_of_offer _ w (same.trans given) given trusted
            (TransferMessage.fromBytes_toBytes (lt_of_le_of_lt short (by decide)))
      have covered := (enforced opening _ converses greeted).2 hello settled turn (.head _) _ asked
      rw [← flags _ (by decide)]
      exact covered
  · rintro ⟨compatible, clipboard, transfer⟩ opening turns ⟨w₀, self, w, w', -, run, life⟩ greeted
    refine ⟨compatible, fun hello settled turn member event asked => ?_⟩
    obtain ⟨sameEngine, sameDir, flags⟩ := settled_of_handshake run greeted settled
    have equipped := lives_equipped life turn member event asked
    obtain ⟨call, answer⟩ := event
    cases call with
    | clipboardFrame df =>
        obtain ⟨text, image⟩ := clipboard (sameEngine.symm.trans equipped)
        rw [← flags _ (by decide)] at text image
        exact covers_clipboardFrame text image df
    | openReceiver manifest =>
        show _ = true
        rw [flags _ (by decide)]
        exact transfer (sameDir ▸ equipped)
    | _ => trivial

end Conversations

end Negotiation

section Example

attribute [local instance] transparentCrypto

/-- A client of version 2.0 that asks for images only is let in, and its text goes to
    the engine. -/
theorem future_client_is_served :
    let endpoint : Endpoint := ⟨⟨.fill 32 1⟩, "node", .windows, true, none⟩
    let machine := endpoint.machine (fun _ => .fill 32 0) memoryBackend
    ProtocolVersion.current.isCompatibleWith ⟨2, 0⟩ = false ∧
      ∃ opening hello turn answer, machine.Converses endpoint .server opening [turn] ∧
        Part.server.Greeted opening ⟨⟨2, 0⟩, ⟨clipboardImage⟩⟩ ∧
        Part.server.Settled opening hello ∧
        ⟨.clipboardFrame (entryFrame (.text "hello")), answer⟩ ∈ turn.events ∧
        ¬ Covers hello.negotiatedCapabilities (.clipboardFrame (entryFrame (.text "hello"))) := by
  intro endpoint machine
  obtain ⟨opening, hello, turn, answer, converses, greeted, settled, asked, flags⟩ :=
    exists_conversation (fun _ => .fill 32 0) memoryBackend ⟨⟨.fill 32 1⟩, .new 0, .default, none⟩
      endpoint .server ⟨⟨2, 0⟩, ⟨clipboardImage⟩⟩ fun self w same _ trusted =>
        have ⟨events, answer, asked, turn, effect⟩ := turn_of_clipboardFrame _ w (entryFrame (.text "hello"))
          same rfl trusted
        ⟨events, answer, asked, turn, _, effect⟩
  refine ⟨by decide, opening, hello, turn, answer, converses, greeted, settled, asked, ?_⟩
  rw [Covers, fromDataFrame_entryFrame (by decide +kernel)]
  exact fun covered => absurd ((flags _ (by decide)).symm.trans covered) (by decide)

end Example

end BridgeOS.Session
