import BridgeOS.Session.Gating

/-! # Whom a ceremony trusts

`execute_pairing` saves the identity the peer presents in its pairing message.
Nothing compares it with the identity the handshake authenticated, so the two
agree exactly when the peer chooses to present the latter.
-/

namespace BridgeOS.Session

open Proc

section Bound

variable [Crypto] {σ : Type}

/-- The identity in the first pairing message of the kind the role waits for. -/
def presentedId (isInitiator : Bool) (events : List SessionEvent) : Option NodeId :=
  events.findSome? fun
    | ⟨.recvData _, .ok frame⟩ =>
        match PairingMessage.fromDataFrame frame with
        | .ok message => (message.presented isInitiator).map Presented.nodeId
        | .error _ => none
    | _ => none

/-- Every peer saved is the one the session authenticated, and the store trusted
    that one whenever the session was declared trusted. -/
structure BoundToSession (machine : Machine σ) (session : ActiveSession) (w : World σ)
    (events : List SessionEvent) : Prop where
  saved : ∀ peer, ⟨.savePeer peer, .ok ()⟩ ∈ events →
    peer.nodeId = session.remoteNodeId ∧ peer.publicKey = session.remotePubkey
  trusted : ∀ before after w', events = before ++ ⟨.setState .trusted, ()⟩ :: after →
    machine.Effect w before w' →
      w'.store.isTrusted session.remoteNodeId session.remotePubkey = .ok true

theorem nodeId_of_handshake {endpoint : Endpoint} {events : List SessionEvent} {self : ActiveSession}
    (handshake : Runs (serverHandshake endpoint) events (.ok self) ∨
      Runs (clientHandshake endpoint) events (.ok self)) :
    self.remotePubkey.nodeId = self.remoteNodeId := by
  rcases handshake with run | run
  · obtain ⟨hello, key, _, _, _, state, -, made, -, rfl⟩ := runs_serverHandshake_ok.mp run
    exact PublicKey.nodeId_of_fromBytes made
  · obtain ⟨_, hello, key, _, _, _, state, -, made, -, -, rfl⟩ := runs_clientHandshake_ok.mp run
    exact PublicKey.nodeId_of_fromBytes made

section Ceremony

variable {self : ActiveSession} {isInitiator : Bool} {events : List SessionEvent}
  {sas : SasVerification}

theorem presentedId_of_first (before after : List SessionEvent) {channel : UInt16} {frame : DataFrame}
    {message : PairingMessage} {presented : Presented}
    (first : ∀ channel answer, ⟨.recvData channel, answer⟩ ∉ before)
    (decoded : PairingMessage.fromDataFrame frame = .ok message)
    (presents : message.presented isInitiator = some presented) :
    presentedId isInitiator (before ++ ⟨.recvData channel, .ok frame⟩ :: after) =
      some presented.nodeId := by
  induction before with
  | nil => simp [presentedId, decoded, presents]
  | cons event rest ih =>
      have later := ih fun channel answer member => first channel answer (.tail _ member)
      obtain ⟨call, answer⟩ := event
      cases call with
      | recvData other => exact (first other answer (.head _)).elim
      | _ => exact later

theorem concludePairing_saves {session : PairingSession} {remote : TrustedPeer} {u : Unit}
    (derived : session.sas = some sas) (present : session.remotePeer = some remote)
    (run : Runs (concludePairing self session sas) events (.ok u)) :
    ∃ before, events = before ++ [⟨.savePeer { remote with trustState := .trusted }, .ok ()⟩] ∧
      ∀ other answer, ⟨.savePeer other, answer⟩ ∉ before := by
  obtain ⟨own, reply, confirmation, signature, rfl, -⟩ :=
    (runs_concludePairing_ok derived present).mp run
  exact ⟨[_, _, _, _, _], rfl, by simp⟩

/-- A ceremony that returns saved one peer, right before it granted trust: the one
    that was presented. -/
theorem executePairing_saves (run : Runs (executePairing self isInitiator) events (.ok sas)) :
    ∃ (before : List SessionEvent) (peer : TrustedPeer),
      events = before ++ [⟨.savePeer peer, .ok ()⟩, ⟨.setState .trusted, ()⟩] ∧
      (∀ other answer, ⟨.savePeer other, answer⟩ ∉ before) ∧
      (∀ event ∈ before, event.call.Harmless) ∧
      peer.trustState = .trusted ∧ peer.publicKey.nodeId = peer.nodeId ∧
      presentedId isInitiator events = some peer.nodeId := by
  obtain ⟨opened, lead, concluded, rfl, opening, conclusion, rfl⟩ := runs_executePairing_ok.mp run
  have plainLead := (opening.allCalls openPairing_plain).1
  have plainRest := (conclusion.allCalls concludePairing_plain).1
  obtain ⟨start, later, nonce, frame, message, presented, key, now, same, first, unsaved, -, decoded,
    presents, checked, rfl⟩ := runs_openPairing_ok opening
  have named : ∀ rest, presentedId isInitiator (lead ++ rest) = some presented.nodeId := by
    intro rest
    rw [same, List.append_assoc]
    exact presentedId_of_first _ _ first decoded presents
  obtain ⟨before, rfl, unsaved'⟩ := concludePairing_saves rfl rfl conclusion
  refine ⟨⟨.setState .pairing, ()⟩ :: (lead ++ before),
    ⟨presented.nodeId, key, presented.deviceName, presented.deviceType, now, now, .trusted⟩, by simp, ?_,
    ?_, rfl, (PairingSession.checkIdentity_eq_ok.mp checked).2, named _⟩
  · intro other answer
    simp [unsaved, unsaved']
  · intro event member
    rcases List.mem_cons.mp member with rfl | member
    · simp [Call.Harmless]
    · rcases List.mem_append.mp member with inLead | inRest
      · exact (plainLead event inLead).1
      · exact (plainRest event (List.mem_append_left _ inRest)).1

end Ceremony

/-- Whoever completes a ceremony is trusted afterwards, under the key it presented. -/
theorem isTrusted_of_paired {machine : Machine σ} {self : ActiveSession} {isInitiator : Bool}
    {events : List SessionEvent} {sas : SasVerification} {w w' : World σ} {key : PublicKey}
    (run : Runs (executePairing self isInitiator) events (.ok sas)) (effect : machine.Effect w events w')
    (presented : presentedId isInitiator events = some key.nodeId) :
    w'.store.isTrusted key.nodeId key = .ok true := by
  obtain ⟨before, peer, rfl, -, -, trusted, keyed, named⟩ := executePairing_saves run
  have same : peer.nodeId = key.nodeId := Option.some.inj (named.symm.trans presented)
  have sameKey : peer.publicKey = key := PublicKey.nodeId_injective (keyed.trans same)
  obtain ⟨middle, -, _, rfl, _, rfl, rfl⟩ := along_append.mp effect
  rw [← same, ← sameKey]
  exact TrustStore.isTrusted_savePeer_self _ trusted

theorem presents_itself_of_bound {machine : Machine σ} {self : ActiveSession} {isInitiator : Bool}
    {events : List SessionEvent} {sas : SasVerification} {w : World σ}
    (run : Runs (executePairing self isInitiator) events (.ok sas))
    (bound : BoundToSession machine self w events) :
    presentedId isInitiator events = some self.remoteNodeId := by
  obtain ⟨before, peer, rfl, -, -, -, -, presented⟩ := executePairing_saves run
  rw [presented, (bound.saved peer (by simp)).1]

theorem bound_iff_presents_itself {machine : Machine σ} {endpoint : Endpoint} {self : ActiveSession}
    {opening events : List SessionEvent} {isInitiator : Bool} {sas : SasVerification} (w : World σ)
    (handshake : Runs (serverHandshake endpoint) opening (.ok self) ∨
      Runs (clientHandshake endpoint) opening (.ok self))
    (run : Runs (executePairing self isInitiator) events (.ok sas)) :
    BoundToSession machine self w events ↔
      presentedId isInitiator events = some self.remoteNodeId := by
  refine ⟨presents_itself_of_bound run, fun itself => ?_⟩
  have own := nodeId_of_handshake handshake
  obtain ⟨before, peer, rfl, only, harmless, trusted, keyed, presented⟩ := executePairing_saves run
  have named : peer.nodeId = self.remoteNodeId := Option.some.inj (presented.symm.trans itself)
  have sameKey : peer.publicKey = self.remotePubkey :=
    PublicKey.nodeId_injective (keyed.trans (named.trans own.symm))
  refine ⟨?_, ?_⟩
  · intro other saved
    have same : other = peer := by simpa [only] using saved
    exact ⟨same ▸ named, same ▸ sameKey⟩
  · intro before' after w' same effect
    have notYet : (⟨.setState .trusted, ()⟩ : SessionEvent) ∉ before ++ [⟨.savePeer peer, .ok ()⟩] := by
      intro member
      rcases List.mem_append.mp member with earlier | last
      · exact harmless _ earlier rfl
      · simp at last
    rw [List.append_cons] at same
    obtain ⟨rfl, -⟩ := (List.append_cons_inj_of_notMem notYet List.not_mem_nil).mp same
    obtain ⟨middle, -, _, rfl, rfl⟩ := along_append.mp effect
    rw [← named, ← sameKey]
    exact TrustStore.isTrusted_savePeer_self _ trusted

/-- A request under the name of a key. -/
def requestAs (other : IdentityKey) : PairingRequest :=
  ⟨other.nodeId, other.publicKey.bytes, "phone", .android, .fill 32 0, 0⟩

theorem fromDataFrame_requestAs (other : IdentityKey) :
    PairingMessage.fromDataFrame (PairingMessage.request (requestAs other)).toDataFrame =
      .ok (.request (requestAs other)) := by
  apply PairingMessage.fromDataFrame_toDataFrame
  have bound := PairingMessage.length_encode_request (requestAs other)
  have name : (utf8 (requestAs other).deviceName).length = 5 := rfl
  omega

/-- What a responder makes of it. -/
def openedAs (self : ActiveSession) (other : IdentityKey) : PairingSession × SasVerification :=
  pairingOpened self (.fill 32 1) ⟨other.nodeId, other.publicKey, "phone", .android, 0, 0, .pending⟩
    (.fill 32 0)

/-- The questions of a responder up to the user's decision. -/
def openingAs (self : ActiveSession) (other : IdentityKey) : List SessionEvent :=
  [⟨.recvData DataFrame.channelPairing, .ok (PairingMessage.request (requestAs other)).toDataFrame⟩,
    ⟨.host .random, .fill 32 1⟩, ⟨.host .now, 0⟩,
    ⟨.send (.data (PairingMessage.response ⟨self.localIdentity.nodeId,
      self.localIdentity.publicKey.bytes, self.localName, self.localDeviceType, .fill 32 1,
      0⟩).toDataFrame), .ok ()⟩]

theorem runs_openPairing_as (self : ActiveSession) (other : IdentityKey) :
    Runs (openPairing self false) (openingAs self other) (.ok (openedAs self other)) :=
  runs_respondPairing_ok.mpr ⟨_, requestAs other, other.publicKey, .fill 32 1, 0, rfl,
    fromDataFrame_requestAs other, PairingSession.checkIdentity_eq_ok.mpr ⟨rfl, rfl⟩, rfl⟩

/-- Whoever holds a key can complete a ceremony as that key, in any session. -/
theorem exists_pairing_as (machine : Machine σ) (self : ActiveSession) (other : IdentityKey) (w : World σ)
    (identity : machine.localIdentity = self.localIdentity) :
    ∃ events sas w', Runs (executePairing self false) events (.ok sas) ∧ machine.Effect w events w' ∧
      presentedId false events = some other.nodeId := by
  let opened := openedAs self other
  let digest := (Crypto.sha256 (opened.1.confirmationText opened.2)).bytes
  let confirmation : PairingConfirm := ⟨other.nodeId, true, (other.sign digest).bytes⟩
  have confirmed : PairingMessage.fromDataFrame (PairingMessage.confirm confirmation).toDataFrame =
      .ok (.confirm confirmation) := by
    apply PairingMessage.fromDataFrame_toDataFrame
    have bound := PairingMessage.length_encode_confirm confirmation
    have size : confirmation.signature.length = 64 := (other.sign digest).size
    omega
  have conclusion : Runs (concludePairing self opened.1 opened.2) _ (.ok ()) :=
    (runs_concludePairing_ok rfl rfl).mpr ⟨self.localIdentity.sign digest, _, confirmation,
      other.sign digest, rfl, confirmed, rfl, rfl, FixedBytes.ofBytes?_bytes _⟩
  have run := runs_executePairing_ok.mpr
    ⟨opened, _, _, rfl, runs_openPairing_as self other, conclusion, rfl⟩
  have signed : self.localIdentity.sign digest = machine.localIdentity.sign digest := by rw [identity]
  have verified := other.verify_sign digest
  have presented : (PairingMessage.request (requestAs other)).presented false =
      some ⟨other.nodeId, other.publicKey.bytes, "phone", .android, .fill 32 0⟩ := rfl
  have presents : ∀ rest, presentedId false (⟨.setState .pairing, ()⟩ ::
      ⟨.recvData DataFrame.channelPairing, .ok (PairingMessage.request (requestAs other)).toDataFrame⟩ ::
        rest) = some other.nodeId :=
    fun rest => presentedId_of_first [⟨.setState .pairing, ()⟩] rest (by simp)
      (fromDataFrame_requestAs other) presented
  exact ⟨_, _, _, run, ⟨_, rfl, _, rfl, _, ⟨trivial, rfl⟩, _, ⟨trivial, rfl⟩, _, rfl, _, rfl, _,
    ⟨signed, rfl⟩, _, rfl, _, rfl, _, ⟨verified.symm, rfl⟩, _, rfl, _, rfl, rfl⟩,
    presents _⟩

/-- Log in with one key, then complete a ceremony with another or the same one. -/
theorem exists_session_pairing_as (endpoint : Endpoint) (peer other : IdentityKey)
    (machine : Machine σ) (engine : Clipboard.ClipboardSyncEngine σ)
    (identity : machine.localIdentity = endpoint.localIdentity)
    (directory : machine.receiveDir = endpoint.receiveDir) :
    ∃ w₀ opening self w events sas w', machine.Starts endpoint w₀ opening self w ∧
      self.remoteNodeId = peer.nodeId ∧ Runs (executePairing self false) events (.ok sas) ∧
      machine.Effect w events w' ∧ presentedId false events = some other.nodeId := by
  obtain ⟨opening, self, -, sameKey, named, starts⟩ := starts_of_signed machine peer identity directory
    (w := ⟨.handshaking, ∅, engine, .empty⟩) rfl
  obtain ⟨events, sas, w', run, effect, presented⟩ := exists_pairing_as machine self other
    ⟨.authenticatedUntrusted, ∅, engine, .empty⟩ (identity.trans sameKey.symm)
  exact ⟨_, opening, self, _, events, sas, w', starts, named, run, effect, presented⟩

end Bound

section Example

attribute [local instance] transparentCrypto

def exampleEndpoint : Endpoint := ⟨⟨.fill 32 1⟩, "node", .windows, true, none⟩

theorem own_identity_is_bound : ∃ w₀ opening self w events sas,
    exampleMachine.Starts exampleEndpoint w₀ opening self w ∧
      Runs (executePairing self false) events (.ok sas) ∧
      BoundToSession exampleMachine self w events := by
  obtain ⟨w₀, opening, self, w, events, sas, w', starts, named, run, -, presented⟩ :=
    exists_session_pairing_as exampleEndpoint ⟨.fill 32 2⟩ ⟨.fill 32 2⟩ exampleMachine
      ⟨⟨.fill 32 1⟩, .new 0, .default, none⟩ rfl rfl
  exact ⟨w₀, opening, self, w, events, sas, starts, run,
    (bound_iff_presents_itself w starts.handshake run).mpr (presented.trans (congrArg some named.symm))⟩

/-- A peer that logged in with one key pairs with another one. -/
theorem another_identity_is_saved : ∃ w₀ opening self w events sas w',
    exampleMachine.Starts exampleEndpoint w₀ opening self w ∧
      Runs (executePairing self false) events (.ok sas) ∧ exampleMachine.Effect w events w' ∧
      ¬ BoundToSession exampleMachine self w events := by
  obtain ⟨w₀, opening, self, w, events, sas, w', starts, named, run, effect, presented⟩ :=
    exists_session_pairing_as exampleEndpoint ⟨.fill 32 2⟩ ⟨.fill 32 3⟩ exampleMachine
      ⟨⟨.fill 32 1⟩, .new 0, .default, none⟩ rfl rfl
  refine ⟨w₀, opening, self, w, events, sas, w', starts, run, effect, fun bound => ?_⟩
  have same := presents_itself_of_bound run bound
  rw [presented, named] at same
  exact absurd same (by decide)

end Example

end BridgeOS.Session
