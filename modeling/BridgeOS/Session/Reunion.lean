import BridgeOS.Identity.Storage
import BridgeOS.Identity.TrustMap
import BridgeOS.Session.Duo
import BridgeOS.Session.Meeting

/-! # Paired devices meet again

A device that is started again reads its key from the file it left and finds its trust store
as it was. Two devices that have paired know each other from then on, however often either
is started again and whatever else is written into the stores, until one of them is revoked
or deleted.
-/

namespace BridgeOS

open TrustStore (Write)
open IdentityStorage

section Upholding

variable [Crypto] {store : TrustStore} {n : NodeId} {key : PublicKey}

/-- A row can be read if its public key is one. -/
theorem TrustStore.getPeer_of_key {row : PeerRow} (found : store.lookup n.toHex = some row)
    (stored : NodeId.fromHex row.publicKey = some key.nodeId) :
    store.getPeer n = .ok (some ⟨n, key, row.deviceName, .fromStr row.deviceType, fromI64 row.firstPairedAt,
      fromI64 row.lastSeenAt, .fromStr row.trustState⟩) := by
  unfold NodeId.fromHex at stored
  cases bytes : Hex.decode row.publicKey with
  | none => simp [bytes] at stored
  | some decoded =>
      cases sized : FixedBytes.ofBytes? 32 decoded with
      | none => simp [bytes, sized] at stored
      | some array =>
          have same : array = key.bytes := by simpa [bytes, sized, PublicKey.nodeId] using stored
          simp [getPeer, found, rowToPeer, NodeId.fromHex_toHex, bytes, sized,
            PublicKey.fromBytes_eq_ok.mpr same.symm, Except.map]

/-- What `is_trusted` says of the record that `get_peer` finds. -/
theorem TrustStore.isTrusted_of_peer {peer : TrustedPeer} (found : store.getPeer n = .ok (some peer)) :
    store.isTrusted n key = .ok true ↔ peer.publicKey = key ∧ peer.trustState = .trusted := by
  rw [isTrusted_of_getPeer found, PeerMap.verdict]
  by_cases own : peer.publicKey = key
  · cases peer.trustState <;> simp [own]
  · simp [own]

/-- A peer is trusted if its row holds its key and says so. -/
theorem TrustStore.isTrusted_iff_row : store.isTrusted n key = .ok true ↔ ∃ row, store.lookup n.toHex = some row ∧
    NodeId.fromHex row.publicKey = some key.nodeId ∧ TrustState.fromStr row.trustState = .trusted := by
  constructor
  · intro trusted
    cases found : store.lookup n.toHex with
    | none => simp [isTrusted, getPeer, found, bind, Except.bind] at trusted
    | some row =>
        cases parsed : rowToPeer n.toHex row with
        | error e => simp [isTrusted, getPeer, found, parsed, Except.map, bind, Except.bind] at trusted
        | ok peer =>
            have read : store.getPeer n = .ok (some peer) := by simp [getPeer, found, parsed, Except.map]
            obtain ⟨rfl, state⟩ := (isTrusted_of_peer read).mp trusted
            obtain ⟨-, stored, same⟩ := rowToPeer_eq_ok parsed
            exact ⟨row, rfl, stored, same.symm.trans state⟩
  · rintro ⟨row, found, stored, state⟩
    rw [isTrusted_of_peer (getPeer_of_key found stored)]
    simp [state]

/-- The write does not take the trust in the peer away, and does not give it another key. -/
def TrustStore.Write.Upholds (n : NodeId) (key : PublicKey) : Write → Prop
  | .savePeer peer => peer.nodeId = n → peer.publicKey = key ∧ peer.trustState = .trusted
  | .updateLastSeen _ _ => True
  | .setTrustState m state => m = n → state = .trusted
  | .revokePeer m => m ≠ n
  | .deletePeer m => m ≠ n

theorem TrustStore.Write.Upholds.isTrusted {write : Write} (upholds : write.Upholds n key)
    (trusted : store.isTrusted n key = .ok true) : (write.perform store).isTrusted n key = .ok true := by
  obtain ⟨row, found, stored, state⟩ := TrustStore.isTrusted_iff_row.mp trusted
  refine TrustStore.isTrusted_iff_row.mpr ?_
  rw [TrustStore.lookup_perform, found]
  by_cases own : n = write.nodeId
  · rw [if_pos own]
    cases write with
    | savePeer peer =>
        obtain ⟨rfl, given⟩ := upholds own.symm
        refine ⟨_, rfl, NodeId.fromHex_toHex peer.publicKey.nodeId, ?_⟩
        exact (TrustState.fromStr_asStr peer.trustState).trans given
    | updateLastSeen m timestamp => exact ⟨_, rfl, stored, state⟩
    | setTrustState m given =>
        obtain rfl := upholds own.symm
        exact ⟨_, rfl, stored, TrustState.fromStr_asStr .trusted⟩
    | revokePeer m => exact absurd own.symm upholds
    | deletePeer m => exact absurd own.symm upholds
  · rw [if_neg own]
    exact ⟨row, rfl, stored, state⟩

theorem TrustStore.isTrusted_performAll {writes : List Write} (upheld : ∀ write ∈ writes, write.Upholds n key)
    (trusted : store.isTrusted n key = .ok true) : (store.performAll writes).isTrusted n key = .ok true := by
  induction writes generalizing store with
  | nil => exact trusted
  | cons write writes ih =>
      exact ih (fun later inside => upheld later (List.mem_cons_of_mem _ inside))
        ((upheld write List.mem_cons_self).isTrusted trusted)

end Upholding

namespace Session

open Proc Transport

section Reunions

variable [Crypto] {σ : Type}

theorem Holds.isTrusted {store : TrustStore} {identity : IdentityKey} (holds : Holds store identity) :
    store.isTrusted identity.nodeId identity.publicKey = .ok true := by
  obtain ⟨peer, found, -, key, state⟩ := holds
  exact (TrustStore.isTrusted_of_peer found).mpr ⟨key, state⟩

/-- A device that had this identity and this store and has been started again since. Nothing was
    written that takes the trust in the other device away. -/
structure Returns (identity : IdentityKey) (store : TrustStore) (other : IdentityKey) (device : Device σ)
    (world : World σ) : Prop where
  identity : ∃ place start starts next, (loadOrGenerate place start).1 = .ok identity ∧
    (loadOrGenerate (restarts (loadOrGenerate place start).2 starts)
      next).1 = .ok device.endpoint.localIdentity
  store : ∃ writes, (∀ write ∈ writes, Write.Upholds other.nodeId other.publicKey write) ∧
    world.store = store.performAll writes

variable {device : Device σ} {world : World σ} {identity other : IdentityKey} {store : TrustStore}

theorem Returns.same (returns : Returns identity store other device world) :
    device.endpoint.localIdentity = identity := by
  obtain ⟨place, start, starts, next, before, now⟩ := returns.identity
  exact (Except.ok.inj ((identity_kept before starts next).symm.trans now)).symm

theorem Returns.trusts (returns : Returns identity store other device world) (holds : Holds store other) :
    world.store.isTrusted other.nodeId other.publicKey = .ok true := by
  obtain ⟨writes, upheld, written⟩ := returns.store
  rw [written]
  exact TrustStore.isTrusted_performAll upheld holds.isTrusted

theorem admission_of_trusted {n : NodeId} {key : PublicKey} (trusted : store.isTrusted n key = .ok true) :
    admission store n key = .ok .trusted := by
  simp only [admission, trusted]

/-- Both calls return a session that trusts the other side. -/
def Meeting.Reunited (meeting : Meeting σ) (s : Meeting.State σ) : Prop :=
  s.1.1 = .ok (meeting.guestSession .trusted) ∧ s.2.1 = .ok (meeting.hostSession .trusted)

theorem Meeting.Met.reunited {meeting : Meeting σ} {s : Meeting.State σ} {identity other : IdentityKey}
    {store store' : TrustStore} (met : meeting.Met s)
    (guest : Returns identity store other meeting.guest meeting.guestWorld)
    (host : Returns other store' identity meeting.host meeting.hostWorld) (knows : Holds store other)
    (known : Holds store' identity) : meeting.Reunited s := by
  have letIn := admission_of_trusted (guest.trusts knows)
  have admitted := admission_of_trusted (host.trusts known)
  rw [← host.same] at letIn
  rw [← guest.same] at admitted
  refine ⟨?_, ?_⟩
  · rw [met.guest, letIn, ok_bind]
  · rw [met.host, admitted, ok_bind]

/-- Two devices whose users have both confirmed a pairing. Whoever calls whom later, and
    whatever order the two sides take turns in then, both end up in a trusted session. -/
theorem paired_devices_reunite (duo : Duo σ)
    (distinct : duo.initiator.self.localIdentity.nodeId ≠ duo.responder.self.localIdentity.nodeId)
    (asks : (PairingMessage.request duo.initiator.request).Fits)
    (answers : (PairingMessage.response duo.responder.response).Fits)
    (agree : duo.initiator.user ∧ duo.responder.user) (s : Side σ × Side σ) (reached : duo.Reachable s)
    (final : Final s) (meeting : Meeting σ)
    (parties : Returns duo.initiator.self.localIdentity s.1.2.world.store duo.responder.self.localIdentity
        meeting.guest meeting.guestWorld ∧
      Returns duo.responder.self.localIdentity s.2.2.world.store duo.initiator.self.localIdentity
        meeting.host meeting.hostWorld ∨
      Returns duo.responder.self.localIdentity s.2.2.world.store duo.initiator.self.localIdentity
        meeting.guest meeting.guestWorld ∧
      Returns duo.initiator.self.localIdentity s.1.2.world.store duo.responder.self.localIdentity
        meeting.host meeting.hostWorld)
    (greets : ∃ bytes, encodeFrame (.handshake (.clientHello meeting.clientHello)) = .ok bytes)
    (replies : ∃ bytes, encodeFrame (.handshake (.serverHello meeting.serverHello)) = .ok bytes)
    (t : Meeting.State σ) (later : meeting.Reachable t) :
    ∃ t', Relation.ReflTransGen meeting.Step t t' ∧ meeting.Reunited t' ∧ ∀ t'', ¬ meeting.Step t' t'' := by
  obtain ⟨-, knows, known⟩ : duo.Paired s := by
    simpa [agree] using (Duo.agrees_of_fits distinct asks answers s reached).2.2 final
  obtain ⟨_, greets⟩ := greets
  obtain ⟨_, replies⟩ := replies
  obtain ⟨t', ends, stopped, met⟩ := Meeting.exists_met greets replies
  refine ⟨t', Dialogue.steps_to_end later ends (Meeting.not_step_of_final stopped), ?_,
    Meeting.not_step_of_final stopped⟩
  rcases parties with ⟨guest, host⟩ | ⟨guest, host⟩
  · exact met.reunited guest host knows known
  · exact met.reunited guest host known knows

/-- Nothing has been written since. -/
theorem returns_unchanged (other : IdentityKey) (device : Device σ) (world : World σ) :
    Returns device.endpoint.localIdentity world.store other device world := by
  let start : IdentityStorage.Start := ⟨0o022#9, device.endpoint.localIdentity,
    device.endpoint.localIdentity.whole, none⟩
  have started : (loadOrGenerate newPlace start).1 =
      .ok device.endpoint.localIdentity := rfl
  exact ⟨⟨newPlace, start, [], start, started, identity_kept started [] start⟩,
    [], by simp, rfl⟩

end Reunions

section Example

attribute [local instance] transparentCrypto

theorem laptop_and_tower_reunite : ∃ s t, (exampleDuo "laptop").Reachable s ∧
    (exampleMeeting s.1.2.world.store s.2.2.world.store).Reachable t ∧
    (exampleMeeting s.1.2.world.store s.2.2.world.store).Reunited t := by
  have distinct : (exampleDuo "laptop").initiator.self.localIdentity.nodeId ≠
      (exampleDuo "laptop").responder.self.localIdentity.nodeId := by decide +kernel
  have asks : (PairingMessage.request (exampleDuo "laptop").initiator.request).Fits := by
    unfold PairingMessage.Fits
    decide +kernel
  have answers : (PairingMessage.response (exampleDuo "laptop").responder.response).Fits := by
    unfold PairingMessage.Fits
    decide +kernel
  obtain ⟨s, reached, final, -⟩ := Duo.exists_final distinct asks answers
  let meeting := exampleMeeting s.1.2.world.store s.2.2.world.store
  obtain ⟨t, later, reunited, -⟩ := paired_devices_reunite (exampleDuo "laptop") distinct asks answers ⟨rfl, rfl⟩ s
    reached final meeting (.inl ⟨returns_unchanged _ meeting.guest meeting.guestWorld,
      returns_unchanged _ meeting.host meeting.hostWorld⟩)
    (exampleMeeting_greets _ _) (exampleMeeting_answers _ _) _ .refl
  exact ⟨s, t, reached, later, reunited⟩

end Example

end Session

end BridgeOS
