import BridgeOS.Session.Player

/-! # Two sessions pair with each other

Each side calls `execute_pairing` once, over a stream that delivers every frame
once and in order. Only the order in which the two take turns is open, and it
makes no difference.
-/

namespace BridgeOS.Session

open BridgeOS.Transport Proc

section Ceremony

variable [Crypto] {σ : Type}

/-- Two players, each with its own world. -/
structure Duo (σ : Type) where
  initiator : Player σ
  responder : Player σ
  initiatorWorld : World σ
  responderWorld : World σ

/-- What is left of a call, and the seat it is made from. -/
abbrev Side (σ : Type) := SessionProc SasVerification × Seat σ

/-- Both calls have returned. -/
def Final (s : Side σ × Side σ) : Prop := Finished s.1.1 ∧ Finished s.2.1

/-- The store has the identity under its own key and trusts it. -/
def Holds (store : TrustStore) (identity : IdentityKey) : Prop :=
  ∃ peer, store.getPeer identity.nodeId = .ok (some peer) ∧ peer.nodeId = identity.nodeId ∧
    peer.publicKey = identity.publicKey ∧ peer.trustState = .trusted

namespace Duo

variable (duo : Duo σ)

def start : Side σ × Side σ :=
  ((executePairing duo.initiator.self true, ⟨duo.initiatorWorld, [], 0, 0⟩),
    (executePairing duo.responder.self false, ⟨duo.responderWorld, [], 0, 0⟩))

/-- Either side goes on. -/
abbrev Step : Side σ × Side σ → Side σ × Side σ → Prop :=
  Dialogue.Step duo.initiator.desk.party duo.responder.desk.party

def Reachable (s : Side σ × Side σ) : Prop := Relation.ReflTransGen duo.Step duo.start s

/-- Both users have answered yes, both calls return the same number and each store has
    the other side. -/
def Paired (s : Side σ × Side σ) : Prop :=
  (∃ sas, s.1.1 = .ok sas ∧ s.2.1 = .ok sas) ∧
    Holds s.1.2.world.store duo.responder.self.localIdentity ∧
    Holds s.2.2.world.store duo.initiator.self.localIdentity

/-- Both calls fail and neither store has changed. -/
def Unpaired (s : Side σ × Side σ) : Prop :=
  (∃ e, s.1.1 = .error e) ∧ (∃ e, s.2.1 = .error e) ∧
    s.1.2.world.store = duo.initiatorWorld.store ∧ s.2.2.world.store = duo.responderWorld.store

/-- Whatever order the two take turns in, they are not stuck before both calls have
    returned, there is a way to that, and then they agree. -/
def Agrees : Prop :=
  ∀ s, duo.Reachable s →
    (¬ Final s → ∃ s', duo.Step s s') ∧
    (∃ s', Relation.ReflTransGen duo.Step s s' ∧ Final s') ∧
    (Final s → if duo.initiator.user ∧ duo.responder.user then duo.Paired s else duo.Unpaired s)

variable {duo}

/-- One way to take turns. -/
theorem exists_outcomes
    (distinct : duo.initiator.self.localIdentity.nodeId ≠ duo.responder.self.localIdentity.nodeId)
    (asks : (PairingMessage.request duo.initiator.request).Fits)
    (answers : (PairingMessage.response duo.responder.response).Fits) :
    ∃ a b : Seat σ, duo.Reachable
        ((duo.initiator.outcome duo.responder, a), (duo.responder.outcome duo.initiator, b)) ∧
      a.world.store = (if duo.initiator.user ∧ duo.responder.user then
        duo.initiatorWorld.store.savePeer
          { duo.responder.candidate (duo.initiator.clock 1) with trustState := .trusted }
        else duo.initiatorWorld.store) ∧
      b.world.store = (if duo.responder.user ∧ duo.initiator.user then
        duo.responderWorld.store.savePeer
          { duo.initiator.candidate (duo.responder.clock 0) with trustState := .trusted }
        else duo.responderWorld.store) := by
  let left : Party (Side σ) Frame := duo.initiator.desk.party
  let right : Party (Side σ) Frame := duo.responder.desk.party
  have same := Player.text_comm distinct
  obtain ⟨p, asking, hearing⟩ := (Player.runs_response answers).split
  have first := Dialogue.steps_left right ((Player.serves_requests asks duo.initiatorWorld).goes asking)
    (executePairing duo.responder.self false, ⟨duo.responderWorld, [], 0, 0⟩)
  have second := first.trans (Dialogue.steps_right left
    (Player.responds asks answers duo.responderWorld) _)
  have answered : left.Goes (p, ⟨{ duo.initiatorWorld with state := .pairing },
      [.data (PairingMessage.response duo.responder.response).toDataFrame], 1, 1⟩) [] _ :=
    Desk.Serves.goes (.quiet (Player.reply_recvData _ rfl) (.quiet rfl .nil)) hearing
  have third := second.trans (Dialogue.steps_left right answered _)
  -- both users are asked now; the initiator's is quicker
  let seatA : Seat σ := ⟨{ duo.initiatorWorld with state := .pairing }, [], 1, 2⟩
  let seatB : Seat σ := ⟨{ duo.responderWorld with state := .pairing },
    [.data (duo.initiator.word duo.responder).toDataFrame], 1, 1⟩
  obtain ⟨pA, saysA, endsA⟩ := Player.concludes same.symm (duo.initiator.clock 1) seatA
  obtain ⟨pB, saysB, endsB⟩ := Player.concludes same (duo.responder.clock 0) seatB
  have fourth := third.trans (Dialogue.steps_left right saysA _)
  have fifth := fourth.trans (Dialogue.steps_right left saysB _)
  obtain ⟨a, hearsA, storeA⟩ := endsA ((duo.initiator.decided seatA).deliver
    [.data (duo.responder.word duo.initiator).toDataFrame]) (by simp [Seat.deliver, seatA])
  obtain ⟨b, hearsB, storeB⟩ := endsB (duo.responder.decided seatB) (by simp [seatB])
  have sixth := fifth.trans (Dialogue.steps_left right hearsA _)
  rw [right.deliver_nil] at sixth
  have last := sixth.trans (Dialogue.steps_right left hearsB _)
  rw [left.deliver_nil] at last
  refine ⟨a, b, last, ?_, ?_⟩
  · simpa [Seat.deliver, seatA] using storeA
  · simpa [seatB] using storeB

/-- A call that has returned does nothing more, and one that waits for a frame does
    nothing before it arrives. -/
def Idle (side : Side σ) : Prop :=
  Finished side.1 ∨ side.2.inbox = [] ∧ ∃ channel next, side.1 = .ask (.recvData channel) next

theorem Idle.move {side : Side σ} (idle : Idle side) (player : Player σ) :
    player.desk.party.move side = none := by
  obtain ⟨p, seat⟩ := side
  rcases idle with returned | ⟨empty, channel, next, rfl⟩
  · cases p with
    | ok a => rfl
    | error e => rfl
    | ask c next => exact returned.elim
  · simp only at empty
    simp only [Desk.party, Desk.move, Player.desk, Player.reply, Player.respond, Player.takeData, empty]

theorem not_step_of_idle {s : Side σ × Side σ} (first : Idle s.1) (second : Idle s.2)
    (s' : Side σ × Side σ) : ¬ duo.Step s s' := by
  intro step
  cases step with
  | left moved => simp [first.move] at moved
  | right moved => simp [second.move] at moved

theorem finished_outcome (player other : Player σ) : Finished (player.outcome other) := by
  unfold Player.outcome
  split
  · split <;> trivial
  · trivial

theorem holds_savePeer (store : TrustStore) (other : Player σ) (now : UInt64) :
    Holds (store.savePeer { other.candidate now with trustState := .trusted })
      other.self.localIdentity := by
  obtain ⟨firstPairedAt, found⟩ :=
    store.getPeer_savePeer_self { other.candidate now with trustState := .trusted }
  exact ⟨_, found, rfl, rfl, rfl⟩

theorem exists_final
    (distinct : duo.initiator.self.localIdentity.nodeId ≠ duo.responder.self.localIdentity.nodeId)
    (asks : (PairingMessage.request duo.initiator.request).Fits)
    (answers : (PairingMessage.response duo.responder.response).Fits) :
    ∃ s, duo.Reachable s ∧ Final s ∧
      if duo.initiator.user ∧ duo.responder.user then duo.Paired s else duo.Unpaired s := by
  obtain ⟨a, b, reached, storeA, storeB⟩ := exists_outcomes distinct asks answers
  have both : duo.responder.user ∧ duo.initiator.user ↔ duo.initiator.user ∧ duo.responder.user :=
    and_comm
  simp only [both] at storeB
  refine ⟨_, reached, ⟨finished_outcome _ _, finished_outcome _ _⟩, ?_⟩
  by_cases yes : duo.initiator.user ∧ duo.responder.user
  · rw [if_pos yes] at storeA storeB ⊢
    refine ⟨⟨duo.initiator.sas duo.responder, ?_, ?_⟩, ?_, ?_⟩
    · simp [Player.outcome, yes]
    · simp [Player.outcome, yes, Player.sas_comm distinct]
    · rw [storeA]
      exact holds_savePeer _ _ _
    · rw [storeB]
      exact holds_savePeer _ _ _
  · rw [if_neg yes] at storeA storeB ⊢
    exact ⟨Player.outcome_error yes, Player.outcome_error (mt both.mp yes), storeA, storeB⟩

theorem not_step_of_final {s : Side σ × Side σ} (final : Final s) (s' : Side σ × Side σ) :
    ¬ duo.Step s s' :=
  not_step_of_idle (.inl final.1) (.inl final.2) s'

/-- Every run comes together with the one that ends. -/
theorem agrees_of_fits
    (distinct : duo.initiator.self.localIdentity.nodeId ≠ duo.responder.self.localIdentity.nodeId)
    (asks : (PairingMessage.request duo.initiator.request).Fits)
    (answers : (PairingMessage.response duo.responder.response).Fits) : duo.Agrees := by
  obtain ⟨last, ends, final, verdict⟩ := exists_final distinct asks answers
  intro s reached
  have onward := Dialogue.steps_to_end reached ends (not_step_of_final final)
  refine ⟨?_, ⟨last, onward, final⟩, ?_⟩
  · intro waits
    rcases onward.cases_head with rfl | ⟨s', step, -⟩
    · exact absurd final waits
    · exact ⟨s', step⟩
  · intro finished
    rcases onward.cases_head with rfl | ⟨s', step, -⟩
    · exact verdict
    · exact absurd step (not_step_of_final finished s')

/-- A call has not returned and nothing can go on. -/
def Stranded (duo : Duo σ) (s : Side σ × Side σ) : Prop :=
  ¬ Final s ∧ ∀ s', ¬ duo.Step s s'

theorem stranded_of_large_request (large : ¬ (PairingMessage.request duo.initiator.request).Fits) :
    ∃ s, duo.Reachable s ∧ duo.Stranded s := by
  let left : Party (Side σ) Frame := duo.initiator.desk.party
  let right : Party (Side σ) Frame := duo.responder.desk.party
  have refused := encodeFrame_of_large large
  have asking : left.Goes (executePairing duo.initiator.self true, ⟨duo.initiatorWorld, [], 0, 0⟩) []
      (.error (.transport _), ⟨{ duo.initiatorWorld with state := .pairing }, [], 1, 1⟩) :=
    Desk.Serves.goes (.quiet rfl (.quiet rfl (.quiet rfl (.quiet (Player.reply_unsent refused) .nil))))
      (.ask (.ask (.ask (.ask (.stop _)))))
  have waiting : right.Goes (executePairing duo.responder.self false, ⟨duo.responderWorld, [], 0, 0⟩) []
      (openPairing duo.responder.self false >>= conclusion duo.responder.self,
        ⟨{ duo.responderWorld with state := .pairing }, [], 0, 0⟩) :=
    Desk.Serves.goes (.quiet rfl .nil) (.ask (.stop _))
  have first := Dialogue.steps_left right asking (executePairing duo.responder.self false,
    ⟨duo.responderWorld, [], 0, 0⟩)
  refine ⟨_, first.trans (Dialogue.steps_right left waiting _), fun returned => returned.2, ?_⟩
  apply not_step_of_idle
  · exact .inl trivial
  · exact .inr ⟨rfl, _, _, rfl⟩

theorem stranded_of_large_response (asks : (PairingMessage.request duo.initiator.request).Fits)
    (large : ¬ (PairingMessage.response duo.responder.response).Fits) :
    ∃ s, duo.Reachable s ∧ duo.Stranded s := by
  let left : Party (Side σ) Frame := duo.initiator.desk.party
  let right : Party (Side σ) Frame := duo.responder.desk.party
  have refused := encodeFrame_of_large large
  obtain ⟨next, asking⟩ := duo.initiator.runs_requests
  have answering : right.Goes (executePairing duo.responder.self false, ⟨duo.responderWorld,
      [.data (PairingMessage.request duo.initiator.request).toDataFrame], 0, 0⟩) [] _ :=
    Desk.Serves.goes (.quiet rfl (.quiet (Player.reply_recvData _ rfl) (.quiet rfl (.quiet rfl
      (.quiet (Player.reply_unsent refused) .nil))))) (Player.runs_response_unsent asks _)
  have first := Dialogue.steps_left right ((Player.serves_requests asks duo.initiatorWorld).goes asking)
    (executePairing duo.responder.self false, ⟨duo.responderWorld, [], 0, 0⟩)
  refine ⟨_, first.trans (Dialogue.steps_right left answering _), fun returned => returned.1, ?_⟩
  apply not_step_of_idle
  · exact .inr ⟨rfl, _, _, rfl⟩
  · exact .inl trivial

/-- Whatever the users answer, the two sides agree exactly when both can present themselves. -/
theorem pairing_agrees_iff
    (distinct : duo.initiator.self.localIdentity.nodeId ≠ duo.responder.self.localIdentity.nodeId) :
    duo.Agrees ↔ (PairingMessage.request duo.initiator.request).Fits ∧
      (PairingMessage.response duo.responder.response).Fits := by
  have refutes : (∃ s, duo.Reachable s ∧ duo.Stranded s) → ¬ duo.Agrees := by
    rintro ⟨s, reached, waits, stuck⟩ agrees
    obtain ⟨s', step⟩ := (agrees s reached).1 waits
    exact stuck s' step
  constructor
  · intro agrees
    by_cases asks : (PairingMessage.request duo.initiator.request).Fits
    · by_cases answers : (PairingMessage.response duo.responder.response).Fits
      · exact ⟨asks, answers⟩
      · exact absurd agrees (refutes (stranded_of_large_response asks answers))
    · exact absurd agrees (refutes (stranded_of_large_request asks))
  · rintro ⟨asks, answers⟩
    exact agrees_of_fits distinct asks answers

end Duo

end Ceremony

section Example

attribute [local instance] transparentCrypto

/-- Two devices whose users both agree, the first with a given name. -/
def exampleDuo (name : String) : Duo (Option Clipboard.ClipboardContent) :=
  let first : IdentityKey := ⟨.fill 32 1⟩
  let second : IdentityKey := ⟨.fill 32 2⟩
  let player (self : ActiveSession) (nonce : UInt8) : Player (Option Clipboard.ClipboardContent) :=
    ⟨self, fun _ => .fill 32 0, Clipboard.memoryBackend, true, fun _ => .fill 32 nonce, fun _ => 0⟩
  let world (identity : IdentityKey) : World (Option Clipboard.ClipboardContent) :=
    ⟨.authenticatedUntrusted, ∅, ⟨identity.nodeId, .new 256, .default, none⟩, .empty⟩
  ⟨player ⟨first, name, .linux, second.nodeId, second.publicKey, "tower", .linux,
      .authenticatedUntrusted, false, none⟩ 3,
    player ⟨second, "tower", .linux, first.nodeId, first.publicKey, name, .linux,
      .authenticatedUntrusted, false, none⟩ 4,
    world first, world second⟩

theorem exampleDuo_deviceName (name : String) :
    (exampleDuo name).initiator.request.deviceName = name := rfl

theorem short_names_agree : (exampleDuo "laptop").Agrees := by
  refine (Duo.pairing_agrees_iff ?_).mpr ⟨?_, ?_⟩
  · decide +kernel
  · unfold PairingMessage.Fits
    decide +kernel
  · unfold PairingMessage.Fits
    decide +kernel

/-- The longest name for which a greeting is sure to fit into a frame. -/
def longName : String := String.ofList (List.replicate (maxFrameLength - 95) 'a')

theorem length_utf8_replicate (n : Nat) : (utf8 (String.ofList (List.replicate n 'a'))).length = n := by
  have size : (List.replicate n 'a').utf8Encode.size = n := by
    induction n with
    | zero => rfl
    | succ n ih =>
        rw [List.replicate_succ, List.utf8Encode_cons, ByteArray.size_append, ih]
        exact Nat.add_comm 1 n
  unfold utf8
  simpa using size

/-- A device whose greeting can be sent and whose request cannot: its call fails, and
    the other side's never returns. -/
theorem long_name_strands_responder :
    let duo := exampleDuo longName
    duo.initiator.self.localIdentity.nodeId ≠ duo.responder.self.localIdentity.nodeId ∧
      (∀ nonce, ∃ bytes, encodeFrame (.handshake (.clientHello
        ⟨.current, duo.initiator.self.localIdentity.nodeId, longName, nonce, .all⟩)) = .ok bytes) ∧
      ∃ s, duo.Reachable s ∧ ¬ Final s ∧ ∀ s', ¬ duo.Step s s' := by
  have named : (utf8 longName).length = maxFrameLength - 95 := length_utf8_replicate _
  refine ⟨by decide, ?_, ?_⟩
  · intro nonce
    apply exists_encodeFrame
    refine (length_encode_clientHello _).trans ?_
    rw [named]
    decide
  · apply Duo.stranded_of_large_request
    intro fits
    have payload := (PairingMessage.le_length_encode_request _).trans
      ((length_encode_data _).1.trans fits)
    rw [exampleDuo_deviceName, named] at payload
    exact absurd payload (by decide)

end Example

end BridgeOS.Session
