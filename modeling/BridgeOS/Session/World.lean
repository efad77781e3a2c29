import BridgeOS.Session.Questions
import BridgeOS.Session.Transcripts

/-! # What the questions of a session do

The state of the session, the trust store, the clipboard engine and the receive
directory, and what each question does to them. The peer, the user and faults of
stream, database and disk are not restricted: every answer they can give is an
answer here.
-/

namespace BridgeOS.Session

open BridgeOS.Transfer BridgeOS.Clipboard Proc
open PathBuf (Location)

variable [Crypto] {σ : Type}

structure World (σ : Type) where
  state : SessionState
  store : TrustStore
  engine : ClipboardSyncEngine σ
  disk : Disk Location

/-- What does not change: the hash, the clipboard, the local key and the directory. -/
structure Machine (σ : Type) where
  blake3 : Bytes → FixedBytes 32
  backend : ClipboardBackend σ
  localIdentity : IdentityKey
  receiveDir : Option PathBuf

/-- A machine without a receive directory, which the examples run on. -/
def exampleMachine : Machine (Option ClipboardContent) :=
  ⟨fun _ => .fill 32 0, memoryBackend, ⟨.fill 32 1⟩, none⟩

namespace Machine

variable (machine : Machine σ)

/-- One question with its answer takes the world from `w` to `w'`. -/
def Handles (w : World σ) : SessionEvent → World σ → Prop
  | ⟨.host c, answer⟩, w' => c.Honest machine.localIdentity answer ∧ w' = w
  | ⟨.isTrusted nodeId key, answer⟩, w' =>
      (answer = w.store.isTrusted nodeId key ∨ ∃ text, answer = .error (.database text)) ∧ w' = w
  | ⟨.updateLastSeen nodeId timestamp, .ok ()⟩, w' =>
      w' = { w with store := w.store.updateLastSeen nodeId timestamp }
  | ⟨.savePeer peer, .ok ()⟩, w' => w' = { w with store := w.store.savePeer peer }
  | ⟨.setState state, ()⟩, w' => w' = { w with state }
  | ⟨.readState, answer⟩, w' => answer = w.state ∧ w' = w
  | ⟨.clipboardFrame frame, answer⟩, w' =>
      let outcome := w.engine.handleIncomingFrame machine.blake3 machine.backend frame
      answer = outcome.result ∧ w' = { w with engine := outcome.engine }
  | ⟨.openReceiver manifest, .ok receiver⟩, w' =>
      ∃ dir, machine.receiveDir = some dir ∧
        receiver = (FileReceiver.toDir w.disk dir manifest).1 ∧
        w' = { w with disk := (FileReceiver.toDir w.disk dir manifest).2 }
  -- a failing disk may keep part of what was asked
  | ⟨.openReceiver _, .error _⟩, w' => ∃ disk, w' = { w with disk }
  | _, w' => w' = w

abbrev Effect (w : World σ) (events : List SessionEvent) (w' : World σ) : Prop :=
  Along machine.Handles w events w'

end Machine

/-- Touches no application data and grants no trust. -/
def Call.Harmless : Call → Prop
  | .clipboardFrame _ => False
  | .openReceiver _ => False
  | .setState state => state ≠ .trusted
  | _ => True

/-- What a harmless question leaves as it was. -/
structure World.Spared (w w' : World σ) : Prop where
  engine : w'.engine = w.engine
  disk : w'.disk = w.disk
  trusted : w'.state = .trusted → w.state = .trusted

namespace Machine

variable {machine : Machine σ} {w w' : World σ}

theorem Handles.spared {event : SessionEvent} (handled : machine.Handles w event w')
    (harmless : event.call.Harmless) : w.Spared w' := by
  obtain ⟨call, answer⟩ := event
  cases call with
  | clipboardFrame frame => exact harmless.elim
  | openReceiver manifest => exact harmless.elim
  | setState state =>
      cases handled
      exact ⟨rfl, rfl, fun trusted => (harmless trusted).elim⟩
  | host c =>
      obtain ⟨-, rfl⟩ := handled
      exact ⟨rfl, rfl, id⟩
  | isTrusted nodeId key =>
      obtain ⟨-, rfl⟩ := handled
      exact ⟨rfl, rfl, id⟩
  | readState =>
      obtain ⟨-, rfl⟩ := handled
      exact ⟨rfl, rfl, id⟩
  | updateLastSeen nodeId timestamp => cases answer <;> cases handled <;> exact ⟨rfl, rfl, id⟩
  | savePeer peer => cases answer <;> cases handled <;> exact ⟨rfl, rfl, id⟩
  | send frame => cases handled; exact ⟨rfl, rfl, id⟩
  | recv => cases handled; exact ⟨rfl, rfl, id⟩
  | recvData channel => cases handled; exact ⟨rfl, rfl, id⟩
  | confirm sas name => cases handled; exact ⟨rfl, rfl, id⟩

/-- The trust store is written by a completed pairing and by a handshake. -/
theorem Handles.store {event : SessionEvent} (handled : machine.Handles w event w') :
    w'.store = w.store ∨
      (∃ peer, event = ⟨.savePeer peer, .ok ()⟩ ∧ w'.store = w.store.savePeer peer) ∨
      ∃ nodeId timestamp, event.call = .updateLastSeen nodeId timestamp ∧
        w'.store = w.store.updateLastSeen nodeId timestamp := by
  obtain ⟨call, answer⟩ := event
  cases call with
  | savePeer peer =>
      cases answer with
      | error e => exact .inl (congrArg World.store handled)
      | ok done => exact .inr (.inl ⟨peer, rfl, congrArg World.store handled⟩)
  | updateLastSeen nodeId timestamp =>
      cases answer with
      | error e => exact .inl (congrArg World.store handled)
      | ok done => exact .inr (.inr ⟨nodeId, timestamp, rfl, congrArg World.store handled⟩)
  | openReceiver manifest =>
      cases answer with
      | error e =>
          obtain ⟨disk, rfl⟩ := handled
          exact .inl rfl
      | ok receiver =>
          obtain ⟨dir, -, -, rfl⟩ := handled
          exact .inl rfl
  | host c => exact .inl (congrArg World.store handled.2)
  | isTrusted nodeId key => exact .inl (congrArg World.store handled.2)
  | readState => exact .inl (congrArg World.store handled.2)
  | clipboardFrame frame =>
      obtain ⟨-, rfl⟩ := handled
      exact .inl rfl
  | setState state =>
      cases handled
      exact .inl rfl
  | send frame => exact .inl (congrArg World.store handled)
  | recv => exact .inl (congrArg World.store handled)
  | recvData channel => exact .inl (congrArg World.store handled)
  | confirm sas name => exact .inl (congrArg World.store handled)

/-- The state of a session is what it was last set to. -/
theorem Handles.state {event : SessionEvent} (handled : machine.Handles w event w')
    (kept : ∀ state, event.call ≠ .setState state) : w'.state = w.state := by
  obtain ⟨call, answer⟩ := event
  cases call with
  | setState state => exact absurd rfl (kept state)
  | savePeer peer => cases answer <;> cases handled <;> rfl
  | updateLastSeen nodeId timestamp => cases answer <;> cases handled <;> rfl
  | openReceiver manifest =>
      cases answer with
      | error e =>
          obtain ⟨disk, rfl⟩ := handled
          rfl
      | ok receiver =>
          obtain ⟨dir, -, -, rfl⟩ := handled
          rfl
  | host c => exact congrArg World.state handled.2
  | isTrusted nodeId key => exact congrArg World.state handled.2
  | readState => exact congrArg World.state handled.2
  | clipboardFrame frame =>
      obtain ⟨-, rfl⟩ := handled
      rfl
  | send frame => exact congrArg World.state handled
  | recv => exact congrArg World.state handled
  | recvData channel => exact congrArg World.state handled
  | confirm sas name => exact congrArg World.state handled

theorem Effect.spared {events : List SessionEvent} (effect : machine.Effect w events w')
    (harmless : ∀ event ∈ events, event.call.Harmless) : w.Spared w' := by
  refine Along.fold (R := World.Spared) (fun _ => ⟨rfl, rfl, id⟩) ?_ ?_ effect
  · intro a b c first second
    exact ⟨second.engine.trans first.engine, second.disk.trans first.disk,
      first.trusted ∘ second.trusted⟩
  · intro event member a b handled
    exact handled.spared (harmless event member)

end Machine

/-- Signs no handshake challenge. -/
def Call.NoChallenge (c : Call) : Prop :=
  ∀ clientNonce serverNonce, c ≠ .host (.sign (handshakeChallenge clientNonce serverNonce))

/-- What everything but the client's handshake and the last step of a ceremony asks. -/
def Call.Plain (c : Call) : Prop := c.Harmless ∧ c.NoChallenge

section Programs

variable {endpoint : Endpoint} {self : ActiveSession}

theorem harmless_of_plain {ε α : Type} {p : Proc Call Call.Answer ε α} (all : p.AllCalls Call.Plain) :
    p.AllCalls Call.Harmless := all.mono fun _ => And.left

/-- The tags keep the two kinds of signed texts apart. -/
theorem confirmationText_ne_challenge (session : PairingSession) (sas : SasVerification)
    (clientNonce serverNonce : FixedBytes 32) :
    session.confirmationText sas ≠ handshakeChallenge clientNonce serverNonce := by
  intro same
  have tags := congrArg (List.take 10) same
  simp only [PairingSession.confirmationText, handshakeChallenge, List.append_assoc] at tags
  rw [List.take_append_of_le_length (by decide), List.take_append_of_le_length (by decide)] at tags
  exact absurd tags (by decide)

theorem Call.OfHandshake.harmless {signs : Bytes → Prop} (c : Call) (asked : c.OfHandshake signs) :
    c.Harmless := by
  cases c with
  | clipboardFrame frame => exact asked
  | openReceiver manifest => exact asked
  | setState state => exact asked.elim
  | _ => trivial

theorem Call.OfHandshake.noChallenge (c : Call) (asked : c.OfHandshake fun _ => False) : c.NoChallenge := by
  rintro clientNonce serverNonce rfl
  exact asked

theorem Call.Pairs.plain (c : Call) (pairs : c.Pairs) : c.Plain := by
  constructor
  · cases c with
    | clipboardFrame frame => exact pairs
    | openReceiver manifest => exact pairs
    | setState state => exact pairs
    | _ => trivial
  · rintro clientNonce serverNonce rfl
    obtain ⟨session, sas, same⟩ := pairs
    exact confirmationText_ne_challenge session sas clientNonce serverNonce same.symm

theorem sendFrame_plain (frame : Frame) : (sendFrame frame).AllCalls Call.Plain :=
  ⟨⟨trivial, by simp [Call.NoChallenge]⟩, fun sent => allCalls_orFail _ sent⟩

theorem serverHandshake_plain : (serverHandshake endpoint).AllCalls Call.Plain :=
  (allCalls_of_greeting serverHandshake_greeting).mono fun _ asked => ⟨asked.harmless, asked.noChallenge⟩

theorem clientHandshake_harmless : (clientHandshake endpoint).AllCalls Call.Harmless :=
  (allCalls_of_greeting clientHandshake_greeting).mono Call.OfHandshake.harmless

theorem openPairing_plain {isInitiator : Bool} : (openPairing self isInitiator).AllCalls Call.Plain :=
  ((openPairing_matched isInitiator).mono fun _ exchanges => exchanges.pairs.plain).allCalls

theorem concludePairing_plain {session : PairingSession} {sas : SasVerification} :
    (concludePairing self session sas).AllCalls Call.Plain :=
  (concludePairing_within (R := fun _ => True) sas Call.Pairs.plain fun _ _ =>
    ⟨⟨trivial, by simp [Call.NoChallenge]⟩, fun _ => trivial⟩).allCalls

end Programs

end BridgeOS.Session
