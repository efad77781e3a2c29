import Mathlib.Data.UInt
import BridgeOS.Clipboard.Monitor
import BridgeOS.Node.Link

/-! # In whose name a peer may speak

Both frame loops hand a clipboard frame of a trusted session to the engine as it
is. The origin of an entry is a field of the payload and is not compared with the
identity the session has authenticated.
-/

namespace BridgeOS.Node

open BridgeOS.Session hiding recvFrame
open DataFrame
open BridgeOS.Clipboard Proc

section Loops

variable [Crypto] {σ : Type}

/-- A frame that arrived on the session is handled, by `process_next_frame` or in the
    loop of the node's connection. -/
inductive Processes (machine : Machine σ) (self : ActiveSession) (w : World σ) (frame : Frame) :
    World σ → Prop where
  | session {events : List SessionEvent} {more : Bool} {w' : World σ}
      (run : Runs (handleFrame self frame) events (.ok more)) (effect : machine.Effect w events w') :
      Processes machine self w frame w'
  | node {events : List NodeEvent} {next : Option Phase} {w' : World σ}
      (run : Runs (handleInbound self frame) events (.ok next))
      (effect : Along (Works machine) w events w') : Processes machine self w frame w'

variable {machine : Machine σ} {self : ActiveSession} {w w' : World σ}

/-- The world in which the engine has handled a clipboard frame. -/
def afterFrame (machine : Machine σ) (w : World σ) (df : DataFrame) : World σ :=
  { w with engine := (w.engine.handleIncomingFrame machine.blake3 machine.backend df).engine }

theorem processes_clipboard {payload : Bytes}
    (processed : Processes machine self w (.data ⟨channelClipboard, payload⟩) w') :
    w' = w ∨ w.state = .trusted ∧ w' = afterFrame machine w ⟨channelClipboard, payload⟩ := by
  have other : channelClipboard ≠ channelPairing := by decide
  cases processed with
  | @session events more _ run effect =>
      simp only [handleFrame, other, if_false, if_true, request_bind] at run
      obtain ⟨state, rest, rfl, taken⟩ := runs_ask_ok.mp run
      obtain ⟨_, ⟨found, rfl⟩, effect⟩ := effect
      by_cases trusted : state = .trusted
      · subst trusted
        cases enabled : self.clipboardEngine with
        | false =>
            simp only [SessionState.isTrusted, enabled, Bool.not_true, Bool.false_eq_true, if_false] at taken
            obtain ⟨rfl, -⟩ := runs_ok.mp taken
            exact .inl effect
        | true =>
            simp only [SessionState.isTrusted, enabled, Bool.not_true, Bool.false_eq_true, if_false,
              if_true] at taken
            obtain ⟨answer, rest, rfl, ended⟩ := runs_ask_ok.mp taken
            obtain ⟨rfl, -⟩ := runs_ok.mp ended
            obtain ⟨_, ⟨-, rfl⟩, rfl⟩ := effect
            exact .inr ⟨found.symm, rfl⟩
      · have untrusted : state.isTrusted = false := SessionState.isTrusted_eq_false trusted
        simp only [untrusted, Bool.not_false, if_true] at taken
        obtain ⟨rfl, -⟩ := runs_ok.mp taken
        exact .inl effect
  | @node events next _ run effect =>
      simp only [handleInbound, other, if_false, if_true, request_bind] at run
      obtain ⟨state, rest, rfl, taken⟩ := runs_ask_ok.mp run
      obtain ⟨_, ⟨found, rfl⟩, effect⟩ := effect
      by_cases trusted : state = .trusted
      · subst trusted
        simp only [SessionState.isTrusted, if_true] at taken
        obtain ⟨answer, rest, rfl, ended⟩ := runs_ask_ok.mp taken
        obtain ⟨rfl, -⟩ := runs_ok.mp ended
        obtain ⟨_, ⟨-, rfl⟩, rfl⟩ := effect
        exact .inr ⟨found.symm, rfl⟩
      · have untrusted : state.isTrusted = false := SessionState.isTrusted_eq_false trusted
        simp only [untrusted, Bool.false_eq_true, if_false] at taken
        obtain ⟨rfl, -⟩ := runs_ok.mp taken
        exact .inl effect

/-- A trusted session's frame reaches the engine. -/
theorem processes_trusted (machine : Machine σ) (self : ActiveSession) {w : World σ}
    (trusted : w.state = .trusted) (payload : Bytes) :
    Processes machine self w (.data ⟨channelClipboard, payload⟩)
      (afterFrame machine w ⟨channelClipboard, payload⟩) := by
  have other : channelClipboard ≠ channelPairing := by decide
  let outcome := w.engine.handleIncomingFrame machine.blake3 machine.backend
    ⟨channelClipboard, payload⟩
  have run : Runs (handleInbound self (.data ⟨channelClipboard, payload⟩))
      [⟨.session .readState, .trusted⟩,
        ⟨.session (.clipboardFrame ⟨channelClipboard, payload⟩), outcome.result⟩]
      (.ok (some .select)) := by
    simp only [handleInbound, other, if_false, if_true]
    exact .ask (.ask (.stop _))
  exact .node run ⟨w, ⟨trusted.symm, rfl⟩, _, ⟨rfl, rfl⟩, rfl⟩

/-- The records of all other origins stay as they are exactly when the frame does
    not speak for one of them. -/
theorem other_origins_kept_iff (machine : Machine σ) (self : ActiveSession) (w : World σ)
    (payload : Bytes) :
    (∀ w', Processes machine self w (.data ⟨channelClipboard, payload⟩) w' →
      ∀ origin, origin ≠ self.remoteNodeId →
        w'.engine.guard.lastSequence origin = w.engine.guard.lastSequence origin) ↔
      (w.state = .trusted → ∀ origin, origin ≠ self.remoteNodeId →
        ¬ ClipboardSyncEngine.Speaks machine.blake3 w.engine ⟨channelClipboard, payload⟩
          origin) := by
  have changes := fun origin => ClipboardSyncEngine.lastSequence_changes_iff machine.blake3
    machine.backend w.engine ⟨channelClipboard, payload⟩ origin
  constructor
  · intro kept trusted origin different speaks
    exact (changes origin).mpr speaks
      (kept _ (processes_trusted machine self trusted payload) origin different)
  · intro silent w' processed origin different
    rcases processes_clipboard processed with rfl | ⟨trusted, rfl⟩
    · rfl
    · exact not_not.mp ((changes origin).not.mpr (silent trusted origin different))

/-- A trusted peer sends an entry in the name of somebody else. -/
theorem forgery_recorded (machine : Machine σ) (self : ActiveSession) {w : World σ}
    (trusted : w.state = .trusted) {entry : ClipboardEntry} {payload : Bytes}
    (message : ClipboardMessage.fromDataFrame ⟨channelClipboard, payload⟩ = .ok (.sync entry))
    (admits : ClipboardSyncEngine.Admits machine.blake3 w.engine entry) :
    ∃ w', Processes machine self w (.data ⟨channelClipboard, payload⟩) w' ∧
      w'.engine.guard.lastSequence entry.metadata.origin = some entry.metadata.sequence ∧
      w'.engine.clipboard = (machine.backend.setContent w.engine.clipboard entry.content).2 := by
  refine ⟨_, processes_trusted machine self trusted payload, ?_, ?_⟩
  · rw [afterFrame, ClipboardSyncEngine.handleIncomingFrame_of_sync machine.blake3 machine.backend
      message admits, EchoGuard.lastSequence_noted, if_pos rfl]
  · rw [afterFrame, ClipboardSyncEngine.handleIncomingFrame_of_sync machine.blake3 machine.backend
      message admits]

end Loops

section Example

attribute [local instance] transparentCrypto

/-- The session is with one peer, the entry claims another origin with the highest
    sequence number there is. -/
theorem forged_origin_is_recorded :
    let machine : Machine (Option ClipboardContent) :=
      ⟨fun _ => .fill 32 0, memoryBackend, ⟨.fill 32 1⟩, none⟩
    let peer : IdentityKey := ⟨.fill 32 2⟩
    let self : ActiveSession := ⟨⟨.fill 32 1⟩, "node", .linux, peer.nodeId, peer.publicKey, "peer",
      .linux, .trusted, true, none⟩
    let w : World (Option ClipboardContent) :=
      ⟨.trusted, ∅, ⟨⟨.fill 32 1⟩, .new 256, .default, none⟩, .empty⟩
    let frame := (ClipboardMessage.sync (.new machine.blake3 0 ⟨.fill 32 3⟩ (2 ^ 64 - 1) (.text "x")
      false)).toDataFrame
    ∃ w', Processes machine self w (.data frame) w' ∧ (⟨.fill 32 3⟩ : NodeId) ≠ self.remoteNodeId ∧
      w.engine.guard.lastSequence ⟨.fill 32 3⟩ = none ∧
      w'.engine.guard.lastSequence ⟨.fill 32 3⟩ = some (2 ^ 64 - 1) ∧
      w'.engine.clipboard = some (.text "x") := by
  intro machine peer self w frame
  have message := ClipboardEntry.fromDataFrame_new machine.blake3 0 ⟨.fill 32 3⟩ (2 ^ 64 - 1) false
    (show (utf8 "x").length < 2 ^ 63 by decide)
  have intact := ClipboardEntry.validateIntegrity_new machine.blake3 0 ⟨.fill 32 3⟩ (2 ^ 64 - 1) false
    (show (utf8 "x").length < 2 ^ 63 by decide)
  obtain ⟨w', processed, recorded, applied⟩ := forgery_recorded machine self (w := w) rfl message
    ⟨by decide, intact, rfl, ⟨by decide, by simp [w, EchoGuard.lastSequence, EchoGuard.new]⟩⟩
  exact ⟨w', processed, by decide, rfl, recorded, applied⟩

end Example

end BridgeOS.Node
