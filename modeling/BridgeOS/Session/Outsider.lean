import BridgeOS.Session.World

/-! # Sessions that nobody has let in

A session is let in by the answer of the trust store in its handshake, or by the
peer it has saved at the end of a pairing. Until then no function of the session
touches application data, sends a clipboard frame or sets the state to trusted.
-/

namespace BridgeOS.Session

open BridgeOS.Transfer Proc

variable [Crypto]

/-- Sends no clipboard frame. -/
def Call.Quiet : Call → Prop
  | .send (.data df) => df.channel ≠ DataFrame.channelClipboard
  | _ => True

def Call.Innocent (c : Call) : Prop := c.Harmless ∧ c.Quiet

/-- The trust store does not vouch for `n`. -/
def Unlisted (n : NodeId) : SessionEvent → Prop
  | ⟨.isTrusted nodeId _, answer⟩ => nodeId = n → answer ≠ .ok true
  | _ => True

/-- No peer is saved, and the session is not found trusted. -/
def Shut : SessionEvent → Prop
  | ⟨.savePeer _, answer⟩ => answer ≠ .ok ()
  | ⟨.readState, state⟩ => state ≠ .trusted
  | _ => True

theorem Call.OfHandshake.innocent {signs : Bytes → Prop} (c : Call) (asked : c.OfHandshake signs) :
    c.Innocent := by
  refine ⟨asked.harmless, ?_⟩
  cases c with
  | send frame =>
      cases frame with
      | data df => exact asked.elim
      | _ => trivial
  | _ => trivial

theorem Call.Pairs.quiet (c : Call) (pairs : c.Pairs) : c.Quiet := by
  cases c with
  | send frame =>
      cases frame with
      | data df =>
          intro clipboard
          have same : DataFrame.channelPairing = DataFrame.channelClipboard := pairs.symm.trans clipboard
          exact absurd same (by decide)
      | _ => trivial
  | _ => trivial

section Handshakes

variable {endpoint : Endpoint} {n : NodeId}

/-- A state to start with that the trust store has not vouched for. -/
def Unvouched (n : NodeId) (session : ActiveSession) : Prop :=
  session.remoteNodeId = n → session.state ≠ .trusted

theorem unvouched_of_greeting {signs : Bytes → Prop} {p : SessionProc ActiveSession}
    (greeting : Greeting signs Consults p) : p.Within (Unlisted n) Call.Innocent (Unvouched n) := by
  have within : p.Within (Unlisted n) (Call.OfHandshake signs) (Unvouched n) := by
    refine within_of_greeting greeting fun self key known unlisted granted same trusted => ?_
    exact unlisted same (congrArg Except.ok (granted trusted))
  exact within.mono Call.OfHandshake.innocent

end Handshakes

section Calls

variable {self : ActiveSession}

/-- A ceremony that saves no peer does not conclude. -/
theorem executePairing_shut (isInitiator : Bool) :
    (executePairing self isInitiator).Within Shut Call.Innocent fun _ => False :=
  executePairing_within isInitiator (fun _ pairs => ⟨pairs.plain.1, pairs.quiet⟩) fun _ _ =>
    ⟨⟨trivial, trivial⟩, fun shut => absurd rfl shut⟩

theorem processNextFrame_shut : (processNextFrame self).Within Shut Call.Innocent fun _ => True := by
  refine (processNextFrame_serves Shut).mono fun c serves => ?_
  cases c with
  | recv => exact ⟨trivial, trivial⟩
  | readState => exact ⟨trivial, trivial⟩
  | send frame =>
      cases frame with
      | control c => exact ⟨trivial, trivial⟩
      | data df => exact absurd rfl serves.1
      | handshake h => exact serves.elim
  | setState state =>
      obtain ⟨text, rfl⟩ := serves
      exact ⟨nofun, trivial⟩
  | clipboardFrame frame => exact absurd rfl serves.1
  | openReceiver manifest => exact absurd rfl serves.1
  | _ => exact serves.elim

end Calls

end BridgeOS.Session
