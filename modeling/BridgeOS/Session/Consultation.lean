import BridgeOS.Session.Questions

/-! # A handshake asks the trust store once

Either handshake fails on its way, or it ends by asking the trust store about the
peer whose key it has, and a session is made only if the store answers.
-/

namespace BridgeOS.Session

open Proc

variable [Crypto]

/-- Asks for trust in the key that the identifier stands for. -/
def Call.Bound : Call → Prop
  | .isTrusted nodeId key => key.nodeId = nodeId
  | _ => True

/-- The trust store gives no answer about `n`. -/
def Undecided (n : NodeId) : SessionEvent → Prop
  | ⟨.isTrusted nodeId _, answer⟩ => nodeId = n → ∀ known, answer ≠ .ok known
  | _ => True

def Refused (n : NodeId) : SessionEvent → Prop
  | ⟨.isTrusted nodeId _, answer⟩ => nodeId = n ∧ answer = .error (.peerRevoked n)
  | _ => False

variable {signs : Bytes → Prop} {p : SessionProc ActiveSession} {n : NodeId}

theorem bound_of_greeting (greeting : Greeting signs Consults p) : p.AllCalls Call.Bound := by
  refine (allCalls_of_greeting greeting).mono fun c asked => ?_
  cases c with
  | isTrusted nodeId key => exact asked
  | _ => trivial

/-- Without an answer about `n` there is no session with it. -/
theorem undecided_of_greeting (greeting : Greeting signs Consults p) :
    p.Within (Undecided n) (fun _ => True) fun self => self.remoteNodeId ≠ n := by
  have within : p.Within (Undecided n) (Call.OfHandshake signs) fun self => self.remoteNodeId ≠ n :=
    within_of_greeting greeting fun self key known undecided _ same => undecided same known rfl
  exact within.mono fun _ _ => trivial

/-- A peer that the store has revoked is turned away with that error. -/
theorem failsUpon_of_greeting (greeting : Greeting signs Consults p) :
    p.FailsUpon (Refused n) (· = .peerRevoked n.toHex) := by
  refine greeting.failsUpon ?_ ?_
  · intro c answer greets refused
    cases c with
    | isTrusted nodeId key => exact greets
    | _ => exact refused
  · rintro _ ⟨nodeId, key, make, own, made, rfl⟩ answer
    constructor
    · rintro ⟨rfl, rfl⟩
      exact fun _ => rfl
    · rcases answer with e | _ | _
      · cases e <;> first | trivial | exact fun _ => ⟨nofun, trivial⟩
      · trivial
      · exact fun _ => ⟨nofun, fun _ => ⟨nofun, trivial⟩⟩

end BridgeOS.Session
