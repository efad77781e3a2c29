import BridgeOS.Lib.Contract
import BridgeOS.Session.Questions

/-! # A handshake takes handshake frames only

The node's side of a handshake and that of `bridge send` stop at the first frame
of another kind. One that has got through has received nothing but handshake
frames, and it has sent no data.
-/

namespace BridgeOS.Session

open Proc

variable [Crypto]

/-- Neither receives nor sends data, nor opens a file. -/
def Call.Silent : Call → Prop
  | .send (.data _) => False
  | .recv => False
  | .recvData _ => False
  | .openReceiver _ => False
  | _ => True

/-- A handshake ends at the first frame that is not one of a handshake. -/
def greeting : Contract Call Call.Answer Bool where
  may clean c := c.Silent ∨ c = .recv ∧ clean = true
  moves clean event clean' := clean' = (clean && !takesOther event)

theorem Call.OfHandshake.silent {signs : Bytes → Prop} {c : Call} (asked : c.OfHandshake signs)
    (other : c ≠ .recv) : c.Silent := by
  cases c with
  | recv => exact absurd rfl other
  | send frame =>
      cases frame with
      | data df => exact asked
      | _ => trivial
  | recvData channel => exact asked
  | openReceiver manifest => exact asked
  | _ => trivial

/-- A handshake that keeps to the contract in its last part keeps to it. -/
theorem keeps_of_greeting {ε α : Type} {signs : Bytes → Prop} {Q : Proc Call Call.Answer ε α → Prop}
    {p : Proc Call Call.Answer ε α} (leads : Greeting signs Q p)
    (ends : ∀ q, Q q → q.AllCalls Call.Silent) : p.Keeps greeting (fun clean _ => clean = true) true := by
  induction leads with
  | reached here =>
      refine (ends _ here).keeps (fun _ _ _ allowed => .inl allowed) ?_ rfl
      rintro clean c answer clean' rfl allowed rfl
      cases c with
      | recv => exact allowed.elim
      | _ => rfl
  | failed e => trivial
  | @ask c next asked stopped rest ih =>
      refine ⟨?_, ?_⟩
      · by_cases receives : c = .recv
        · exact .inr ⟨receives, rfl⟩
        · exact .inl (asked.ofHandshake.silent receives)
      · rintro answer clean rfl
        cases taken : takesOther ⟨c, answer⟩ with
        | false => exact ih answer
        | true =>
            obtain ⟨e, same⟩ := stopped answer taken
            rw [same]
            trivial

theorem serverHandshake_keeps (endpoint : Endpoint) :
    (serverHandshake endpoint).Keeps greeting (fun clean _ => clean = true) true := by
  refine keeps_of_greeting serverHandshake_greeting ?_
  rintro _ ⟨nodeId, key, make, own, made, rfl⟩
  refine ⟨trivial, fun answer => ?_⟩
  rcases answer with e | _ | _
  · cases e <;> first | trivial | exact ⟨trivial, fun _ => trivial⟩
  · trivial
  · exact ⟨trivial, fun _ => ⟨trivial, fun _ => trivial⟩⟩

theorem connectAndHandshake_keeps (clientKey : IdentityKey) (deviceName : String) :
    (Cli.connectAndHandshake clientKey deviceName).Keeps greeting (fun clean _ => clean = true) true := by
  refine keeps_of_greeting (connectAndHandshake_greeting clientKey deviceName) ?_
  rintro _ ⟨hello, rfl⟩
  trivial

end BridgeOS.Session
