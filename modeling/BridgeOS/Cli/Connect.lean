import BridgeOS.Session.Handshake

/-! # The command line's own handshake

`connect_and_handshake`, which `bridge ping` and `bridge send` use in place of
`client_handshake`: the same four messages, but no public key is made from the
server's identifier and no trust store is asked.
-/

namespace BridgeOS.Cli

open Session Proc

variable [Crypto]

/-- An error with its context; a frame in place of its debug text. -/
inductive CliError where
  | context (text : String) (cause : BridgeError)
  | message (text : String)
  | unexpectedFrame (text : String) (got : Frame)
  deriving DecidableEq

abbrev CliProc (α : Type) := Proc Call Call.Answer CliError α

/-- Steps 3 and 4 from the signature on. -/
def awaitVerdict (serverHello : ServerHello) (signature : FixedBytes 64) : CliProc ServerHello := do
  let sent ← .request (Call.send (.handshake (.authResponse ⟨signature⟩)))
  .orFail (CliError.context "Failed to send AuthResponse") sent
  let received ← .request Call.recv
  match ← .orFail (CliError.context "Failed to receive AuthResult") received with
  | none => .error (.message "Connection closed unexpectedly while awaiting AuthResult")
  | some (.handshake (.authResult result)) =>
      if result.success then return serverHello
      else .error (.message ("Peer rejected authentication: " ++
        result.reason.getD "unspecified error"))
  | some other => .error (.unexpectedFrame "Expected AuthResult frame, received: " other)

def connectAndHandshake (clientKey : IdentityKey) (deviceName : String) : CliProc ServerHello := do
  let (clientNonce, serverHello) ← exchangeHellos clientKey deviceName
    (CliError.context "Failed to send ClientHello")
    (CliError.context "Failed to receive ServerHello frame")
    (.message "Connection closed unexpectedly while awaiting ServerHello")
    (CliError.unexpectedFrame "Expected ServerHello from peer, received: ")
  let signature ← (signHandshakeChallenge clientNonce serverHello.serverNonce).lift Call.host
    (fun _ answer => answer) CliError.message
  awaitVerdict serverHello signature

end BridgeOS.Cli
