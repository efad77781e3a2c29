import BridgeOS.Clipboard.Types
import Mathlib.Data.List.AList
import Mathlib.Data.Finset.Basic

/-! # The clipboard engine

Echo guard, policy and the handling of a peer's clipboard frame. The backend is
any clipboard that can be set and cleared and may refuse; the engine keeps its
state. What an operation puts on the event channel is part of its result.
-/

namespace BridgeOS.Clipboard

structure EchoGuard where
  capacity : Nat
  history : List (FixedBytes 32)
  seenHashes : Finset (FixedBytes 32)
  sequences : AList (fun _ : NodeId => UInt64)

namespace EchoGuard

def new (capacity : Nat) : EchoGuard :=
  ⟨if capacity = 0 then 256 else capacity, [], ∅, ∅⟩

def shouldSuppress (guard : EchoGuard) (hash : FixedBytes 32) : Bool := hash ∈ guard.seenHashes

def pushHash (guard : EchoGuard) (hash : FixedBytes 32) : EchoGuard :=
  if hash ∈ guard.seenHashes then guard
  else
    let room :=
      if guard.history.length ≥ guard.capacity then
        match guard.history with
        | [] => guard
        | oldest :: rest =>
            { guard with history := rest, seenHashes := guard.seenHashes.erase oldest }
      else guard
    { room with history := room.history ++ [hash], seenHashes := insert hash room.seenHashes }

/-- Whether the entry is fresh, and the guard that has taken note of it. -/
def recordReceived (guard : EchoGuard) (origin : NodeId) (sequence : UInt64) (hash : FixedBytes 32) :
    Bool × EchoGuard :=
  if guard.shouldSuppress hash then (false, guard)
  else if (guard.sequences.lookup origin).any (fun last => sequence ≤ last) then (false, guard)
  else (true, { guard with sequences := guard.sequences.insert origin sequence }.pushHash hash)

end EchoGuard

structure ClipboardPolicy where
  maxTextBytes : Nat
  maxImageBytes : Nat
  allowImages : Bool
  allowHtml : Bool
  filterSensitive : Bool
  enabled : Bool
  deriving DecidableEq

namespace ClipboardPolicy

def default : ClipboardPolicy :=
  { maxTextBytes := 2 * 1024 * 1024
    maxImageBytes := 10 * 1024 * 1024
    allowImages := true
    allowHtml := true
    filterSensitive := true
    enabled := true }

def validate (policy : ClipboardPolicy) (content : ClipboardContent) (isSensitive : Bool) :
    Except ClipboardError Unit :=
  if !policy.enabled then .error (.backendError "Clipboard synchronization is disabled")
  else if isSensitive && policy.filterSensitive then .error .sensitiveContentBlocked
  else match content with
    | .text _ =>
        if content.byteLen > policy.maxTextBytes then
          .error (.oversizedPayload content.byteLen policy.maxTextBytes)
        else .ok ()
    | .html _ _ =>
        if !policy.allowHtml then .error (.unsupportedFormat "HTML format disabled by policy")
        else if content.byteLen > policy.maxTextBytes then
          .error (.oversizedPayload content.byteLen policy.maxTextBytes)
        else .ok ()
    | .image format _ _ _ =>
        if !policy.allowImages then
          .error (.unsupportedFormat ("Image format (" ++ format.debug ++ ") disabled by policy"))
        else if content.byteLen > policy.maxImageBytes then
          .error (.oversizedPayload content.byteLen policy.maxImageBytes)
        else .ok ()

end ClipboardPolicy

inductive ClipboardSyncEvent where
  | remoteApplied (origin : NodeId) (sequence : UInt64) (hash : FixedBytes 32)
      (format : ClipboardFormat)
  | echoSuppressed (hash : FixedBytes 32) (reason : String)
  | rejected (reason : String)
  deriving DecidableEq

/-- A clipboard with its own state. -/
structure ClipboardBackend (σ : Type) where
  setContent : σ → ClipboardContent → Except ClipboardError Unit × σ
  clear : σ → Except ClipboardError Unit × σ

/-- The in-memory clipboard never refuses. -/
def memoryBackend : ClipboardBackend (Option ClipboardContent) where
  setContent _ content := (.ok (), some content)
  clear _ := (.ok (), none)

structure ClipboardSyncEngine (σ : Type) where
  localNodeId : NodeId
  guard : EchoGuard
  policy : ClipboardPolicy
  clipboard : σ

namespace ClipboardSyncEngine

variable {σ : Type} (blake3 : Bytes → FixedBytes 32) (backend : ClipboardBackend σ)

structure Outcome (σ : Type) where
  result : Except ClipboardError (Option ClipboardSyncEvent)
  engine : ClipboardSyncEngine σ
  emitted : List ClipboardSyncEvent

def applySync (engine : ClipboardSyncEngine σ) (entry : ClipboardEntry) : Outcome σ :=
  if entry.metadata.origin = engine.localNodeId then ⟨.ok none, engine, []⟩
  else match entry.validateIntegrity blake3 with
    | .error e => ⟨.error e, engine, [.rejected e.display]⟩
    | .ok () =>
        match engine.policy.validate entry.content entry.metadata.isSensitive with
        | .error e => ⟨.error e, engine, [.rejected e.display]⟩
        | .ok () =>
            match engine.guard.recordReceived entry.metadata.origin entry.metadata.sequence
                entry.metadata.contentHash with
            | (false, guard) =>
                let event := .echoSuppressed entry.metadata.contentHash
                  "Incoming entry already seen or has stale sequence"
                ⟨.ok (some event), { engine with guard }, [event]⟩
            | (true, guard) =>
                match backend.setContent engine.clipboard entry.content with
                | (.error e, clipboard) => ⟨.error e, { engine with guard, clipboard }, []⟩
                | (.ok (), clipboard) =>
                    let event := .remoteApplied entry.metadata.origin entry.metadata.sequence
                      entry.metadata.contentHash entry.metadata.format
                    ⟨.ok (some event), { engine with guard, clipboard }, [event]⟩

def applyClear (engine : ClipboardSyncEngine σ) (origin : NodeId) (sequence : UInt64) : Outcome σ :=
  if origin = engine.localNodeId then ⟨.ok none, engine, []⟩
  else match engine.guard.recordReceived origin sequence (.fill 32 0) with
    | (false, guard) => ⟨.ok none, { engine with guard }, []⟩
    | (true, guard) =>
        match backend.clear engine.clipboard with
        | (.error e, clipboard) => ⟨.error e, { engine with guard, clipboard }, []⟩
        | (.ok (), clipboard) => ⟨.ok none, { engine with guard, clipboard }, []⟩

def handleIncomingFrame (engine : ClipboardSyncEngine σ) (frame : DataFrame) : Outcome σ :=
  match ClipboardMessage.fromDataFrame frame with
  | .error e => ⟨.error e, engine, []⟩
  | .ok (.sync entry) => engine.applySync blake3 backend entry
  | .ok (.clear origin sequence _) => engine.applyClear backend origin sequence
  | .ok (.ack _ _ _) => ⟨.ok none, engine, []⟩

end ClipboardSyncEngine

end BridgeOS.Clipboard
