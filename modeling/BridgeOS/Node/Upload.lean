import BridgeOS.Cli.SendFile
import BridgeOS.Lib.Contract
import BridgeOS.Node.Link
import BridgeOS.Transfer.Delivery

/-! # A command sends a file to a node

`run_send_file` against `handle_connection`, over a stream that delivers every
frame once and in order. The two tasks take turns in any way, clipboard frames
come out of the node's queue at any time its loop waits, and other sessions do
what they like elsewhere.
-/

namespace BridgeOS.Node

open BridgeOS.Session hiding recvFrame
open BridgeOS.Transfer BridgeOS.Transport BridgeOS.Cli Proc
open FileReceiver
open PathBuf (Location)

/-- The transfer message in a frame. -/
def message? : Frame → Option TransferMessage
  | .data df =>
      match TransferMessage.fromDataFrame df with
      | .ok message => some message
      | .error _ => none
  | _ => none

def offers (frame : Frame) : Bool :=
  match message? frame with
  | some (.offer _) => true
  | _ => false

def completes (frame : Frame) : Bool :=
  match message? frame with
  | some (.complete _) => true
  | _ => false

def onClipboard : Frame → Bool
  | .data df => df.channel == DataFrame.channelClipboard
  | _ => false

/-- `send_frame` can send it. -/
def Sendable (frame : Frame) : Prop := ∃ bytes, encodeFrame frame = .ok bytes

variable {message : TransferMessage}

theorem fromBytes_of_sendable (sendable : Sendable (.data message.toDataFrame)) :
    TransferMessage.fromBytes message.toBytes = .ok message := by
  obtain ⟨bytes, encoded⟩ := sendable
  have payload := (length_encode_data message.toDataFrame).1.trans (encodeFrame_eq_ok encoded).1
  exact TransferMessage.fromBytes_toBytes (lt_of_le_of_lt payload (by decide))

theorem fromDataFrame_of_sendable (sendable : Sendable (.data message.toDataFrame)) :
    TransferMessage.fromDataFrame message.toDataFrame = .ok message :=
  (if_neg (not_not.mpr rfl)).trans (fromBytes_of_sendable sendable)

theorem message?_of_sendable (sendable : Sendable (.data message.toDataFrame)) :
    message? (.data message.toDataFrame) = some message := by
  rw [message?, fromDataFrame_of_sendable sendable]

/-- Everything but a long name or reason can be sent. -/
theorem sendable_of_freight (light : message.freight ≤ 2 ^ 20) :
    Sendable (.data message.toDataFrame) := by
  refine exists_encodeFrame ((length_encode_data _).2.trans ?_)
  have payload : message.toDataFrame.payload.length ≤ message.freight + 80 := message.length_encode_le
  have room : 2 ^ 20 + 80 + 18 ≤ maxFrameLength := by decide
  omega

theorem offers_eq_false (sendable : Sendable (.data message.toDataFrame))
    (other : ∀ manifest, message ≠ .offer manifest) : offers (.data message.toDataFrame) = false := by
  rw [offers, message?_of_sendable sendable]
  cases message with
  | offer manifest => exact absurd rfl (other manifest)
  | _ => rfl

theorem completes_eq_false (sendable : Sendable (.data message.toDataFrame))
    (other : ∀ id, message ≠ .complete id) : completes (.data message.toDataFrame) = false := by
  rw [completes, message?_of_sendable sendable]
  cases message with
  | complete id => exact absurd rfl (other id)
  | _ => rfl

theorem message?_of_channel {df : DataFrame} (other : df.channel ≠ DataFrame.channelFileTransfer) :
    message? (.data df) = none := by
  simp [message?, TransferMessage.fromDataFrame, other]

/-- What no message goes over with. -/
theorem any_eq_false {frame? : Option Frame} (silent : frame?.bind message? = none) :
    frame?.any offers = false ∧ frame?.any completes = false := by
  cases frame? with
  | none => exact ⟨rfl, rfl⟩
  | some frame =>
      rw [Option.bind_some] at silent
      simp [offers, completes, silent]

variable {σ : Type}

/-- A command that sends a file with these contents, and a node with a receive
    directory. -/
structure Upload (σ : Type) where
  setup : Setup σ
  display : String
  fileName : Option String
  data : Bytes
  dir : PathBuf
  receiving : setup.node.receiveDir = some dir

namespace Upload

variable (upload : Upload σ)

def file : SourceFile := ⟨upload.display, upload.fileName, some upload.data⟩

def manifest : FileManifest := createManifestFromFile upload.setup.blake3 upload.fileName upload.data

def offer : Frame := .data (TransferMessage.offer upload.manifest).toDataFrame

def part : Location := (partPathOf upload.dir upload.manifest).location

def final : Location := (finalPathOf upload.dir upload.manifest).location

/-- What others may do to the node meanwhile: anything but the session's state and the
    two files of this transfer. -/
structure Elsewhere (w w' : World σ) : Prop where
  state : w'.state = w.state
  part : w'.disk.file upload.part = w.disk.file upload.part
  final : w'.disk.file upload.final = w.disk.file upload.final
  content : ∀ f, w.disk.file upload.part = some f ∨ w.disk.file upload.final = some f →
    w'.disk.content f = w.disk.content f

/-- The final file is there and has the announced hash. -/
def Done (disk : Disk Location) : Prop :=
  ∃ bytes, disk.read upload.final = some bytes ∧
    upload.setup.blake3 bytes = upload.manifest.blake3RootHash

/-- The receiver of this transfer, with its file under the `.part` name. -/
def Open (disk : Disk Location) (r : FileReceiver) : Prop :=
  ∃ handle, r.manifest = upload.manifest ∧
    r.target = .file (finalPathOf upload.dir upload.manifest) (partPathOf upload.dir upload.manifest)
      handle ∧
    disk.file upload.part = some handle

variable {upload} {w w' w'' : World σ} {r r' : FileReceiver} {disk disk' : Disk Location}

theorem Elsewhere.refl (w : World σ) : upload.Elsewhere w w := ⟨rfl, rfl, rfl, fun _ _ => rfl⟩

theorem Elsewhere.trans (first : upload.Elsewhere w w') (second : upload.Elsewhere w' w'') :
    upload.Elsewhere w w'' where
  state := second.state.trans first.state
  part := second.part.trans first.part
  final := second.final.trans first.final
  content := by
    intro f named
    have still : w'.disk.file upload.part = some f ∨ w'.disk.file upload.final = some f := by
      rwa [first.part, first.final]
    exact (second.content f still).trans (first.content f named)

theorem Elsewhere.done (others : upload.Elsewhere w w') (done : upload.Done w.disk) :
    upload.Done w'.disk := by
  obtain ⟨bytes, found, hash⟩ := done
  obtain ⟨f, named, rfl⟩ := Option.map_eq_some_iff.mp found
  refine ⟨w.disk.content f, ?_, hash⟩
  rw [Disk.read, others.final, named, Option.map_some, others.content f (.inr named)]

theorem Elsewhere.opened (others : upload.Elsewhere w w') (opened : upload.Open w.disk r) :
    upload.Open w'.disk r := by
  obtain ⟨handle, same, target, named⟩ := opened
  exact ⟨handle, same, target, others.part.trans named⟩

/-- A fresh receiver has its file under the `.part` name. -/
theorem open_toDir (disk : Disk Location) :
    upload.Open (toDir disk upload.dir upload.manifest).2 (toDir disk upload.dir upload.manifest).1 := by
  obtain ⟨handle, opened, named, -⟩ := toDir_spec disk upload.dir upload.manifest
  refine ⟨handle, ?_, ?_, named⟩
  · rw [opened]
  · rw [opened]

theorem Open.receiveChunk {chunk : FileChunk} (opened : upload.Open disk r)
    (stored : r.receiveChunk upload.setup.blake3 disk chunk = .ok (r', disk')) : upload.Open disk' r' := by
  obtain ⟨handle, same, target, named⟩ := opened
  cases checked : checkChunk upload.setup.blake3 r.manifest chunk with
  | error e => simp [FileReceiver.receiveChunk, checked] at stored
  | ok =>
      rw [receiveChunk_file upload.setup.blake3 target disk checked] at stored
      cases stored
      exact ⟨handle, same, target, named⟩

/-- What is finalized is the final file, with the hash of the offer. -/
theorem Open.finalizeFile {path : PathBuf} (opened : upload.Open disk r)
    (finalized : r.finalizeFile upload.setup.blake3 disk = .ok (path, disk')) : upload.Done disk' := by
  obtain ⟨handle, same, target, named⟩ := opened
  obtain ⟨-, hash, -, renamed⟩ := (finalizeFile_eq_ok upload.setup.blake3 target).mp finalized
  obtain ⟨moved, renamed', stored, -⟩ :=
    Disk.rename_spec (partPathOf_location_ne upload.dir upload.manifest) named
  cases renamed.symm.trans renamed'
  exact ⟨disk.content handle, stored, hash.trans (congrArg FileManifest.blake3RootHash same)⟩

section System

variable [Crypto] (upload : Upload σ)

inductive Happening where
  | sender
  | node (taken sent : List Frame)
  | outbound (frame : DataFrame)
  | elsewhere

/-- One of the two goes on, a clipboard frame comes out of the queue, or somebody else
    does something. -/
inductive Step : Link σ → Happening → Link σ → Prop where
  | sender {l : Link σ} {task p} (step : SideStep (upload.setup.machine upload.setup.initiator)
      (Finished l.node) (l.initiator, ⟨l.initiatorWorld, l.toInitiator, l.toNode⟩) (task, p)) :
      Step l .sender ⟨task, l.node, p.world, l.nodeWorld, p.outbox, p.inbox⟩
  | node {l : Link σ} {task p taken sent} (step : SideStep (upload.setup.machine upload.setup.node)
      (Finished l.initiator) (l.node, ⟨l.nodeWorld, l.toNode, l.toInitiator⟩) (task, p))
      (takes : l.toNode = taken ++ p.inbox) (sends : p.outbox = l.toInitiator ++ sent) :
      Step l (.node taken sent) ⟨l.initiator, task, l.initiatorWorld, p.world, p.inbox, p.outbox⟩
  | outbound {l : Link σ} {next frame} (waits : l.node = .ask .select next)
      (queued : frame.channel = DataFrame.channelClipboard) :
      Step l (.outbound frame) { l with node := (next (.outbound frame)).resume connectionRound }
  | elsewhere {l : Link σ} {world} (others : upload.Elsewhere l.nodeWorld world) :
      Step l .elsewhere { l with nodeWorld := world }

def start : Link σ :=
  ⟨runSendFile upload.setup.blake3 upload.file upload.setup.initiator.localIdentity
      upload.setup.initiator.localName,
    handleConnection upload.setup.node, upload.setup.initiatorWorld, upload.setup.nodeWorld, [], []⟩

inductive Run : List Happening → Link σ → Prop where
  | start : Run [] upload.start
  | step {history l what l'} (before : Run history l) (step : upload.Step l what l') :
      Run (history ++ [what]) l'

end System

end Upload

end BridgeOS.Node
