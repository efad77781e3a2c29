import BridgeOS.Cli.Connect
import BridgeOS.Node.Connection
import BridgeOS.Transfer.Sender

/-! # Sending a file from the command line

`run_send_file`. After the handshake the command sends a message and waits for
exactly one frame, again and again: the next frame on the stream has to be the
answer it expects, or the command fails.
-/

namespace BridgeOS.Cli

open Session Transfer Node Proc

/-- The file to send: how its path prints, the last component, and what it holds if it
    exists. -/
structure SourceFile where
  display : String
  fileName : Option String
  content : Option Bytes

/-- A chunk is handed out as long as the counter is below the number of chunks. -/
theorem nextChunk_advances {blake3 : Bytes → FixedBytes 32} {sender sender' : FileSender} {chunk : FileChunk}
    (handed : sender.nextChunk blake3 = (.ok (some chunk), sender')) :
    sender.currentChunk.toNat < sender.manifest.totalChunks.toNat ∧
      sender'.manifest = sender.manifest ∧
      sender'.currentChunk.toNat = sender.currentChunk.toNat + 1 := by
  have bound := sender.manifest.totalChunks.toNat_lt
  unfold FileSender.nextChunk at handed
  split at handed
  · cases handed
  · rename_i more
    rw [ge_iff_le, UInt32.le_iff_toNat_le] at more
    split at handed
    · cases handed
    · split at handed
      · cases handed
      · cases handed
        refine ⟨Nat.lt_of_not_le more, rfl, ?_⟩
        rw [UInt32.toNat_add, UInt32.toNat_one, Nat.mod_eq_of_lt (by omega)]

/-- What is handed out belongs to the manifest and is no longer than a chunk. -/
theorem nextChunk_bounded {blake3 : Bytes → FixedBytes 32} {sender sender' : FileSender} {chunk : FileChunk}
    (handed : sender.nextChunk blake3 = (.ok (some chunk), sender')) :
    chunk.fileId = sender.manifest.fileId ∧ chunk.data.length ≤ chunkSize := by
  unfold FileSender.nextChunk at handed
  split at handed
  · cases handed
  · split at handed
    · cases handed
    · rename_i size sized
      split at handed
      · cases handed
      · rename_i buf source read
        cases handed
        refine ⟨rfl, (SenderSource.length_le_of_readExact read).trans ?_⟩
        rw [(FileManifest.expectedChunkSize_eq_ok.mp sized).2]
        split
        · exact sender.manifest.lastChunkSize_le
        · exact Nat.le_refl _

variable [Crypto]

def CliError.toNode : CliError → NodeError
  | .context text cause => .context text (.bridge cause)
  | .message text => .message text
  | .unexpectedFrame text got => .unexpectedFrame text got

/-- `connect_and_handshake` called with `?`. -/
def connect (clientKey : IdentityKey) (deviceName : String) : NodeProc ServerHello :=
  (connectAndHandshake clientKey deviceName).lift NodeCall.session (fun _ answer => answer)
    CliError.toNode

/-- The next frame has to be a transfer message. -/
def recvMessage (receiving ended unexpected : String) : NodeProc TransferMessage := do
  let received ← .request (NodeCall.session .recv)
  match ← .orFail (fun e => NodeError.context receiving (.bridge e)) received with
  | none => .error (.message ended)
  | some (.data df) =>
      .orFail (fun e => NodeError.cause (.transfer e)) (TransferMessage.fromDataFrame df)
  | some other => .error (.unexpectedFrame unexpected other)

def awaitAccept (manifest : FileManifest) : NodeProc UInt32 := do
  match ← recvMessage "Failed to receive Accept frame" "Peer closed connection while awaiting Accept"
      "Expected Data frame, received: " with
  | .accept fileId startChunk =>
      if fileId ≠ manifest.fileId then
        .error (.message ("File ID mismatch in Accept message: expected " ++ manifest.fileId ++ ", got " ++
          fileId))
      else return startChunk
  | .cancel _ reason => .error (.message ("Peer rejected file transfer: " ++ reason))
  | other => .error (.unexpectedMessage "Expected Accept frame from peer, received: " other)

def awaitAck (manifest : FileManifest) (chunkIdx : UInt32) : NodeProc Unit := do
  match ← recvMessage "Failed to receive Chunk Ack" "Peer disconnected mid-transfer"
      "Expected Data frame, got: " with
  | .ack ackFid ackIdx =>
      if ackFid ≠ manifest.fileId ∨ ackIdx ≠ chunkIdx then
        let expected := chunkIdx.toNat
        let got := ackIdx.toNat
        .error (.message s!"Ack mismatch: expected chunk {expected}, got {got}")
      else return ()
  | .cancel _ reason => .error (.message ("Transfer cancelled by peer: " ++ reason))
  | other => .error (.unexpectedMessage "Expected Ack frame, got: " other)

def awaitComplete (manifest : FileManifest) : NodeProc Unit := do
  match ← recvMessage "Failed to receive Complete frame"
      "Peer closed connection while awaiting Complete confirmation" "Expected Data frame, got: " with
  | .complete fileId =>
      if fileId ≠ manifest.fileId then
        .error (.message ("Complete file ID mismatch: expected " ++ manifest.fileId ++ ", got " ++ fileId))
      else return ()
  | .cancel _ reason => .error (.message ("Peer rejected file hash verification: " ++ reason))
  | other => .error (.unexpectedMessage "Expected Complete confirmation, got: " other)

def sendChunk (manifest : FileManifest) (chunk : FileChunk) : NodeProc Unit := do
  sendWithContext "Failed to send file chunk" (.data (TransferMessage.data chunk).toDataFrame)
  awaitAck manifest chunk.chunkIndex

/-- The `while let` over `next_chunk`, given enough rounds. -/
def sendChunks (blake3 : Bytes → FixedBytes 32) (manifest : FileManifest) : Nat → FileSender → NodeProc Unit
  | 0, _ => return ()
  | rounds + 1, sender =>
      match sender.nextChunk blake3 with
      | (.error e, _) => .error (.context "Failed to read next file chunk" (.transfer e))
      | (.ok none, _) => return ()
      | (.ok (some chunk), sender') => do
          sendChunk manifest chunk
          sendChunks blake3 manifest rounds sender'

/-- From the offer on. -/
def offerFile (blake3 : Bytes → FixedBytes 32) (data : Bytes) (manifest : FileManifest) : NodeProc Unit := do
  sendWithContext "Failed to send TransferMessage::Offer" (.data
    (TransferMessage.offer manifest).toDataFrame)
  let startChunk ← awaitAccept manifest
  let sender ← .orFail (fun e => NodeError.context "Failed to initialize FileSender" (.transfer e))
    (FileSender.fromFile data manifest startChunk)
  sendChunks blake3 manifest (manifest.totalChunks.toNat + 1) sender
  sendWithContext "Failed to send Finished signal" (.data
    (TransferMessage.finished manifest.fileId manifest.blake3RootHash).toDataFrame)
  awaitComplete manifest
  let _ ← .request (NodeCall.session (.send (.control (.disconnect .graceful))))
  return ()

def runSendFile (blake3 : Bytes → FixedBytes 32) (file : SourceFile) (clientKey : IdentityKey)
    (deviceName : String) : Task := do
  let some data := file.content | .error (.message ("File not found: " ++ file.display))
  let manifest := createManifestFromFile blake3 file.fileName data
  let _ ← connect clientKey deviceName
  offerFile blake3 data manifest
  return .inr ()

end BridgeOS.Cli
