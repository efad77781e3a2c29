import BridgeOS.Lib.Bytes
import BridgeOS.Lib.Checks
import BridgeOS.Transfer.Message

/-! # The sending side

A `FileSender` reads its source front to back through one cursor; the chunk
counter and the cursor are moved together by every constructor, by seeking and
by each successful read. Host I/O faults other than running off the end of the
source are outside the model.
-/

namespace BridgeOS.Transfer

/-- The bytes of the source and the position the next read starts at. -/
structure ReadCursor where
  content : Bytes
  position : Nat

/-- All of the requested bytes, or an error that leaves the cursor at the end. -/
def ReadCursor.readExact (c : ReadCursor) (n : Nat) : Except TransferError Bytes × ReadCursor :=
  if c.position + n ≤ c.content.length then
    (.ok (slice c.content c.position n), { c with position := c.position + n })
  else (.error (.io "early eof"), { c with position := max c.position c.content.length })

inductive SenderSource where
  | file (cursor : ReadCursor)
  | memory (cursor : ReadCursor)

namespace SenderSource

def seek : SenderSource → Nat → SenderSource
  | .file c, offset => .file { c with position := offset }
  | .memory c, offset => .memory { c with position := offset }

def readExact : SenderSource → Nat → Except TransferError Bytes × SenderSource
  | .file c, n => ((c.readExact n).1, .file (c.readExact n).2)
  | .memory c, n => ((c.readExact n).1, .memory (c.readExact n).2)

def cursor : SenderSource → ReadCursor
  | .file c | .memory c => c

theorem length_le_of_readExact {source source' : SenderSource} {n : Nat} {buf : Bytes}
    (read : source.readExact n = (.ok buf, source')) : buf.length ≤ n := by
  have bounded : ∀ c : ReadCursor, (c.readExact n).1 = .ok buf → buf.length ≤ n := by
    intro c found
    unfold ReadCursor.readExact at found
    split at found
    · cases found
      exact List.length_take_le n _
    · cases found
  cases source with
  | file c => exact bounded c (congrArg Prod.fst read)
  | memory c => exact bounded c (congrArg Prod.fst read)

end SenderSource

structure FileSender where
  manifest : FileManifest
  source : SenderSource
  currentChunk : UInt32

namespace FileSender

def validateStart (manifest : FileManifest) (startChunk : UInt32) : Except TransferError Unit :=
  Checks.reject (startChunk > manifest.totalChunks)
    (.invalidResumeOffset startChunk manifest.totalChunks)

def fromFile (content : Bytes) (manifest : FileManifest) (startChunk : UInt32) :
    Except TransferError FileSender := do
  validateStart manifest startChunk
  return ⟨manifest, .file ⟨content, startChunk.toNat * chunkSize⟩, startChunk⟩

theorem manifest_of_fromFile {content : Bytes} {manifest : FileManifest} {startChunk : UInt32}
    {s : FileSender} (opened : fromFile content manifest startChunk = .ok s) : s.manifest = manifest := by
  unfold fromFile at opened
  cases checked : validateStart manifest startChunk with
  | error e =>
      rw [checked] at opened
      cases opened
  | ok =>
      rw [checked] at opened
      cases opened
      rfl

def fromBytes (data : Bytes) (manifest : FileManifest) (startChunk : UInt32) :
    Except TransferError FileSender := do
  validateStart manifest startChunk
  return ⟨manifest, .memory ⟨data, startChunk.toNat * chunkSize⟩, startChunk⟩

def seekToChunk (s : FileSender) (chunkIndex : UInt32) : Except TransferError FileSender := do
  validateStart s.manifest chunkIndex
  return { s with source := s.source.seek (chunkIndex.toNat * chunkSize), currentChunk := chunkIndex }

def nextChunk (blake3 : Bytes → FixedBytes 32) (s : FileSender) :
    Except TransferError (Option FileChunk) × FileSender :=
  if s.currentChunk ≥ s.manifest.totalChunks then (.ok none, s)
  else match s.manifest.expectedChunkSize s.currentChunk with
    | .error e => (.error e, s)
    | .ok expectedSize =>
        match s.source.readExact expectedSize with
        | (.error e, source) => (.error e, { s with source })
        | (.ok buf, source) =>
            (.ok (some (.new blake3 s.manifest.fileId s.currentChunk
              (UInt64.ofNat (s.currentChunk.toNat * chunkSize)) buf)),
              { s with source, currentChunk := s.currentChunk + 1 })

end FileSender

end BridgeOS.Transfer
