import BridgeOS.Protocol
import BridgeOS.Transfer.Message

/-! # Transfer messages on the wire -/

namespace BridgeOS.Transfer

open Codec

def FileManifest.codec : Codec FileManifest :=
  (pair string (pair string (pair u64 (pair u32 (fixed 32))))).map
    (fun ⟨fileId, filename, totalSize, totalChunks, blake3RootHash⟩ =>
      ⟨fileId, filename, totalSize, totalChunks, blake3RootHash⟩)
    (fun m => (m.fileId, m.filename, m.totalSize, m.totalChunks, m.blake3RootHash))
    (fun _ => rfl)

def FileChunk.codec : Codec FileChunk :=
  (pair string (pair u32 (pair u64 (pair bytes (fixed 32))))).map
    (fun ⟨fileId, chunkIndex, offset, data, blake3Hash⟩ =>
      ⟨fileId, chunkIndex, offset, data, blake3Hash⟩)
    (fun c => (c.fileId, c.chunkIndex, c.offset, c.data, c.blake3Hash))
    (fun _ => rfl)

def TransferMessage.codec : Codec TransferMessage :=
  ((Variants.cons FileManifest.codec (.cons (pair string u32) (.cons FileChunk.codec
    (.cons (pair string u32) (.cons (pair string (fixed 32)) (.cons string
    (.single (pair string string)))))))).codec (by decide)).map
    (fun
      | .inl manifest => .offer manifest
      | .inr (.inl (fileId, startChunk)) => .accept fileId startChunk
      | .inr (.inr (.inl chunk)) => .data chunk
      | .inr (.inr (.inr (.inl (fileId, chunkIndex)))) => .ack fileId chunkIndex
      | .inr (.inr (.inr (.inr (.inl (fileId, hash))))) => .finished fileId hash
      | .inr (.inr (.inr (.inr (.inr (.inl fileId))))) => .complete fileId
      | .inr (.inr (.inr (.inr (.inr (.inr (fileId, reason)))))) => .cancel fileId reason)
    (fun
      | .offer manifest => .inl manifest
      | .accept fileId startChunk => .inr (.inl (fileId, startChunk))
      | .data chunk => .inr (.inr (.inl chunk))
      | .ack fileId chunkIndex => .inr (.inr (.inr (.inl (fileId, chunkIndex))))
      | .finished fileId hash => .inr (.inr (.inr (.inr (.inl (fileId, hash)))))
      | .complete fileId => .inr (.inr (.inr (.inr (.inr (.inl fileId)))))
      | .cancel fileId reason => .inr (.inr (.inr (.inr (.inr (.inr (fileId, reason)))))))
    (by
      intro message
      cases message <;> rfl)

namespace TransferMessage

def toBytes (message : TransferMessage) : Bytes := codec.encode message

def fromBytes (bytes : Bytes) : Except TransferError TransferMessage :=
  match codec.decode bytes with
  | none => .error (.protocol "Deserialization")
  | some (message, _) => .ok message

def toDataFrame (message : TransferMessage) : DataFrame :=
  ⟨DataFrame.channelFileTransfer, message.toBytes⟩

def fromDataFrame (frame : DataFrame) : Except TransferError TransferMessage :=
  if frame.channel ≠ DataFrame.channelFileTransfer then
    let expected := DataFrame.channelFileTransfer.toNat
    let received := frame.channel.toNat
    .error (.protocol s!"Invalid channel: expected {expected}, received {received}")
  else fromBytes frame.payload

theorem fromBytes_toBytes {message : TransferMessage} (short : message.toBytes.length < 2 ^ 64) :
    fromBytes message.toBytes = .ok message := by
  have decoded := codec.decode_encode message [] short
  rw [List.append_nil] at decoded
  rw [fromBytes, toBytes, decoded]

/-- The bytes of a message that have no bound of their own. -/
def freight : TransferMessage → Nat
  | .offer m => (utf8 m.fileId).length + (utf8 m.filename).length
  | .accept fileId _ => (utf8 fileId).length
  | .data chunk => (utf8 chunk.fileId).length + chunk.data.length
  | .ack fileId _ => (utf8 fileId).length
  | .finished fileId _ => (utf8 fileId).length
  | .complete fileId => (utf8 fileId).length
  | .cancel fileId reason => (utf8 fileId).length + (utf8 reason).length

theorem length_encode_le (message : TransferMessage) :
    (codec.encode message).length ≤ message.freight + 80 := by
  cases message with
  | offer m =>
      have manifest : FileManifest.codec.Takes m _ _ := .map ((takes_string m.fileId).pair
        ((takes_string m.filename).pair ((takes_u64 m.totalSize).pair
          ((takes_u32 m.totalChunks).pair (takes_fixed m.blake3RootHash)))))
      have taken : codec.Takes (.offer m) _ _ := .map (Variants.takes_codec manifest rfl)
      refine taken.2.trans ?_
      rw [freight]
      omega
  | accept fileId startChunk =>
      have taken : codec.Takes (.accept fileId startChunk) _ _ :=
        .map (Variants.takes_codec ((takes_string fileId).pair (takes_u32 startChunk)) rfl)
      refine taken.2.trans ?_
      rw [freight]
      omega
  | data chunk =>
      have body : FileChunk.codec.Takes chunk _ _ := .map ((takes_string chunk.fileId).pair
        ((takes_u32 chunk.chunkIndex).pair ((takes_u64 chunk.offset).pair
          ((takes_bytes chunk.data).pair (takes_fixed chunk.blake3Hash)))))
      have taken : codec.Takes (.data chunk) _ _ := .map (Variants.takes_codec body rfl)
      refine taken.2.trans ?_
      rw [freight]
      omega
  | ack fileId chunkIndex =>
      have taken : codec.Takes (.ack fileId chunkIndex) _ _ :=
        .map (Variants.takes_codec ((takes_string fileId).pair (takes_u32 chunkIndex)) rfl)
      refine taken.2.trans ?_
      rw [freight]
      omega
  | finished fileId hash =>
      have taken : codec.Takes (.finished fileId hash) _ _ :=
        .map (Variants.takes_codec ((takes_string fileId).pair (takes_fixed hash)) rfl)
      refine taken.2.trans ?_
      rw [freight]
      omega
  | complete fileId =>
      have taken : codec.Takes (.complete fileId) _ _ :=
        .map (Variants.takes_codec (takes_string fileId) rfl)
      refine taken.2.trans ?_
      rw [freight]
      omega
  | cancel fileId reason =>
      have taken : codec.Takes (.cancel fileId reason) _ _ :=
        .map (Variants.takes_codec ((takes_string fileId).pair (takes_string reason)) rfl)
      refine taken.2.trans ?_
      rw [freight]
      omega

end TransferMessage

end BridgeOS.Transfer
