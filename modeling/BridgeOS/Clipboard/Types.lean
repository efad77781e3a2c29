import BridgeOS.Protocol

/-! # Clipboard contents and messages

The types of `bridge-clipboard` and their wire form. The content hash is Blake3
over a tagged text; Blake3 is a parameter.
-/

namespace BridgeOS.Clipboard

inductive ImageFormat where
  | png | jpeg | bmp | webp
  deriving DecidableEq

def ImageFormat.asU8 : ImageFormat → UInt8
  | .png => 0
  | .jpeg => 1
  | .bmp => 2
  | .webp => 3

/-- The debug form that error texts show. -/
def ImageFormat.debug : ImageFormat → String
  | .png => "Png"
  | .jpeg => "Jpeg"
  | .bmp => "Bmp"
  | .webp => "Webp"

inductive ClipboardFormat where
  | text
  | html
  | rtf
  | image (format : ImageFormat)
  deriving DecidableEq

inductive ClipboardContent where
  | text (body : String)
  | html (rich : String) (plain : Option String)
  | image (format : ImageFormat) (data : Bytes) (width height : UInt32)
  deriving DecidableEq

inductive ClipboardError where
  | deserialization
  | oversizedPayload (size max : Nat)
  | hashMismatch (expected actual : String)
  | unsupportedFormat (text : String)
  | sensitiveContentBlocked
  | backendError (text : String)
  | channelMismatch (expected actual : UInt16)
  deriving DecidableEq

/-- The displayed text; the serializer's part of a decoding error is left out. -/
def ClipboardError.display : ClipboardError → String
  | .deserialization => "Deserialization error: "
  | .oversizedPayload size max =>
      s!"Payload exceeds maximum permitted size: {size} bytes (max: {max} bytes)"
  | .hashMismatch expected actual =>
      s!"Content integrity mismatch: expected Blake3 {expected}, calculated {actual}"
  | .unsupportedFormat text => s!"Unsupported or disabled clipboard format: {text}"
  | .sensitiveContentBlocked => "Sensitive content blocked by privacy policy"
  | .backendError text => s!"Clipboard backend failure: {text}"
  | .channelMismatch expected actual => s!"Channel mismatch: expected channel {expected}, got {actual}"

/-- Little-endian. -/
def leBytes (n : UInt32) : Bytes :=
  [UInt8.ofNat n.toNat, UInt8.ofNat (n.toNat / 2 ^ 8), UInt8.ofNat (n.toNat / 2 ^ 16),
    UInt8.ofNat (n.toNat / 2 ^ 24)]

namespace ClipboardContent

def byteLen : ClipboardContent → Nat
  | .text body => (utf8 body).length
  | .html rich plain => (utf8 rich).length + (plain.map fun p => (utf8 p).length).getD 0
  | .image _ data _ _ => data.length

/-- The text that is hashed. -/
def hashed : ClipboardContent → Bytes
  | .text body => utf8 "TXT:" ++ utf8 body
  | .html rich none => utf8 "HTM:" ++ utf8 rich
  | .html rich (some plain) => utf8 "HTM:" ++ utf8 rich ++ utf8 "|PLN:" ++ utf8 plain
  | .image format data width height =>
      utf8 "IMG:" ++ [format.asU8] ++ leBytes width ++ leBytes height ++ data

def computeHash (blake3 : Bytes → FixedBytes 32) (content : ClipboardContent) : FixedBytes 32 :=
  blake3 content.hashed

end ClipboardContent

structure ClipboardMetadata where
  origin : NodeId
  sequence : UInt64
  timestampMs : UInt64
  contentHash : FixedBytes 32
  format : ClipboardFormat
  byteSize : UInt64
  isSensitive : Bool
  deriving DecidableEq

structure ClipboardEntry where
  metadata : ClipboardMetadata
  content : ClipboardContent
  deriving DecidableEq

def ClipboardEntry.validateIntegrity (blake3 : Bytes → FixedBytes 32) (entry : ClipboardEntry) :
    Except ClipboardError Unit :=
  let actualHash := entry.content.computeHash blake3
  if actualHash ≠ entry.metadata.contentHash then
    .error (.hashMismatch (Hex.encode entry.metadata.contentHash.bytes) (Hex.encode actualHash.bytes))
  else
    let actualSize := entry.content.byteLen
    let byteSize := entry.metadata.byteSize.toNat
    if actualSize ≠ byteSize then .error (.hashMismatch s!"size:{byteSize}" s!"size:{actualSize}")
    else .ok ()

inductive ClipboardMessage where
  | sync (entry : ClipboardEntry)
  | clear (origin : NodeId) (sequence timestampMs : UInt64)
  | ack (origin : NodeId) (sequence : UInt64) (contentHash : FixedBytes 32)
  deriving DecidableEq

section Codecs

open Codec

def ImageFormat.codec : Codec ImageFormat :=
  ((Variants.cons unit (.cons unit (.cons unit (.single unit)))).codec Variants.few_four_units).map
    (fun
      | .inl _ => .png
      | .inr (.inl _) => .jpeg
      | .inr (.inr (.inl _)) => .bmp
      | .inr (.inr (.inr _)) => .webp)
    (fun
      | .png => .inl ()
      | .jpeg => .inr (.inl ())
      | .bmp => .inr (.inr (.inl ()))
      | .webp => .inr (.inr (.inr ())))
    (by
      intro format
      cases format <;> rfl)

def ClipboardFormat.codec : Codec ClipboardFormat :=
  ((Variants.cons unit (.cons unit (.cons unit (.single ImageFormat.codec)))).codec (by decide)).map
    (fun
      | .inl _ => .text
      | .inr (.inl _) => .html
      | .inr (.inr (.inl _)) => .rtf
      | .inr (.inr (.inr format)) => .image format)
    (fun
      | .text => .inl ()
      | .html => .inr (.inl ())
      | .rtf => .inr (.inr (.inl ()))
      | .image format => .inr (.inr (.inr format)))
    (by
      intro format
      cases format <;> rfl)

def ClipboardContent.codec : Codec ClipboardContent :=
  ((Variants.cons string (.cons (pair string (option string))
    (.single (pair ImageFormat.codec (pair bytes (pair u32 u32)))))).codec (by decide)).map
    (fun
      | .inl body => .text body
      | .inr (.inl (rich, plain)) => .html rich plain
      | .inr (.inr (format, data, width, height)) => .image format data width height)
    (fun
      | .text body => .inl body
      | .html rich plain => .inr (.inl (rich, plain))
      | .image format data width height => .inr (.inr (format, data, width, height)))
    (by
      intro content
      cases content <;> rfl)

def ClipboardMetadata.codec : Codec ClipboardMetadata :=
  (pair NodeId.codec (pair u64 (pair u64 (pair (fixed 32) (pair ClipboardFormat.codec
    (pair u64 bool)))))).map
    (fun ⟨origin, sequence, timestampMs, contentHash, format, byteSize, isSensitive⟩ =>
      ⟨origin, sequence, timestampMs, contentHash, format, byteSize, isSensitive⟩)
    (fun m => (m.origin, m.sequence, m.timestampMs, m.contentHash, m.format, m.byteSize,
      m.isSensitive))
    (fun _ => rfl)

def ClipboardEntry.codec : Codec ClipboardEntry :=
  (pair ClipboardMetadata.codec ClipboardContent.codec).map (fun p => ⟨p.1, p.2⟩)
    (fun e => (e.metadata, e.content)) (fun _ => rfl)

def ClipboardMessage.codec : Codec ClipboardMessage :=
  ((Variants.cons ClipboardEntry.codec (.cons (pair NodeId.codec (pair u64 u64))
    (.single (pair NodeId.codec (pair u64 (fixed 32)))))).codec (by decide)).map
    (fun
      | .inl entry => .sync entry
      | .inr (.inl (origin, sequence, timestampMs)) => .clear origin sequence timestampMs
      | .inr (.inr (origin, sequence, contentHash)) => .ack origin sequence contentHash)
    (fun
      | .sync entry => .inl entry
      | .clear origin sequence timestampMs => .inr (.inl (origin, sequence, timestampMs))
      | .ack origin sequence contentHash => .inr (.inr (origin, sequence, contentHash)))
    (by
      intro message
      cases message <;> rfl)

end Codecs

def ClipboardMessage.fromDataFrame (frame : DataFrame) : Except ClipboardError ClipboardMessage :=
  if frame.channel ≠ DataFrame.channelClipboard then
    .error (.channelMismatch DataFrame.channelClipboard frame.channel)
  else match ClipboardMessage.codec.decode frame.payload with
    | none => .error .deserialization
    | some (message, _) => .ok message

end BridgeOS.Clipboard
