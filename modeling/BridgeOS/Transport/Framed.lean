import BridgeOS.Lib.Reader
import BridgeOS.Protocol

/-! # Frames on a byte stream

`encode_frame`, `decode_frame` and `FramedStream::recv_frame`. A receive reads
the eight bytes of the header and then the payload it announces; between the two
the header is nowhere but in the function's own variables.
-/

namespace BridgeOS.Transport

open Reading

def magic : Bytes := utf8 "BRG1"

def maxFrameLength : Nat := 16 * 1024 * 1024

/-- Four bytes, the highest first. -/
def toBeBytes (n : Nat) : Bytes :=
  [UInt8.ofNat (n / 2 ^ 24), UInt8.ofNat (n / 2 ^ 16), UInt8.ofNat (n / 2 ^ 8), UInt8.ofNat n]

def fromBeBytes (bytes : Bytes) : Nat := bytes.foldl (fun n b => n * 2 ^ 8 + b.toNat) 0

theorem fromBeBytes_toBeBytes {n : Nat} (small : n < 2 ^ 32) : fromBeBytes (toBeBytes n) = n := by
  simp only [fromBeBytes, toBeBytes, List.foldl_cons, List.foldl_nil, UInt8.toNat_ofNat']
  omega

def encodeFrame (frame : Frame) : Except BridgeError Bytes :=
  let payload := Frame.codec.encode frame
  let len := payload.length
  if len > maxFrameLength then .error (.frameTooLarge len maxFrameLength)
  -- the conversion to `u32`
  else if len ≥ 2 ^ 32 then .error (.frameTooLarge len maxFrameLength)
  else .ok (magic ++ toBeBytes len ++ payload)

def decodePayload (payload : Bytes) : Except BridgeError Frame :=
  match Frame.codec.decode payload with
  | none => .error (.serialization "Postcard deserialization error")
  | some (frame, _) => .ok frame

/-- The length in a header. -/
def announced (bytes : Bytes) : Nat := fromBeBytes (slice bytes 4 4)

def decodeFrame (bytes : Bytes) : Except BridgeError Frame :=
  if bytes.length < 8 then
    .error (.framing s!"Buffer too short for header: got {bytes.length} bytes, expected at least 8")
  else if bytes.take 4 ≠ magic then .error .invalidMagic
  else
    let len := announced bytes
    if len > maxFrameLength then .error (.frameTooLarge len maxFrameLength)
    else if bytes.length < 8 + len then
      .error (.framing s!"Incomplete frame: expected {8 + len} bytes total, have {bytes.length}")
    else decodePayload (slice bytes 8 len)

/-- How an error of the stream prints. -/
def faultText : ReadFault → String
  | .unexpectedEof => "early eof"
  | .other text => text

/-- From the header on. -/
def recvPayload (length : Nat) : Reader BridgeError (Option Frame) := do
  match ← .request ⟨length⟩ with
  | .error fault => .error (.framing ("Failed to read frame payload: " ++ faultText fault))
  | .ok payload =>
      let frame ← .orFail id (decodePayload payload.bytes)
      return some frame

def recvFrame : Reader BridgeError (Option Frame) := do
  match ← .request ⟨8⟩ with
  | .error .unexpectedEof => return none
  | .error (.other text) => .error (.internal ("Transport read error: " ++ text))
  | .ok header =>
      if header.bytes.take 4 ≠ magic then .error .invalidMagic
      else
        let length := fromBeBytes (header.bytes.drop 4)
        if length > maxFrameLength then .error (.frameTooLarge length maxFrameLength)
        else recvPayload length

variable {frame : Frame}

theorem encodeFrame_eq_ok {bytes : Bytes} (encoded : encodeFrame frame = .ok bytes) :
    (Frame.codec.encode frame).length ≤ maxFrameLength ∧
      bytes = magic ++ toBeBytes (Frame.codec.encode frame).length ++ Frame.codec.encode frame := by
  unfold encodeFrame at encoded
  dsimp only at encoded
  split at encoded
  · cases encoded
  · split at encoded
    · cases encoded
    · cases encoded
      exact ⟨Nat.le_of_not_gt ‹_›, rfl⟩

theorem exists_encodeFrame (short : (Frame.codec.encode frame).length ≤ maxFrameLength) :
    ∃ bytes, encodeFrame frame = .ok bytes := by
  have word : (Frame.codec.encode frame).length < 2 ^ 32 := lt_of_le_of_lt short (by decide)
  unfold encodeFrame
  rw [if_neg (Nat.not_lt.mpr short), if_neg (Nat.not_le.mpr word)]
  exact ⟨_, rfl⟩

theorem encodeFrame_of_large (large : ¬ (Frame.codec.encode frame).length ≤ maxFrameLength) :
    encodeFrame frame = .error (.frameTooLarge (Frame.codec.encode frame).length maxFrameLength) := by
  unfold encodeFrame
  rw [if_pos (Nat.lt_of_not_le large)]

theorem takes_handshake {frame : HandshakeFrame} {least most : Nat}
    (takes : HandshakeFrame.codec.Takes frame least most) :
    Frame.codec.Takes (.handshake frame) least (most + 5) :=
  .map (Variants.takes_codec takes rfl)

theorem length_encode_authResponse (response : AuthResponse) :
    (Frame.codec.encode (.handshake (.authResponse response))).length ≤ 84 := by
  have signature : AuthResponse.codec.Takes response _ _ :=
    .filterMap (Codec.takes_bytes response.signature.bytes)
  have taken : HandshakeFrame.codec.Takes (.authResponse response) _ _ :=
    .map (Variants.takes_codec signature rfl)
  refine (takes_handshake taken).2.trans ?_
  rw [response.signature.size]

theorem length_encode_clientHello (hello : ClientHello) :
    (Frame.codec.encode (.handshake (.clientHello hello))).length ≤ (utf8 hello.deviceName).length + 95 := by
  have version : ProtocolVersion.codec.Takes hello.version _ _ :=
    .map ((Codec.takes_u16 hello.version.major).pair (Codec.takes_u16 hello.version.minor))
  have capabilities : Capabilities.codec.Takes hello.capabilities _ _ :=
    .map (Codec.takes_u32 hello.capabilities.flags)
  have body : ClientHello.codec.Takes hello _ _ := .map (version.pair (hello.nodeId.takes_codec.pair
    ((Codec.takes_string hello.deviceName).pair ((Codec.takes_fixed hello.clientNonce).pair
      capabilities))))
  have taken : HandshakeFrame.codec.Takes (.clientHello hello) _ _ := .map (Variants.takes_codec body rfl)
  refine (takes_handshake taken).2.trans ?_
  omega

/-- A data frame is its payload and a few bytes. -/
theorem length_encode_data (frame : DataFrame) :
    frame.payload.length ≤ (Frame.codec.encode (.data frame)).length ∧
      (Frame.codec.encode (.data frame)).length ≤ frame.payload.length + 18 := by
  have body : DataFrame.codec.Takes frame _ _ :=
    .map ((Codec.takes_u16 frame.channel).pair (Codec.takes_bytes frame.payload))
  have taken : Frame.codec.Takes (.data frame) _ _ := .map (Variants.takes_codec body rfl)
  obtain ⟨lower, upper⟩ := taken
  omega

theorem decodePayload_encode (short : (Frame.codec.encode frame).length ≤ maxFrameLength) :
    decodePayload (Frame.codec.encode frame) = .ok frame := by
  have decoded := Frame.codec.decode_encode frame [] (lt_of_le_of_lt short (by decide))
  rw [List.append_nil] at decoded
  rw [decodePayload, decoded]

theorem recvPayload_yields (short : (Frame.codec.encode frame).length ≤ maxFrameLength) :
    Yields (recvPayload (Frame.codec.encode frame).length) (Frame.codec.encode frame) (some frame) := by
  have yields : Yields (recvPayload (Frame.codec.encode frame).length) (Frame.codec.encode frame ++ [])
      (some frame) := by
    rw [recvPayload, Proc.request_bind]
    refine .answered ⟨Frame.codec.encode frame, rfl⟩ ?_
    dsimp only
    rw [decodePayload_encode short]
    exact .ok _
  rwa [List.append_nil] at yields

/-- A receive returns the frame once it has taken the bytes of its encoding. -/
theorem recvFrame_yields {bytes : Bytes} (encoded : encodeFrame frame = .ok bytes) :
    Yields recvFrame bytes (some frame) := by
  obtain ⟨short, rfl⟩ := encodeFrame_eq_ok encoded
  have length : fromBeBytes (toBeBytes (Frame.codec.encode frame).length) = (Frame.codec.encode frame).length :=
    fromBeBytes_toBeBytes (lt_of_le_of_lt short (by decide))
  have start : magic.length = 4 := by decide
  have header : (magic ++ toBeBytes (Frame.codec.encode frame).length).length = 8 := by
    rw [List.length_append, start]
    rfl
  rw [recvFrame, Proc.request_bind]
  refine .answered ⟨_, header⟩ ?_
  dsimp only
  rw [List.take_left' start, List.drop_left' start, length, if_neg (by simp), if_neg (by omega)]
  exact recvPayload_yields short

/-- A receive that has taken nothing waits for its header. -/
theorem reading_of_took_nil {r : Reading BridgeError (Option Frame)} (took : Took recvFrame [] r) :
    r.result = none ∧ (r.fail .unexpectedEof).result = some (.ok none) := by
  rw [recvFrame, Proc.request_bind] at took
  obtain ⟨bytes, same⟩ : ∃ bytes : Bytes, bytes = [] := ⟨_, rfl⟩
  rw [← same] at took
  cases took with
  | waits short => exact ⟨rfl, rfl⟩
  | answered data rest =>
      have size := data.size
      rw [(List.append_eq_nil_iff.mp same).1] at size
      cases size

/-- What a list of frames is on the wire. -/
inductive Encodes : List Frame → Bytes → Prop where
  | nil : Encodes [] []
  | cons {frame frames bytes rest} (encoded : encodeFrame frame = .ok bytes)
      (later : Encodes frames rest) : Encodes (frame :: frames) (bytes ++ rest)

theorem Encodes.unique {frames : List Frame} {bytes bytes' : Bytes} (first : Encodes frames bytes)
    (second : Encodes frames bytes') : bytes = bytes' := by
  induction first generalizing bytes' with
  | nil =>
      cases second
      rfl
  | cons encoded _ ih =>
      cases second with
      | cons encoded' later' =>
          cases encoded.symm.trans encoded'
          rw [ih later']

/-- The encoding of a ping with a small number. -/
def pingBytes (nonce : UInt8) : Bytes := magic ++ [0, 0, 0, 3, 1, 0, nonce]

example : encodeFrame (.control (.ping 7)) = .ok (pingBytes 7) := rfl

/-- One receive after the other on a stream that comes in pieces. -/
def recvFrames : Nat → List Bytes → List (Except BridgeError (Option Frame))
  | 0, _ => []
  | n + 1, pieces =>
      let received := run recvFrame pieces
      received.1 :: recvFrames n received.2

/-- The end of the stream is no error, at a frame boundary or inside a header. -/
theorem recvFrame_run_short {pieces : List Bytes} (short : pieces.flatten.length < 8) :
    (run recvFrame pieces).1 = .ok none ∧ (run recvFrame pieces).2.flatten = [] := by
  rw [recvFrame, Proc.request_bind]
  obtain ⟨rest, left, ran⟩ := run_ask_of_short (c := ⟨8⟩) short
  rw [ran]
  exact ⟨rfl, left⟩

theorem recvFrames_ended {pieces : List Bytes} (ended : pieces.flatten = []) (n : Nat) :
    recvFrames n pieces = List.replicate n (.ok none) := by
  induction n generalizing pieces with
  | zero => rfl
  | succ n ih =>
      obtain ⟨result, left⟩ := recvFrame_run_short (by rw [ended]; decide)
      rw [recvFrames, result, ih left, List.replicate_succ]

/-- However the encodings of some frames are cut into reads, the receives return the
    frames in order, and every later one the end of the stream. -/
theorem frames_arrive_in_order {frames : List Frame} {bytes : Bytes} (encodes : Encodes frames bytes)
    {pieces : List Bytes} (cut : pieces.flatten = bytes) (more : Nat) :
    recvFrames (frames.length + more) pieces =
      frames.map (fun frame => .ok (some frame)) ++ List.replicate more (.ok none) := by
  induction encodes generalizing pieces with
  | nil =>
      rw [List.length_nil, Nat.zero_add, List.map_nil, List.nil_append]
      exact recvFrames_ended cut more
  | cons encoded _ ih =>
      obtain ⟨result, left⟩ := (recvFrame_yields encoded).run cut
      rw [List.length_cons, Nat.add_right_comm, recvFrames, result, ih left, List.map_cons, List.cons_append]

theorem two_pings_arrive : recvFrames 3 [(pingBytes 7).take 5, (pingBytes 7).drop 5 ++ pingBytes 8] =
    [.ok (some (.control (.ping 7))), .ok (some (.control (.ping 8))), .ok none] := by
  have encodes : Encodes [.control (.ping 7), .control (.ping 8)] (pingBytes 7 ++ (pingBytes 8 ++ [])) :=
    .cons rfl (.cons rfl .nil)
  exact frames_arrive_in_order encodes rfl 1

end BridgeOS.Transport
