import BridgeOS.Transport.Framed

/-! # A stream that ends

What the first receive makes of the bytes that come before the peer closes,
compared with decoding them at once. The two agree on every byte string that has a
whole header; a shorter one is taken for the end of the stream at a frame boundary.
-/

namespace BridgeOS.Transport

open Reading

variable {pieces : List Bytes}

theorem decodeFrame_eq_ok {bytes : Bytes} {frame : Frame} :
    decodeFrame bytes = .ok frame ↔ 8 ≤ bytes.length ∧ bytes.take 4 = magic ∧
      announced bytes ≤ maxFrameLength ∧ 8 + announced bytes ≤ bytes.length ∧
      decodePayload (slice bytes 8 (announced bytes)) = .ok frame := by
  unfold decodeFrame
  dsimp only
  split
  · refine iff_of_false (by simp) ?_
    rintro ⟨header, -⟩
    omega
  · split
    · rename_i other
      refine iff_of_false (by simp) ?_
      rintro ⟨-, start, -⟩
      exact other start
    · rename_i header start
      split
      · refine iff_of_false (by simp) ?_
        rintro ⟨-, -, small, -⟩
        omega
      · split
        · refine iff_of_false (by simp) ?_
          rintro ⟨-, -, -, whole, -⟩
          omega
        · have parts : 8 ≤ bytes.length ∧ announced bytes ≤ maxFrameLength ∧
              8 + announced bytes ≤ bytes.length := by omega
          simp [parts, not_not.mp start]

/-- The receive goes on from a whole header as from one that was decoded. -/
theorem recvFrame_run_header (header : 8 ≤ pieces.flatten.length) :
    ∃ rest : List Bytes, rest.flatten = pieces.flatten.drop 8 ∧
      run recvFrame pieces =
        if pieces.flatten.take 4 ≠ magic then (.error .invalidMagic, rest)
        else if announced pieces.flatten > maxFrameLength then
          (.error (.frameTooLarge (announced pieces.flatten) maxFrameLength), rest)
        else run (recvPayload (announced pieces.flatten)) rest := by
  rw [recvFrame, Proc.request_bind]
  obtain ⟨data, rest, taken, left, ran⟩ := run_ask_of_le (c := ⟨8⟩) header
  refine ⟨rest, left, ran.trans ?_⟩
  have start : data.bytes.take 4 = pieces.flatten.take 4 := by
    rw [taken, List.take_take]
    rfl
  have length : fromBeBytes (data.bytes.drop 4) = announced pieces.flatten := by
    rw [taken, List.drop_take]
    rfl
  dsimp only
  rw [start, length]
  split
  · rfl
  · split
    · rfl
    · rfl

theorem recvPayload_run_le {length : Nat} (enough : length ≤ pieces.flatten.length) :
    (run (recvPayload length) pieces).1 = (decodePayload (pieces.flatten.take length)).map some ∧
      (run (recvPayload length) pieces).2.flatten = pieces.flatten.drop length := by
  rw [recvPayload, Proc.request_bind]
  obtain ⟨data, rest, taken, left, ran⟩ := run_ask_of_le (c := ⟨length⟩) enough
  rw [ran]
  dsimp only
  rw [taken]
  cases decodePayload (pieces.flatten.take length) with
  | ok frame => exact ⟨rfl, left⟩
  | error e => exact ⟨rfl, left⟩

theorem recvPayload_run_short {length : Nat} (short : pieces.flatten.length < length) :
    ∃ e, (run (recvPayload length) pieces).1 = .error e := by
  rw [recvPayload, Proc.request_bind]
  obtain ⟨rest, -, ran⟩ := run_ask_of_short (c := ⟨length⟩) short
  rw [ran]
  exact ⟨_, rfl⟩

theorem recvFrame_run_of_decodeFrame {frame : Frame} (decoded : decodeFrame pieces.flatten = .ok frame) :
    (run recvFrame pieces).1 = .ok (some frame) ∧
      (run recvFrame pieces).2.flatten = pieces.flatten.drop (8 + announced pieces.flatten) := by
  obtain ⟨header, start, small, whole, payload⟩ := decodeFrame_eq_ok.mp decoded
  obtain ⟨rest, left, ran⟩ := recvFrame_run_header header
  rw [if_neg (not_not.mpr start), if_neg (Nat.not_lt.mpr small)] at ran
  have enough : announced pieces.flatten ≤ rest.flatten.length := by
    rw [left, List.length_drop]
    omega
  obtain ⟨result, behind⟩ := recvPayload_run_le enough
  rw [left] at result behind
  rw [ran, result, behind, List.drop_drop]
  exact ⟨congrArg (Except.map some) payload, rfl⟩

/-- What is not decoded is not received. -/
theorem recvFrame_run_of_refused (header : 8 ≤ pieces.flatten.length)
    (refused : ∀ frame, decodeFrame pieces.flatten ≠ .ok frame) :
    ∃ e, (run recvFrame pieces).1 = .error e := by
  obtain ⟨rest, left, ran⟩ := recvFrame_run_header header
  rw [ran]
  by_cases start : pieces.flatten.take 4 = magic
  · by_cases large : announced pieces.flatten > maxFrameLength
    · exact ⟨_, by rw [if_neg (not_not.mpr start), if_pos large]⟩
    · rw [if_neg (not_not.mpr start), if_neg large]
      by_cases enough : announced pieces.flatten ≤ rest.flatten.length
      · rw [(recvPayload_run_le enough).1, left]
        rw [left, List.length_drop] at enough
        cases payload : decodePayload (slice pieces.flatten 8 (announced pieces.flatten)) with
        | error e => exact ⟨e, congrArg (Except.map some) payload⟩
        | ok frame =>
            exact absurd (decodeFrame_eq_ok.mpr ⟨header, start, by omega, by omega, payload⟩)
              (refused frame)
      · exact recvPayload_run_short (Nat.lt_of_not_le enough)
  · exact ⟨_, by rw [if_pos start]⟩

/-- The first receive on a stream that ends tells frame, end and error apart as decoding
    all of its bytes does, and takes no byte behind the frame. -/
structure Classified (pieces : List Bytes) : Prop where
  frame : ∀ frame, (run recvFrame pieces).1 = .ok (some frame) ↔ decodeFrame pieces.flatten = .ok frame
  consumed : ∀ frame, (run recvFrame pieces).1 = .ok (some frame) →
    8 + announced pieces.flatten ≤ pieces.flatten.length ∧
      (run recvFrame pieces).2.flatten = pieces.flatten.drop (8 + announced pieces.flatten)
  closed : (run recvFrame pieces).1 = .ok none ↔ pieces.flatten = []
  failed : pieces.flatten ≠ [] → (∀ frame, decodeFrame pieces.flatten ≠ .ok frame) →
    ∃ e, (run recvFrame pieces).1 = .error e

/-- A frame is received exactly if it is decoded, wherever the stream ends. -/
theorem received_iff_decoded (pieces : List Bytes) (frame : Frame) :
    (run recvFrame pieces).1 = .ok (some frame) ↔ decodeFrame pieces.flatten = .ok frame := by
  constructor
  · intro received
    by_contra refused
    by_cases header : 8 ≤ pieces.flatten.length
    · cases decoded : decodeFrame pieces.flatten with
      | ok other =>
          cases (recvFrame_run_of_decodeFrame decoded).1.symm.trans received
          exact refused decoded
      | error e =>
          obtain ⟨e', failed⟩ := recvFrame_run_of_refused header (by simp [decoded])
          cases failed.symm.trans received
    · cases (recvFrame_run_short (Nat.lt_of_not_le header)).1.symm.trans received
  · intro decoded
    exact (recvFrame_run_of_decodeFrame decoded).1

/-- However the stream is cut, its first receive is right about it exactly if it does not
    end inside the header. -/
theorem classified_iff (pieces : List Bytes) :
    Classified pieces ↔ pieces.flatten = [] ∨ 8 ≤ pieces.flatten.length := by
  constructor
  · intro classified
    by_cases header : 8 ≤ pieces.flatten.length
    · exact .inr header
    · exact .inl (classified.closed.mp (recvFrame_run_short (Nat.lt_of_not_le header)).1)
  · intro whole
    refine ⟨received_iff_decoded pieces, ?_, ?_, ?_⟩
    · intro frame received
      have decoded := (received_iff_decoded pieces frame).mp received
      exact ⟨(decodeFrame_eq_ok.mp decoded).2.2.2.1, (recvFrame_run_of_decodeFrame decoded).2⟩
    · constructor
      · intro closed
        rcases whole with ended | header
        · exact ended
        · by_cases decodes : ∃ frame, decodeFrame pieces.flatten = .ok frame
          · obtain ⟨frame, decoded⟩ := decodes
            cases (recvFrame_run_of_decodeFrame decoded).1.symm.trans closed
          · obtain ⟨e, failed⟩ := recvFrame_run_of_refused header (not_exists.mp decodes)
            cases failed.symm.trans closed
      · intro ended
        exact (recvFrame_run_short (by rw [ended]; decide)).1
    · intro some refused
      rcases whole with ended | header
      · exact absurd ended some
      · exact recvFrame_run_of_refused header refused

/-- Seven bytes of a ping and no more: the receive reports a clean end. -/
theorem cut_header_is_end :
    (run recvFrame [(pingBytes 7).take 7]).1 = .ok none ∧ (pingBytes 7).take 7 ≠ [] ∧
      decodeFrame ((pingBytes 7).take 7) =
        .error (.framing "Buffer too short for header: got 7 bytes, expected at least 8") :=
  ⟨rfl, by decide, by decide⟩

end BridgeOS.Transport
