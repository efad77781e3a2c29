import BridgeOS.Lib.Bytes
import BridgeOS.Lib.Proc

/-! # Reading a byte stream in pieces

A reader asks for exact numbers of bytes. The bytes arrive in pieces, and a
reader that waits for the rest of a request holds what it has got of it: those
bytes are no longer in the stream, and they are lost if the reader is dropped.
How the stream was cut into pieces makes no difference to what is read.
-/

inductive ReadFault where
  | unexpectedEof
  | other (text : String)
  deriving DecidableEq

structure ReadExact where
  size : Nat

abbrev ReadExact.Answer (c : ReadExact) : Type := Except ReadFault (FixedBytes c.size)

abbrev Reader (ε α : Type) := Proc ReadExact ReadExact.Answer ε α

/-- A reader under way, with the bytes it holds of its current request. -/
structure Reading (ε α : Type) where
  program : Reader ε α
  held : Bytes

namespace Reading

variable {ε α : Type}

/-- Go on as far as the bytes at hand answer requests. -/
def settle : Reader ε α → Bytes → Reading ε α
  | .ok a, held => ⟨.ok a, held⟩
  | .error e, held => ⟨.error e, held⟩
  | .ask c next, held =>
      if full : held.length = c.size then settle (next (.ok ⟨held, full⟩)) [] else ⟨.ask c next, held⟩

def start (p : Reader ε α) : Reading ε α := settle p []

/-- How many bytes the current request still lacks. -/
def wants (r : Reading ε α) : Nat :=
  match r.program with
  | .ask c _ => c.size - r.held.length
  | _ => 0

def receive (r : Reading ε α) (piece : Bytes) : Reading ε α := settle r.program (r.held ++ piece)

/-- The current request fails; what is held of it is gone. -/
def fail (r : Reading ε α) (fault : ReadFault) : Reading ε α :=
  match r.program with
  | .ask _ next => settle (next (.error fault)) []
  | _ => r

def result (r : Reading ε α) : Option (Except ε α) :=
  match r.program with
  | .ok a => some (.ok a)
  | .error e => some (.error e)
  | .ask _ _ => none

/-- The reader took exactly these bytes out of the stream and is now at `r`. -/
inductive Took : Reader ε α → Bytes → Reading ε α → Prop where
  | ok (a) : Took (.ok a) [] ⟨.ok a, []⟩
  | error (e) : Took (.error e) [] ⟨.error e, []⟩
  | waits {c next held} (short : held.length < c.size) :
      Took (.ask c next) held ⟨.ask c next, held⟩
  | answered {c next bytes r} (data : FixedBytes c.size) (rest : Took (next (.ok data)) bytes r) :
      Took (.ask c next) (data.bytes ++ bytes) r

/-- The reader returns the value once it has taken these bytes. -/
abbrev Yields (p : Reader ε α) (bytes : Bytes) (a : α) : Prop := Took p bytes ⟨.ok a, []⟩

variable {p : Reader ε α} {r : Reading ε α} {bytes : Bytes}

theorem took_start (p : Reader ε α) : Took p [] (start p) := by
  induction p with
  | ok a => exact .ok a
  | error e => exact .error e
  | ask c next ih =>
      unfold start settle
      split
      · rename_i full
        exact .answered ⟨[], full⟩ (ih _)
      · rename_i short
        exact .waits (by simpa using Nat.pos_of_ne_zero (Ne.symm short))

/-- A piece that the current request has room for is taken as it is. -/
theorem Took.receive (took : Took p bytes r) {piece : Bytes} (fits : piece.length ≤ r.wants) :
    Took p (bytes ++ piece) (r.receive piece) := by
  induction took with
  | ok a =>
      obtain rfl := List.eq_nil_of_length_eq_zero (Nat.le_zero.mp fits)
      exact .ok a
  | error e =>
      obtain rfl := List.eq_nil_of_length_eq_zero (Nat.le_zero.mp fits)
      exact .error e
  | @waits c next held short =>
      have room : (held ++ piece).length ≤ c.size := by
        simp only [wants] at fits
        rw [List.length_append]
        omega
      simp only [Reading.receive, settle]
      split
      · rename_i full
        have taken := Took.answered ⟨held ++ piece, full⟩ (took_start (next (.ok ⟨held ++ piece, full⟩)))
        rwa [List.append_nil] at taken
      · rename_i partly
        exact .waits (Nat.lt_of_le_of_ne room partly)
  | answered data rest ih =>
      rw [List.append_assoc]
      exact .answered data (ih fits)

/-- Along a stream that begins with what makes the reader return, it has returned
    with exactly that, or it waits for a part of it. -/
theorem Yields.along {whole rest pending : Bytes} {a : α} (yields : Yields p whole a)
    (took : Took p bytes r) (stream : bytes ++ pending = whole ++ rest) :
    (r = ⟨.ok a, []⟩ ∧ bytes = whole) ∨
      (r.result = none ∧ ∃ missing, missing ≠ [] ∧ whole = bytes ++ missing) := by
  obtain ⟨last, ends⟩ : ∃ last : Reading ε α, last = ⟨.ok a, []⟩ := ⟨_, rfl⟩
  rw [Yields, ← ends] at yields
  induction yields generalizing bytes with
  | ok b =>
      cases ends
      cases took
      exact .inl ⟨rfl, rfl⟩
  | error e => cases ends
  | waits short => cases ends
  | @answered c next more _ data _ ih =>
      cases took with
      | waits short =>
          -- the request is not answered yet, so all of what was taken is part of its answer
          rw [List.append_assoc] at stream
          obtain ⟨lacking, split⟩ := List.prefix_of_prefix_length_le ⟨pending, stream⟩
            ⟨more ++ rest, rfl⟩ (by rw [data.size]; omega)
          refine .inr ⟨rfl, lacking ++ more, ?_, by rw [← split, List.append_assoc]⟩
          intro none
          have sizes := congrArg List.length split
          rw [(List.append_eq_nil_iff.mp none).1, List.append_nil, data.size] at sizes
          omega
      | answered data' rest' =>
          rw [List.append_assoc, List.append_assoc] at stream
          obtain ⟨same, later⟩ := List.append_inj stream (data'.size.trans data.size.symm)
          obtain rfl := FixedBytes.ext same
          rcases ih rest' later ends with ⟨done, rfl⟩ | ⟨waiting, missing, some, rfl⟩
          · exact .inl ⟨done, rfl⟩
          · exact .inr ⟨waiting, missing, some, (List.append_assoc ..).symm⟩

section Pieces

/-- Fill a request from the pieces as they come; what is too much of a piece stays. -/
def gather (size : Nat) (held : Bytes) : List Bytes → Bytes × List Bytes
  | [] => (held, [])
  | piece :: rest =>
      if held.length + piece.length < size then gather size (held ++ piece) rest
      else (held ++ piece.take (size - held.length), piece.drop (size - held.length) :: rest)

/-- The stream ends behind its last piece. -/
def readExact (size : Nat) (pieces : List Bytes) : Except ReadFault (FixedBytes size) × List Bytes :=
  let gathered := gather size [] pieces
  match FixedBytes.ofBytes? size gathered.1 with
  | some data => (.ok data, gathered.2)
  | none => (.error .unexpectedEof, gathered.2)

/-- A reader from its first request to its result, on a stream in pieces. -/
def run : Reader ε α → List Bytes → Except ε α × List Bytes
  | .ok a, pieces => (.ok a, pieces)
  | .error e, pieces => (.error e, pieces)
  | .ask c next, pieces =>
      let answered := readExact c.size pieces
      run (next answered.1) answered.2

/-- Where the stream is cut makes no difference. -/
theorem gather_flatten {size : Nat} (held : Bytes) (room : held.length ≤ size) (pieces : List Bytes) :
    (gather size held pieces).1 = (held ++ pieces.flatten).take size ∧
      (gather size held pieces).2.flatten = (held ++ pieces.flatten).drop size := by
  induction pieces generalizing held with
  | nil =>
      rw [gather, List.flatten_nil, List.append_nil]
      exact ⟨(List.take_of_length_le room).symm, (List.drop_of_length_le room).symm⟩
  | cons piece rest ih =>
      rw [gather, List.flatten_cons]
      split
      · rename_i short
        rw [← List.append_assoc]
        apply ih
        rw [List.length_append]
        exact Nat.le_of_lt short
      · have fits : size - held.length ≤ piece.length := by omega
        rw [List.take_append, List.drop_append, List.take_of_length_le room, List.drop_of_length_le room,
          List.take_append_of_le_length fits, List.drop_append_of_le_length fits]
        exact ⟨rfl, rfl⟩

theorem readExact_of_flatten {size : Nat} {data : FixedBytes size} {rest : Bytes} {pieces : List Bytes}
    (stream : pieces.flatten = data.bytes ++ rest) :
    (readExact size pieces).1 = .ok data ∧ (readExact size pieces).2.flatten = rest := by
  obtain ⟨filled, left⟩ := gather_flatten [] (Nat.zero_le size) pieces
  rw [List.nil_append, stream, List.take_left' data.size] at filled
  rw [List.nil_append, stream, List.drop_left' data.size] at left
  rw [readExact, filled, FixedBytes.ofBytes?_bytes]
  exact ⟨rfl, left⟩

theorem readExact_of_short {size : Nat} {pieces : List Bytes} (short : pieces.flatten.length < size) :
    (readExact size pieces).1 = .error .unexpectedEof ∧ (readExact size pieces).2.flatten = [] := by
  obtain ⟨filled, left⟩ := gather_flatten [] (Nat.zero_le size) pieces
  rw [List.nil_append, List.take_of_length_le (Nat.le_of_lt short)] at filled
  rw [List.nil_append, List.drop_of_length_le (Nat.le_of_lt short)] at left
  have rejected : FixedBytes.ofBytes? size pieces.flatten = none := by
    rw [FixedBytes.ofBytes?, dif_neg]
    exact Nat.ne_of_lt short
  rw [readExact, filled, rejected]
  exact ⟨rfl, left⟩

variable {c : ReadExact} {next : c.Answer → Reader ε α} {pieces : List Bytes}

/-- A request that the stream can fill takes its bytes off the front. -/
theorem run_ask_of_le (enough : c.size ≤ pieces.flatten.length) :
    ∃ (data : FixedBytes c.size) (rest : List Bytes), data.bytes = pieces.flatten.take c.size ∧
      rest.flatten = pieces.flatten.drop c.size ∧
      run (.ask c next) pieces = run (next (.ok data)) rest := by
  have size : (pieces.flatten.take c.size).length = c.size := List.length_take_of_le enough
  have stream : pieces.flatten =
      (⟨pieces.flatten.take c.size, size⟩ : FixedBytes c.size).bytes ++ pieces.flatten.drop c.size :=
    (List.take_append_drop ..).symm
  obtain ⟨answer, left⟩ := readExact_of_flatten stream
  refine ⟨⟨pieces.flatten.take c.size, size⟩, _, rfl, left, ?_⟩
  rw [run, answer]

/-- Any other request takes all there is and fails. -/
theorem run_ask_of_short (short : pieces.flatten.length < c.size) :
    ∃ rest : List Bytes, rest.flatten = [] ∧
      run (.ask c next) pieces = run (next (.error .unexpectedEof)) rest := by
  obtain ⟨answer, left⟩ := readExact_of_short short
  refine ⟨_, left, ?_⟩
  rw [run, answer]

/-- A reader that returns on some bytes returns on every stream that begins with them. -/
theorem Yields.run {whole rest : Bytes} {a : α} {pieces : List Bytes} (yields : Yields p whole a)
    (stream : pieces.flatten = whole ++ rest) :
    (Reading.run p pieces).1 = .ok a ∧ (Reading.run p pieces).2.flatten = rest := by
  obtain ⟨last, ends⟩ : ∃ last : Reading ε α, last = ⟨.ok a, []⟩ := ⟨_, rfl⟩
  rw [Yields, ← ends] at yields
  induction yields generalizing pieces with
  | ok b =>
      cases ends
      exact ⟨rfl, stream⟩
  | error e => cases ends
  | waits short => cases ends
  | answered data _ ih =>
      rw [List.append_assoc] at stream
      obtain ⟨answer, left⟩ := readExact_of_flatten stream
      rw [Reading.run, answer]
      exact ih left ends

end Pieces

end Reading
