import BridgeOS.Node.Connection
import BridgeOS.Transport.Framed
import Mathlib.Data.List.Chain

/-! # Inbound frames and the outbound branch

A connection's task over the bytes the peer sends. `recv_frame` takes them out of
the stream in the pieces they arrive in. When the outbound branch of the
`select!` is ready, the receive of the other branch is dropped with the bytes it
holds.
-/

namespace BridgeOS.Node

open BridgeOS.Session hiding recvFrame
open BridgeOS.Transport Reading Proc

section Streams

variable [Crypto]

/-- `consumed` is what the current receive has taken, `pending` what the peer has
    sent or will send and nobody has read. -/
structure Stream where
  task : Task
  reading : Reading BridgeError (Option Frame)
  consumed : Bytes
  pending : Bytes
  received : List Frame

def Stream.opened (task : Task) (bytes : Bytes) : Stream := ⟨task, start recvFrame, [], bytes, []⟩

def framesOf : Except BridgeError (Option Frame) → List Frame
  | .ok (some frame) => [frame]
  | _ => []

/-- The receive is over; the next one starts afresh. -/
def Stream.deliver (s : Stream) (result : Except BridgeError (Option Frame)) : Stream :=
  { s with
    task := match s.task with
      | .ask c next =>
          match c.take result with
          | some answer => (next answer).resume connectionRound
          | none => s.task
      | task => task
    reading := start recvFrame
    consumed := []
    received := s.received ++ framesOf result }

/-- Everything but the outbound branch. The stream ends only behind the last byte. -/
inductive Advances : Stream → Stream → Prop where
  | piece {s : Stream} {c next piece rest} (waits : s.task = .ask c next) (receives : c.Receives)
      (arrives : s.pending = piece ++ rest) (fits : piece.length ≤ s.reading.wants) :
      Advances s { s with
        reading := s.reading.receive piece, consumed := s.consumed ++ piece, pending := rest }
  | complete {s : Stream} {c next result} (waits : s.task = .ask c next) (receives : c.Receives)
      (done : s.reading.result = some result) : Advances s (s.deliver result)
  | ended {s : Stream} {c next result} (waits : s.task = .ask c next) (receives : c.Receives)
      (empty : s.pending = [])
      (done : (s.reading.fail .unexpectedEof).result = some result) : Advances s (s.deliver result)
  | other {s : Stream} {c next} (asks : s.task = .ask c next) (elsewhere : ¬ c.Receives)
      (answer : c.Answer) : Advances s { s with task := (next answer).resume connectionRound }

/-- The outbound branch of the `select!` is taken. -/
inductive Preempts : Stream → Stream → Prop where
  | outbound {s : Stream} {next} (waits : s.task = .ask .select next) (frame : DataFrame) :
      Preempts s { s with
        task := (next (.outbound frame)).resume connectionRound
        reading := start recvFrame
        consumed := [] }

abbrev StreamStep (s t : Stream) : Prop := Advances s t ∨ Preempts s t

/-- What was received is what the peer sent first, and the bytes not yet turned into
    frames are those of the other frames it sent. -/
def InStep (sent : List Frame) (s : Stream) : Prop :=
  ∃ rest, sent = s.received ++ rest ∧ Encodes rest (s.consumed ++ s.pending)

variable {sent : List Frame} {s t : Stream} {result : Except BridgeError (Option Frame)}

/-- Along the bytes of the frames still to come, a receive that is through has the
    first of them; one that is not has not come to the end of the bytes. -/
theorem received_next {rest : List Frame} (took : Took recvFrame s.consumed s.reading)
    (encodes : Encodes rest (s.consumed ++ s.pending)) (done : s.reading.result = some result) :
    ∃ frame later, rest = frame :: later ∧ result = .ok (some frame) ∧ Encodes later s.pending := by
  generalize stream : s.consumed ++ s.pending = bytes at encodes
  cases encodes with
  | nil =>
      rw [(List.append_eq_nil_iff.mp stream).1] at took
      rw [(reading_of_took_nil took).1] at done
      cases done
  | @cons frame later whole more encoded remaining =>
      rcases (recvFrame_yields encoded).along took stream with ⟨finished, taken⟩ | ⟨waiting, -⟩
      · rw [finished] at done
        cases done
        rw [taken] at stream
        exact ⟨frame, later, rfl, rfl, List.append_cancel_left stream ▸ remaining⟩
      · rw [waiting] at done
        cases done

theorem received_at_end {rest : List Frame} (took : Took recvFrame s.consumed s.reading)
    (encodes : Encodes rest (s.consumed ++ s.pending)) (empty : s.pending = [])
    (done : (s.reading.fail .unexpectedEof).result = some result) :
    s.reading.result = some result ∨ (rest = [] ∧ result = .ok none) := by
  generalize stream : s.consumed ++ s.pending = bytes at encodes
  cases encodes with
  | nil =>
      rw [(List.append_eq_nil_iff.mp stream).1] at took
      rw [(reading_of_took_nil took).2] at done
      cases done
      exact .inr ⟨rfl, rfl⟩
  | @cons frame later whole more encoded remaining =>
      rcases (recvFrame_yields encoded).along took stream with ⟨finished, -⟩ | ⟨-, missing, some, split⟩
      · rw [finished] at done ⊢
        exact .inl done
      · -- a frame is missing its end, but the peer has sent whole frames only
        rw [empty, List.append_nil, split, List.append_assoc, List.self_eq_append_right] at stream
        exact (some (List.append_eq_nil_iff.mp stream).1).elim

/-- In step, and the current receive is where the bytes it took have led it. -/
structure Tracks (sent : List Frame) (s : Stream) : Prop where
  inStep : InStep sent s
  took : Took recvFrame s.consumed s.reading

theorem Tracks.complete (tracks : Tracks sent s) (done : s.reading.result = some result) :
    Tracks sent (s.deliver result) := by
  obtain ⟨⟨rest, rfl, encodes⟩, took⟩ := tracks
  obtain ⟨frame, later, rfl, rfl, remaining⟩ := received_next took encodes done
  exact ⟨⟨later, by simp [Stream.deliver, framesOf], remaining⟩, took_start _⟩

/-- The step lemma: whatever happens but the outbound branch. -/
theorem Tracks.advances (tracks : Tracks sent s) (step : Advances s t) : Tracks sent t := by
  cases step with
  | piece waits receives arrives fits =>
      obtain ⟨⟨later, same, encodes⟩, took⟩ := tracks
      rw [arrives, ← List.append_assoc] at encodes
      exact ⟨⟨later, same, encodes⟩, took.receive fits⟩
  | complete _ _ done => exact tracks.complete done
  | ended _ _ empty done =>
      have ⟨⟨rest, same, encodes⟩, took⟩ := tracks
      rcases received_at_end took encodes empty done with done' | ⟨rfl, rfl⟩
      · exact tracks.complete done'
      · refine ⟨⟨[], by simpa [Stream.deliver, framesOf] using same, ?_⟩, took_start _⟩
        simpa [Stream.deliver, empty] using Encodes.nil
  | other _ _ _ => exact ⟨tracks.inStep, tracks.took⟩

/-- The outbound branch keeps in step exactly when the receive it drops has taken nothing. -/
theorem Tracks.preempts (tracks : Tracks sent s) (step : Preempts s t) :
    InStep sent t ↔ s.consumed = [] := by
  obtain ⟨⟨rest, same, encodes⟩, -⟩ := tracks
  cases step with
  | outbound waits frame =>
      constructor
      · rintro ⟨rest', same', encodes'⟩
        obtain rfl := List.append_cancel_left (same.symm.trans same')
        have bytes := encodes.unique encodes'
        rw [List.nil_append] at bytes
        exact List.append_left_eq_self.mp bytes
      · intro nothing
        rw [nothing] at encodes
        exact ⟨rest, same, encodes⟩

theorem tracks_opened {bytes : Bytes} (encodes : Encodes sent bytes) (task : Task) :
    Tracks sent (.opened task bytes) :=
  ⟨⟨sent, rfl, encodes⟩, took_start _⟩

/-- The run lemma: a run stays in step exactly when the outbound branch is taken
    only while the receive has taken nothing. -/
theorem Tracks.run {states : List Stream} (tracks : Tracks sent s)
    (run : (s :: states).IsChain StreamStep) :
    (∀ t ∈ states, InStep sent t) ↔
      (s :: states).IsChain fun a b => Preempts a b → a.consumed = [] := by
  induction states generalizing s with
  | nil => simp
  | cons t later ih =>
      rw [List.isChain_cons_cons] at run ⊢
      rw [List.forall_mem_cons]
      obtain ⟨step, run⟩ := run
      constructor
      · rintro ⟨inStep, others⟩
        have next : Tracks sent t := by
          rcases step with advances | preempts
          · exact tracks.advances advances
          · obtain ⟨⟩ := preempts
            exact ⟨inStep, took_start _⟩
        exact ⟨fun preempts => (tracks.preempts preempts).mp inStep, (ih next run).mp others⟩
      · rintro ⟨nothing, others⟩
        have next : Tracks sent t := by
          rcases step with advances | preempts
          · exact tracks.advances advances
          · have inStep := (tracks.preempts preempts).mpr (nothing preempts)
            obtain ⟨⟩ := preempts
            exact ⟨inStep, took_start _⟩
        exact ⟨next.inStep, (ih next run).mpr others⟩

theorem inbound_frames_survive_iff {bytes : Bytes} (encodes : Encodes sent bytes) {task : Task}
    {states : List Stream} (run : (Stream.opened task bytes :: states).IsChain StreamStep) :
    (∀ t ∈ states, InStep sent t) ↔
      (Stream.opened task bytes :: states).IsChain fun a b => Preempts a b → a.consumed = [] :=
  (tracks_opened encodes task).run run

theorem Preempts.unread (step : Preempts s t) : t.consumed = [] ∧ t.received = s.received := by
  cases step
  exact ⟨rfl, rfl⟩

section Rounds

variable (self : ActiveSession) (outbound : DataFrame)

/-- At the `select!`, and inside the outbound branch before its two questions. -/
def selecting : Task := connectionRound (self, .select)

def readingState : Task := handleOutbound outbound >>= afterRound self

def sendingOutbound : Task :=
  .ask (.session (.send (.data outbound))) fun _ => .ok (.inl (self, .select))

/-- A clipboard frame goes out to a trusted peer. -/
theorem outbound_round (s : Stream) (atSelect : s.task = selecting self) :
    let fresh := start recvFrame
    StreamStep s ⟨readingState self outbound, fresh, [], s.pending, s.received⟩ ∧
      StreamStep ⟨readingState self outbound, fresh, [], s.pending, s.received⟩
        ⟨sendingOutbound self outbound, fresh, [], s.pending, s.received⟩ ∧
      StreamStep ⟨sendingOutbound self outbound, fresh, [], s.pending, s.received⟩
        ⟨selecting self, fresh, [], s.pending, s.received⟩ := by
  intro fresh
  have preempts := Preempts.outbound (atSelect.trans (connectionRound_select self)) outbound
  have trusted := Advances.other (s := ⟨readingState self outbound, fresh, [], s.pending, s.received⟩)
    (c := .session .readState) rfl id SessionState.trusted
  have sends := Advances.other (s := ⟨sendingOutbound self outbound, fresh, [], s.pending, s.received⟩)
    (c := .session (.send (.data outbound))) rfl id (Except.ok ())
  exact ⟨.inr preempts, .inl trusted, .inl sends⟩

/-- A header that is half read when the outbound branch is taken: the next receive
    finds the rest of it where it expects the magic number. -/
theorem exists_lost_header (self : ActiveSession) (outbound : DataFrame) : ∃ states last,
    (Stream.opened (selecting self) (pingBytes 7 ++ pingBytes 8) :: states).IsChain StreamStep ∧
      last ∈ states ∧
      last.task = .error (.context "Failed to read frame" (.bridge .invalidMagic)) ∧
      last.received = [] ∧ last.consumed = [] ∧ last.pending = (pingBytes 8).drop 1 := by
  let fresh : Reading BridgeError (Option Frame) := start recvFrame
  let lost : Bytes := [0, 0, 0, 3, 1, 0, 7, 66]
  let rest : Bytes := (pingBytes 8).drop 1
  let misread : Stream := ⟨selecting self, fresh.receive lost, lost, rest, []⟩
  refine ⟨[⟨selecting self, fresh.receive magic, magic, lost ++ rest, []⟩,
    ⟨readingState self outbound, fresh, [], lost ++ rest, []⟩,
    ⟨sendingOutbound self outbound, fresh, [], lost ++ rest, []⟩,
    ⟨selecting self, fresh, [], lost ++ rest, []⟩,
    misread, misread.deliver (.error .invalidMagic)], _, ?_, List.mem_of_getLast? rfl, rfl, rfl, rfl, rfl⟩
  obtain ⟨preempts, trusted, sends⟩ := outbound_round self outbound
    ⟨selecting self, fresh.receive magic, magic, lost ++ rest, []⟩ rfl
  have waits := connectionRound_select self
  have half : magic.length ≤ fresh.wants := by decide
  have whole : lost.length ≤ fresh.wants := by decide
  have done : (fresh.receive lost).result = some (.error .invalidMagic) := rfl
  simp only [List.isChain_cons_cons, List.isChain_singleton, and_true]
  exact ⟨.inl (.piece waits trivial rfl half), preempts, trusted, sends,
    .inl (.piece waits trivial rfl whole), .inl (.complete (c := .select) waits trivial done)⟩

/-- The outbound branch is taken at a quiet moment, and a ping is received after it. -/
theorem exists_quiet_outbound (self : ActiveSession) (outbound : DataFrame) : ∃ states,
    (Stream.opened (selecting self) (pingBytes 7) :: states).IsChain StreamStep ∧
      (∃ t ∈ states, t.received = [.control (.ping 7)]) ∧
      (Stream.opened (selecting self) (pingBytes 7) :: states).IsChain
        fun a b => Preempts a b → a.consumed = [] := by
  let fresh : Reading BridgeError (Option Frame) := start recvFrame
  let header : Bytes := (pingBytes 7).take 8
  let payload : Bytes := [1, 0, 7]
  let whole : Stream := ⟨selecting self, (fresh.receive header).receive payload, pingBytes 7, [], []⟩
  obtain ⟨preempts, trusted, sends⟩ := outbound_round self outbound
    (.opened (selecting self) (pingBytes 7)) rfl
  have waits := connectionRound_select self
  have first : header.length ≤ fresh.wants := by decide
  have second : payload.length ≤ (fresh.receive header).wants := by decide
  have done : whole.reading.result = some (.ok (some (.control (.ping 7)))) := rfl
  refine ⟨[⟨readingState self outbound, fresh, [], pingBytes 7, []⟩,
    ⟨sendingOutbound self outbound, fresh, [], pingBytes 7, []⟩,
    ⟨selecting self, fresh, [], pingBytes 7, []⟩,
    ⟨selecting self, fresh.receive header, header, payload, []⟩, whole,
    whole.deliver (.ok (some (.control (.ping 7))))], ?_, ⟨_, List.mem_of_getLast? rfl, rfl⟩, ?_⟩
  · simp only [List.isChain_cons_cons, List.isChain_singleton, and_true]
    exact ⟨preempts, trusted, sends, .inl (.piece waits trivial rfl first),
      .inl (.piece waits trivial rfl second), .inl (.complete (c := .select) waits trivial done)⟩
  · simp only [List.isChain_cons_cons, List.isChain_singleton, and_true]
    refine ⟨fun _ => rfl, fun _ => trivial, fun _ => trivial, fun _ => trivial, ?_, ?_⟩
    · intro step
      cases step.unread.1
    · intro step
      cases step.unread.2

end Rounds

end Streams

section Example

attribute [local instance] transparentCrypto

def exampleSession : ActiveSession :=
  ⟨⟨.fill 32 1⟩, "node", .windows, ⟨.fill 32 2⟩, IdentityKey.publicKey ⟨.fill 32 2⟩, "peer", .unknown, .trusted,
    true, none⟩

/-- A clipboard frame at a quiet moment: the ping behind it is received. -/
theorem frame_after_outbound_survives : ∃ states,
    (Stream.opened (selecting exampleSession) (pingBytes 7) :: states).IsChain StreamStep ∧
      (∃ t ∈ states, t.received = [.control (.ping 7)]) ∧
      ∀ t ∈ states, InStep [.control (.ping 7)] t := by
  have encodes : Encodes [.control (.ping 7)] (pingBytes 7 ++ []) := .cons rfl .nil
  rw [List.append_nil] at encodes
  obtain ⟨states, run, received, quiet⟩ :=
    exists_quiet_outbound exampleSession ⟨DataFrame.channelClipboard, []⟩
  exact ⟨states, run, received, (inbound_frames_survive_iff encodes run).mpr quiet⟩

theorem half_read_header_is_lost :
    let sent : List Frame := [.control (.ping 7), .control (.ping 8)]
    ∃ bytes states last, Encodes sent bytes ∧
      (Stream.opened (selecting exampleSession) bytes :: states).IsChain StreamStep ∧ last ∈ states ∧
      last.task = .error (.context "Failed to read frame" (.bridge .invalidMagic)) ∧
      last.received = [] ∧ ¬ InStep sent last := by
  intro sent
  have encodes : Encodes sent (pingBytes 7 ++ (pingBytes 8 ++ [])) := .cons rfl (.cons rfl .nil)
  rw [List.append_nil] at encodes
  obtain ⟨states, last, run, member, ends, received, consumed, pending⟩ :=
    exists_lost_header exampleSession ⟨DataFrame.channelClipboard, []⟩
  refine ⟨_, states, last, encodes, run, member, ends, received, ?_⟩
  rintro ⟨rest, same, left⟩
  rw [received, List.nil_append] at same
  rw [consumed, pending, List.nil_append, ← same] at left
  exact absurd (encodes.unique left) (by decide)

end Example

end BridgeOS.Node
