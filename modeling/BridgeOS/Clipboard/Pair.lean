import BridgeOS.Clipboard.Echo
import BridgeOS.Lib.Exchange

/-! # Two connected nodes

Two stations that send each other every frame their monitors broadcast. Each
direction delivers in order and loses nothing; the users, the monitors and the
two directions take turns in any way.
-/

namespace BridgeOS.Clipboard

/-- The two stations, and the frames on their way to each. -/
structure Pair where
  station : Side → Station
  link : Side → List DataFrame

inductive Action where
  | copy (side : Side) (body : String)
  | take (side : Side) (timestampMs : UInt64)
  | deliver (side : Side)
  deriving DecidableEq

namespace Pair

variable (blake3 : Bytes → FixedBytes 32)

/-- Two fresh engines over empty clipboards. -/
def start (nodeId : Side → NodeId) (policy : Side → ClipboardPolicy) : Pair :=
  ⟨fun side => .start (nodeId side) (policy side) none, fun _ => []⟩

/-- Nothing for an action that has to wait. -/
def step (p : Pair) : Action → Option Pair
  | .copy side body => some { p with
      station := Function.update p.station side ((p.station side).copy (.text body)) }
  | .take side timestampMs =>
      ((p.station side).take blake3 timestampMs).map fun taken =>
        ⟨Function.update p.station side taken.2,
          Function.update p.link side.other (p.link side.other ++ taken.1.toList)⟩
  | .deliver side =>
      match p.link side with
      | [] => none
      | frame :: rest => some
          ⟨Function.update p.station side ((p.station side).receive blake3 frame),
            Function.update p.link side rest⟩

inductive Run (first : Pair) : List Action → Pair → Prop where
  | start : Run first [] first
  | step {actions : List Action} {p p' : Pair} {action : Action} (run : Run first actions p)
      (taken : p.step blake3 action = some p') : Run first (actions ++ [action]) p'

/-- The texts a user copied. -/
def copies (side : Side) (actions : List Action) : List String :=
  actions.filterMap fun
    | .copy which body => if which = side then some body else none
    | _ => none

/-- How often a frame was delivered to a side. -/
def deliveries (side : Side) (actions : List Action) : Nat := actions.count (.deliver side)

theorem copies_snoc (side : Side) (actions : List Action) (action : Action) :
    copies side (actions ++ [action]) = copies side actions ++ copies side [action] := by
  simp [copies]

@[simp] theorem copies_copy_self (side : Side) (body : String) :
    copies side [.copy side body] = [body] := by simp [copies]

@[simp] theorem copies_copy_other (side : Side) (body : String) :
    copies side.other [.copy side body] = [] := by simp [copies]

@[simp] theorem copies_other_copy (side : Side) (body : String) :
    copies side [.copy side.other body] = [] := by simp [copies]

@[simp] theorem copies_take (side which : Side) (timestampMs : UInt64) :
    copies side [.take which timestampMs] = [] := rfl

@[simp] theorem copies_deliver (side which : Side) : copies side [.deliver which] = [] := rfl

def execute (p : Pair) (actions : List Action) : Option Pair := actions.foldlM (step blake3) p

variable {blake3} {actions : List Action}

theorem Run.of_execute {first p p' : Pair} {before : List Action} (run : Run blake3 first before p)
    (executed : p.execute blake3 actions = some p') :
    Run blake3 first (before ++ actions) p' := by
  induction actions generalizing p before with
  | nil =>
      cases executed
      rw [List.append_nil]
      exact run
  | cons action rest ih =>
      rw [execute, List.foldlM_cons] at executed
      cases taken : p.step blake3 action with
      | none =>
          rw [taken] at executed
          cases executed
      | some middle =>
          rw [taken] at executed
          rw [List.append_cons]
          exact ih (run.step taken) executed

theorem run_of_execute {p p' : Pair} (executed : p.execute blake3 actions = some p') : Run blake3 p actions p' := by
  have run := Run.of_execute (.start : Run blake3 p [] p) executed
  exact run

/-- What an action does. -/
inductive Steps (blake3 : Bytes → FixedBytes 32) (p : Pair) : Action → Pair → Prop where
  | copy (side : Side) (body : String) : Steps blake3 p (.copy side body) { p with
      station := Function.update p.station side ((p.station side).copy (.text body)) }
  | take {side : Side} {timestampMs : UInt64} {sent : Option DataFrame} {s : Station}
      (taken : (p.station side).take blake3 timestampMs = some (sent, s)) :
      Steps blake3 p (.take side timestampMs)
        ⟨Function.update p.station side s,
          Function.update p.link side.other (p.link side.other ++ sent.toList)⟩
  | deliver {side : Side} {frame : DataFrame} {rest : List DataFrame}
      (next : p.link side = frame :: rest) : Steps blake3 p (.deliver side)
        ⟨Function.update p.station side ((p.station side).receive blake3 frame),
          Function.update p.link side rest⟩

theorem steps_of_step {p p' : Pair} {action : Action} (taken : p.step blake3 action = some p') :
    Steps blake3 p action p' := by
  cases action with
  | copy side body =>
      cases taken
      exact .copy side body
  | take side timestampMs =>
      obtain ⟨⟨sent, s⟩, found, rfl⟩ := Option.map_eq_some_iff.mp taken
      exact .take found
  | deliver side =>
      cases next : p.link side with
      | nil => simp [step, next] at taken
      | cons frame rest =>
          simp only [step, next, Option.some.injEq] at taken
          subst taken
          exact .deliver next

/-- Nothing is under way and no change waits for a monitor. -/
def Quiescent (p : Pair) : Prop := ∀ side, (p.station side).pending = [] ∧ p.link side = []

end Pair

section Pipes

variable (blake3 : Bytes → FixedBytes 32)

def textHash (body : String) : FixedBytes 32 := (ClipboardContent.text body).computeHash blake3

/-- Frames that announce these texts, numbered from `n` on. -/
inductive Flight (origin : NodeId) : Nat → List String → List DataFrame → Prop where
  | nil (n : Nat) : Flight origin n [] []
  | cons {n : Nat} {body : String} {bodies : List String} {frames : List DataFrame}
      (timestampMs : UInt64) (rest : Flight origin (n + 1) bodies frames) :
      Flight origin n (body :: bodies) ((ClipboardMessage.sync (.new blake3 timestampMs origin
        (UInt64.ofNat n) (.text body) false)).toDataFrame :: frames)

variable {blake3} {frames : List DataFrame}

theorem Flight.snoc {origin : NodeId} {n : Nat} {bodies : List String}
    (flight : Flight blake3 origin n bodies frames) (timestampMs : UInt64) (body : String) :
    Flight blake3 origin n (bodies ++ [body]) (frames ++ [(ClipboardMessage.sync (.new blake3
      timestampMs origin (UInt64.ofNat (n + bodies.length)) (.text body) false)).toDataFrame]) := by
  induction flight with
  | nil n => exact .cons timestampMs (.nil _)
  | @cons n first bodies frames sentAt _ ih =>
      rw [List.length_cons, Nat.add_comm bodies.length, ← Nat.add_assoc]
      exact .cons sentAt ih

/-- One direction: the texts that have arrived, those under way, and how they are numbered. -/
structure Pipe (blake3 : Bytes → FixedBytes 32) (x y : Station) (link : List DataFrame)
    (delivered inflight : List String) : Prop where
  flight : Flight blake3 x.nodeId (delivered.length + 1) inflight link
  numbered : x.engine.sequence = UInt64.ofNat (delivered.length + 1 + inflight.length)
  noticed : ∀ last ∈ y.guard.lastSequence x.nodeId, last.toNat ≤ delivered.length

namespace Pipe

variable {x y x' y' : Station} {link : List DataFrame} {delivered inflight : List String}

/-- Nothing but the numbering of both ends matters. -/
theorem congr (pipe : Pipe blake3 x y link delivered inflight) (named : x'.nodeId = x.nodeId)
    (numbered : x'.engine.sequence = x.engine.sequence)
    (noticed : y'.guard.lastSequence x.nodeId = y.guard.lastSequence x.nodeId) :
    Pipe blake3 x' y' link delivered inflight := by
  refine ⟨?_, numbered.trans pipe.numbered, ?_⟩
  · rw [named]
    exact pipe.flight
  · rw [named, noticed]
    exact pipe.noticed

/-- A broadcast goes to the end. -/
theorem send (pipe : Pipe blake3 x y link delivered inflight) (timestampMs : UInt64) (body : String)
    (named : x'.nodeId = x.nodeId) (counted : x'.engine.sequence = x.engine.sequence + 1) :
    Pipe blake3 x' y (link ++ [x.announcement blake3 timestampMs (.text body)]) delivered
      (inflight ++ [body]) where
  flight := by
    have grown := pipe.flight.snoc timestampMs body
    rw [← pipe.numbered] at grown
    rw [named]
    exact grown
  numbered := by
    rw [counted, pipe.numbered, List.length_append, List.length_singleton, ← Nat.add_assoc]
    exact (UInt64.ofNat_add _ 1).symm
  noticed := by
    rw [named]
    exact pipe.noticed

variable {body : String} {rest : List String} {frame : DataFrame}

/-- The next frame carries the next text. -/
theorem carries (pipe : Pipe blake3 x y (frame :: frames) delivered (body :: rest))
    (sized : (utf8 body).length < 2 ^ 63) :
    ∃ timestampMs, ClipboardMessage.fromDataFrame frame = .ok (.sync (.new blake3 timestampMs x.nodeId
      (UInt64.ofNat (delivered.length + 1)) (.text body) false)) := by
  cases pipe.flight with
  | cons timestampMs _ => exact ⟨timestampMs, ClipboardEntry.fromDataFrame_new _ _ _ _ _ sized⟩

/-- The next frame is gone, whatever became of it. -/
theorem advance (pipe : Pipe blake3 x y (frame :: frames) delivered (body :: rest))
    (noticed : ∀ last ∈ y'.guard.lastSequence x.nodeId, last.toNat ≤ delivered.length + 1) :
    Pipe blake3 x y' frames (delivered ++ [body]) rest := by
  cases pipe.flight with
  | cons _ flight =>
      refine ⟨?_, ?_, ?_⟩
      · rw [List.length_append]
        exact flight
      · rw [pipe.numbered, List.length_append, List.length_cons, List.length_singleton]
        congr 1
        omega
      · rw [List.length_append, List.length_singleton]
        exact noticed

section Delivery

variable (pipe : Pipe blake3 x y (frame :: frames) delivered (body :: rest)) (apart : x.nodeId ≠ y.nodeId)
  (sized : (utf8 body).length < 2 ^ 63) (allowed : y.policy.validate (.text body) false = .ok ())
  (new : textHash blake3 body ∉ y.guard.seenHashes) (few : delivered.length + 1 < 2 ^ 64)

include pipe apart sized allowed new few

/-- The receiving engine takes the next text, unless it knows the hash. -/
theorem admits (timestampMs : UInt64) :
    ClipboardSyncEngine.Admits blake3 y.engine.toClipboardSyncEngine
      (.new blake3 timestampMs x.nodeId (UInt64.ofNat (delivered.length + 1)) (.text body) false) := by
  refine ⟨apart, ClipboardEntry.validateIntegrity_new _ _ _ _ _ sized, allowed, new, ?_⟩
  intro last found
  have below := pipe.noticed last found
  rw [UInt64.lt_iff_toNat_lt]
  show last.toNat < (UInt64.ofNat (delivered.length + 1)).toNat
  rw [UInt64.toNat_ofNat', Nat.mod_eq_of_lt few]
  omega

/-- The next frame arrives and is applied. -/
theorem deliver :
    y.receive blake3 frame = { y with
        engine.guard := y.guard.noted x.nodeId (UInt64.ofNat (delivered.length + 1))
          (textHash blake3 body)
        engine.clipboard := y.engine.clipboard.setContent (.text body) } ∧
      Pipe blake3 x (y.receive blake3 frame) frames (delivered ++ [body]) rest := by
  obtain ⟨timestampMs, message⟩ := pipe.carries sized
  have received : y.receive blake3 frame = { y with
      engine.guard := y.guard.noted x.nodeId (UInt64.ofNat (delivered.length + 1))
        (textHash blake3 body)
      engine.clipboard := y.engine.clipboard.setContent (.text body) } := by
    have handled := ClipboardSyncEngine.handleIncomingFrame_of_sync blake3 MemoryClipboard.backend
      message (pipe.admits apart sized allowed new few timestampMs)
    unfold Station.receive
    rw [handled]
    rfl
  refine ⟨received, pipe.advance ?_⟩
  intro last found
  rw [received] at found
  replace found : last ∈ (y.guard.noted x.nodeId (UInt64.ofNat (delivered.length + 1))
    (textHash blake3 body)).lastSequence x.nodeId := found
  rw [EchoGuard.lastSequence_noted, if_pos rfl] at found
  cases found
  rw [UInt64.toNat_ofNat', Nat.mod_eq_of_lt few]

end Delivery

/-- The next frame arrives and the policy refuses it. -/
theorem refuse (pipe : Pipe blake3 x y (frame :: frames) delivered (body :: rest))
    (sized : (utf8 body).length < 2 ^ 63) (refused : y.policy.validate (.text body) false ≠ .ok ()) :
    y.receive blake3 frame = y ∧ Pipe blake3 x y frames (delivered ++ [body]) rest := by
  obtain ⟨timestampMs, carried⟩ := pipe.carries sized
  refine ⟨?_, pipe.advance fun last found => Nat.le_succ_of_le (pipe.noticed last found)⟩
  have received := y.receives blake3 frame
  generalize y.receive blake3 frame = y', y.added blake3 frame = added at received ⊢
  cases received with
  | unchanged => rfl
  | applied message admits =>
      rw [carried] at message
      cases message
      exact absurd admits.allowed refused
  | cleared message foreign fresh =>
      rw [carried] at message
      cases message

/-- Frames and texts under way go together. -/
theorem exists_body (pipe : Pipe blake3 x y (frame :: frames) delivered inflight) :
    ∃ body rest, inflight = body :: rest := by
  cases pipe.flight with
  | cons _ _ => exact ⟨_, _, rfl⟩

theorem inflight_eq_nil (pipe : Pipe blake3 x y [] delivered inflight) : inflight = [] := by
  cases pipe.flight
  rfl

end Pipe

end Pipes

section Example

open Pair

def twoNodes : Pair :=
  Pair.start (fun side => ⟨.fill 32 (if side = .left then 1 else 2)⟩) fun _ => .default

/-- What waits at each side, what is on its way to it and what it shows. -/
def Pair.view (p : Pair) : List (List ClipboardContent × List DataFrame × Option ClipboardContent) :=
  [.left, .right].map fun side => ((p.station side).pending, p.link side, (p.station side).content)

theorem run_of_view {left right : Option ClipboardContent}
    (view : (twoNodes.execute spread actions).map Pair.view = some [([], [], left), ([], [], right)]) :
    ∃ p, Run spread twoNodes actions p ∧ p.Quiescent ∧ (p.station .left).content = left ∧
      (p.station .right).content = right := by
  obtain ⟨p, executed, same⟩ := Option.map_eq_some_iff.mp view
  simp only [Pair.view, List.map_cons, List.map_nil, List.cons.injEq, Prod.mk.injEq] at same
  obtain ⟨⟨noLeft, leftEmpty, shownLeft⟩, ⟨noRight, rightEmpty, shownRight⟩, -⟩ := same
  refine ⟨p, run_of_execute executed, ?_, shownLeft, shownRight⟩
  intro side
  cases side with
  | left => exact ⟨noLeft, leftEmpty⟩
  | right => exact ⟨noRight, rightEmpty⟩

end Example

end BridgeOS.Clipboard
