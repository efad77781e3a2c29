import BridgeOS.Clipboard.Monitor
import BridgeOS.Node.Hub

/-! # The two loops of clipboard sync

The monitor takes the changes of the clipboard from one channel, the broadcaster
takes the engine's events from another and sends what is ready to the sessions in
its map. Both loops are `while let Ok(..) = rx.recv().await`, and a receiver that is
further behind than its channel keeps gets an error; so a burst ends the loop.
-/

namespace BridgeOS.Node

open Clipboard MemoryClipboard

/-- The session's end of the broadcaster's channel to it. -/
structure Outlet where
  queue : List DataFrame
  alive : Bool

/-- A send goes through: there is room, or the receiver is gone and it fails. -/
def Outlet.send (outlet : Outlet) (frame : DataFrame) : Option Outlet :=
  if outlet.alive then
    if outlet.queue.length < capacity then some { outlet with queue := outlet.queue ++ [frame] } else none
  else some outlet

/-- What the loop does with an event. -/
def Broadcaster.hearing : EngineEvent → Broadcaster NodeId
  | .outgoingBroadcastReady _ frame => .ready frame
  | _ => .idle

/-- An engine with its monitor, the events the broadcaster has not taken, and the
    sessions it sends to. -/
structure Desk where
  station : Station
  backlog : List EngineEvent
  broadcaster : Broadcaster NodeId
  sessions : AList (fun _ : NodeId => Outlet)

namespace Desk

variable (blake3 : Bytes → FixedBytes 32)

/-- What the engine's event channel keeps. -/
def eventCapacity : Nat := 128

def start (localNodeId : NodeId) (policy : ClipboardPolicy) (content : Option ClipboardContent) : Desk :=
  ⟨.start localNodeId policy content, [], .idle, ∅⟩

/-- What handling the next change puts on the event channel. -/
def emitted (timestampMs : UInt64) (station : Station) : List EngineEvent :=
  match station.pending with
  | [] => []
  | content :: rest =>
      if station.pending.length > channelCapacity then []
      else ((station.withPending rest).engine.handleLocalChange blake3 timestampMs content false).emitted

inductive Move where
  | copies (content : ClipboardContent)
  | receives (frame : DataFrame)
  | monitors (timestampMs : UInt64)
  | hears
  | locks
  | sends
  | releases
  | registers (n : NodeId) (outlet : Outlet)
  | unregisters (n : NodeId)
  | drains (n : NodeId)
  | closes (n : NodeId)

inductive Step : Desk → Move → Desk → Prop where
  | copies {d : Desk} (content : ClipboardContent) :
      Step d (.copies content) { d with station := d.station.copy content }
  | receives {d : Desk} (frame : DataFrame) :
      Step d (.receives frame) { d with
        station := d.station.receive blake3 frame
        backlog := d.backlog ++ (d.station.engine.handleIncomingFrame blake3 backend
          frame).emitted.map .handled }
  | monitors {d : Desk} {timestampMs : UInt64} {sent : Option DataFrame} {station : Station}
      (taken : d.station.take blake3 timestampMs = some (sent, station)) :
      Step d (.monitors timestampMs) { d with
        station := station
        backlog := d.backlog ++ emitted blake3 timestampMs d.station }
  | hears {d : Desk} {event : EngineEvent} {rest : List EngineEvent} (waiting : d.broadcaster = .idle)
      (next : d.backlog = event :: rest) (near : d.backlog.length ≤ eventCapacity) :
      Step d .hears { d with backlog := rest, broadcaster := .hearing event }
  | lags {d : Desk} (waiting : d.broadcaster = .idle) (behind : eventCapacity < d.backlog.length) :
      Step d .hears { d with broadcaster := .stopped }
  | locks {d : Desk} {frame : DataFrame} {todo : List NodeId} (waiting : d.broadcaster = .ready frame)
      (order : todo.Perm d.sessions.keys) : Step d .locks { d with broadcaster := .sending frame todo }
  | sends {d : Desk} {frame : DataFrame} {n : NodeId} {todo : List NodeId} {outlet outlet' : Outlet}
      (at_ : d.broadcaster = .sending frame (n :: todo)) (found : d.sessions.lookup n = some outlet)
      (sent : outlet.send frame = some outlet') :
      Step d .sends { d with broadcaster := .sending frame todo, sessions := d.sessions.insert n outlet' }
  | releases {d : Desk} {frame : DataFrame} (done : d.broadcaster = .sending frame []) :
      Step d .releases { d with broadcaster := .idle }
  -- a session's task puts its channel into the map, with what is in it, or takes the entry out
  | registers {d : Desk} (n : NodeId) (outlet : Outlet) (unlocked : d.broadcaster.Unlocked) :
      Step d (.registers n outlet) { d with sessions := d.sessions.insert n outlet }
  | unregisters {d : Desk} (n : NodeId) (unlocked : d.broadcaster.Unlocked) :
      Step d (.unregisters n) { d with sessions := d.sessions.erase n }
  | drains {d : Desk} {n : NodeId} {frame : DataFrame} {rest : List DataFrame}
      (found : d.sessions.lookup n = some ⟨frame :: rest, true⟩) :
      Step d (.drains n) { d with sessions := d.sessions.insert n ⟨rest, true⟩ }
  | closes {d : Desk} {n : NodeId} {outlet : Outlet} (found : d.sessions.lookup n = some outlet) :
      Step d (.closes n) { d with sessions := d.sessions.insert n { outlet with alive := false } }

abbrev Run : Desk → List (Desk × Move) → Desk → Prop := Visits (Step blake3)

/-- Neither loop has terminated. -/
def Alive (d : Desk) : Prop := d.station.monitoring = true ∧ d.broadcaster ≠ .stopped

/-- A loop that receives is no further behind than its channel keeps. -/
def Near (d : Desk) : Move → Prop
  | .monitors _ => d.station.pending.length ≤ channelCapacity
  | .hears => d.backlog.length ≤ eventCapacity
  | _ => True

variable {blake3} {d d' : Desk} {move : Move}

theorem take_monitoring {timestampMs : UInt64} {station station' : Station} {sent : Option DataFrame}
    (taken : station.take blake3 timestampMs = some (sent, station')) :
    station'.monitoring = true ↔ station.pending.length ≤ channelCapacity := by
  cases Station.takes_of_take taken with
  | lagged running behind =>
      refine iff_of_false Bool.false_ne_true ?_
      omega
  | skipped running queue near reason => exact iff_of_true running near
  | sent running queue near allowed unseen => exact iff_of_true running near

/-- One step: the loops go on exactly if the one that receives is near enough. -/
theorem Step.alive_iff (taken : Step blake3 d move d') (alive : d.Alive) : d'.Alive ↔ d.Near move := by
  obtain ⟨monitoring, going⟩ := alive
  cases taken with
  | monitors taken =>
      rw [Alive, Near, ← take_monitoring taken]
      exact and_iff_left going
  | hears waiting next near =>
      refine iff_of_true ⟨monitoring, ?_⟩ near
      intro ended
      dsimp only at ended
      cases ‹EngineEvent› <;> cases ended
  | lags waiting behind =>
      refine iff_of_false (fun still => still.2 rfl) ?_
      rw [Near]
      omega
  | copies content => exact iff_of_true ⟨monitoring, going⟩ trivial
  | receives frame => exact iff_of_true ⟨monitoring, going⟩ trivial
  | locks waiting order => exact iff_of_true ⟨monitoring, nofun⟩ trivial
  | sends at_ found sent => exact iff_of_true ⟨monitoring, nofun⟩ trivial
  | releases done => exact iff_of_true ⟨monitoring, nofun⟩ trivial
  | registers n outlet unlocked => exact iff_of_true ⟨monitoring, going⟩ trivial
  | unregisters n unlocked => exact iff_of_true ⟨monitoring, going⟩ trivial
  | drains found => exact iff_of_true ⟨monitoring, going⟩ trivial
  | closes found => exact iff_of_true ⟨monitoring, going⟩ trivial

theorem start_alive (localNodeId : NodeId) (policy : ClipboardPolicy) (content : Option ClipboardContent) :
    (start localNodeId policy content).Alive := by
  refine ⟨rfl, ?_⟩
  rw [start]
  nofun

/-- In every run of a node that has just started, both loops go on in every state if and
    only if the monitor never receives with more than 64 changes unread, nor the
    broadcaster with more than 128 events. -/
theorem sync_goes_on_iff {localNodeId : NodeId} {policy : ClipboardPolicy}
    {content : Option ClipboardContent} {visits : List (Desk × Move)} {last : Desk}
    (run : Run blake3 (start localNodeId policy content) visits last) :
    ((∀ visit ∈ visits, visit.1.Alive) ∧ last.Alive) ↔ ∀ visit ∈ visits, visit.1.Near visit.2 :=
  run.always_iff (R := fun _ => True) trivial (fun _ _ => trivial) (start_alive localNodeId policy content)
    fun taken _ => taken.alive_iff

section Bursts

variable {first last : Desk} {visits later : List (Desk × Move)}

theorem Step.turn (taken : Step blake3 d move d') :
    d'.broadcaster = d.broadcaster ∨ d.broadcaster.Turn d'.broadcaster := by
  cases taken with
  | @hears event rest waiting next near =>
      right
      rw [waiting]
      cases event with
      | outgoingBroadcastReady _ frame => exact .hears frame
      | _ => exact .passesBy
  | lags waiting behind => exact .inr (waiting ▸ .stops)
  | locks waiting order => exact .inr (waiting ▸ .locks _ _)
  | sends at_ found sent => exact .inr (at_ ▸ .serves ..)
  | releases done => exact .inr (done ▸ .unlocks _)
  | _ => exact .inl rfl

theorem Run.stays_stopped (run : Run blake3 first visits last) (stopped : first.broadcaster = .stopped) :
    last.broadcaster = .stopped := by
  refine run.invariant (P := fun d => d.broadcaster = .stopped) stopped fun taken stopped => ?_
  rcases taken.turn with same | turn
  · exact same.trans stopped
  · exact absurd stopped turn.ne_stopped

theorem Run.stays_unmonitored (run : Run blake3 first visits last) (finished : first.station.monitoring = false) :
    last.station.monitoring = false := by
  refine run.invariant (P := fun d => d.station.monitoring = false) finished fun taken finished => ?_
  cases taken with
  | monitors taken =>
      rw [Station.take, finished] at taken
      cases taken
  | _ => exact finished

/-- The user copies a number of times before the monitor gets to run. -/
theorem exists_copies (blake3 : Bytes → FixedBytes 32) (content : ClipboardContent) (n : Nat) (d : Desk) :
    ∃ visits last, Run blake3 d visits last ∧ last.station.monitoring = d.station.monitoring ∧
      last.station.pending.length = d.station.pending.length + n := by
  induction n with
  | zero => exact ⟨[], d, .start, rfl, rfl⟩
  | succ n ih =>
      obtain ⟨visits, last, run, monitoring, length⟩ := ih
      refine ⟨_, _, run.step (.copies content), monitoring, ?_⟩
      simp [Station.copy, Station.pending, setContent] at length ⊢
      omega

/-- Enough copies, and the monitor's next receive ends it. -/
theorem exists_monitor_ended (blake3 : Bytes → FixedBytes 32) (content : ClipboardContent)
    (monitoring : d.station.monitoring = true) :
    ∃ visits last, Run blake3 d visits last ∧ last.station.monitoring = false := by
  obtain ⟨visits, last, run, still, length⟩ := exists_copies blake3 content 65 d
  have behind : channelCapacity < last.station.pending.length := by
    rw [channelCapacity]
    omega
  have lagged : last.station.take blake3 0 = some (none, { last.station with monitoring := false }) := by
    unfold Station.take
    rw [still, monitoring, if_pos rfl]
    cases pending : last.station.pending with
    | nil => simp [pending] at behind
    | cons change rest =>
        dsimp only
        rw [← pending, if_pos behind]
  exact ⟨_, _, run.step (.monitors lagged), rfl⟩

theorem exists_take {s : Station} {content : ClipboardContent} {rest : List ClipboardContent}
    (blake3 : Bytes → FixedBytes 32) (timestampMs : UInt64) (monitoring : s.monitoring = true)
    (next : s.pending = content :: rest) (near : s.pending.length ≤ channelCapacity) :
    ∃ sent s', s.take blake3 timestampMs = some (sent, s') ∧ s'.monitoring = true ∧ s'.pending = rest := by
  have taken : (s.take blake3 timestampMs).isSome := by
    unfold Station.take
    rw [monitoring, if_pos rfl, next]
    dsimp only
    split <;> rfl
  obtain ⟨⟨sent, s'⟩, taken⟩ := Option.isSome_iff_exists.mp taken
  refine ⟨sent, s', taken, ?_⟩
  cases Station.takes_of_take taken with
  | lagged running behind => omega
  | skipped running queue near reason =>
      rw [next] at queue
      cases queue
      exact ⟨running, rfl⟩
  | sent running queue near allowed unseen =>
      rw [next] at queue
      cases queue
      exact ⟨running, rfl⟩

/-- Every change that is handled is heard of, whatever comes of it. -/
theorem length_emitted {station : Station} {content : ClipboardContent} (blake3 : Bytes → FixedBytes 32)
    (timestampMs : UInt64) (next : station.pending = [content]) :
    1 ≤ (emitted blake3 timestampMs station).length := by
  unfold emitted
  rw [next]
  dsimp only
  rw [List.length_singleton, if_neg (by decide)]
  unfold LocalEngine.handleLocalChange
  split
  · exact Nat.le_refl 1
  · dsimp only
    split
    · exact Nat.le_refl 1
    · exact Nat.le_succ 1

/-- The monitor keeps up with the user, and the broadcaster does not get to run. -/
theorem exists_rounds (blake3 : Bytes → FixedBytes 32) (content : ClipboardContent) (n : Nat) {d : Desk}
    (monitoring : d.station.monitoring = true) (empty : d.station.pending = []) :
    ∃ visits last, Run blake3 d visits last ∧ last.station.monitoring = true ∧
      last.station.pending = [] ∧ last.broadcaster = d.broadcaster ∧
      d.backlog.length + n ≤ last.backlog.length := by
  induction n with
  | zero => exact ⟨[], d, .start, monitoring, empty, rfl, Nat.le_refl _⟩
  | succ n ih =>
      obtain ⟨visits, last, run, still, drained, same, length⟩ := ih
      have next : (last.station.copy content).pending = [content] := by
        simp only [Station.pending, Station.copy, setContent] at drained ⊢
        rw [drained, List.nil_append]
      have near : (last.station.copy content).pending.length ≤ channelCapacity := by
        rw [next, List.length_singleton]
        decide
      have running : (last.station.copy content).monitoring = true := still
      obtain ⟨sent, station', taken, going, rest⟩ := exists_take blake3 0 running next near
      refine ⟨_, _, (run.step (.copies content)).step (.monitors taken), going, rest, same, ?_⟩
      have one := length_emitted blake3 0 next
      simp only [List.length_append]
      omega

theorem exists_broadcaster_ended (blake3 : Bytes → FixedBytes 32) (content : ClipboardContent)
    (alive : d.station.monitoring = true) (empty : d.station.pending = []) (idle : d.broadcaster = .idle) :
    ∃ visits last, Run blake3 d visits last ∧ last.broadcaster = .stopped := by
  obtain ⟨visits, last, run, -, -, same, length⟩ := exists_rounds blake3 content 129 alive empty
  have behind : eventCapacity < last.backlog.length := by
    rw [eventCapacity]
    omega
  exact ⟨_, _, run.step (.lags (same.trans idle) behind), rfl⟩

/-- A burst of copies ends the monitor, and another ends the broadcaster, each for good. -/
theorem burst_ends_sync :
    let first := start ⟨.fill 32 1⟩ .default none
    (∃ visits last, Run (fun _ => .fill 32 0) first visits last ∧
      ∀ later t, Run (fun _ => .fill 32 0) last later t → t.station.monitoring = false) ∧
    ∃ visits last, Run (fun _ => .fill 32 0) first visits last ∧
      ∀ later t, Run (fun _ => .fill 32 0) last later t → t.broadcaster = .stopped := by
  obtain ⟨visits, last, run, finished⟩ := exists_monitor_ended (d := start ⟨.fill 32 1⟩ .default none)
    (fun _ => .fill 32 0) (.text "x") rfl
  obtain ⟨visits', last', run', finished'⟩ := exists_broadcaster_ended
    (d := start ⟨.fill 32 1⟩ .default none) (fun _ => .fill 32 0) (.text "x") rfl rfl rfl
  exact ⟨⟨visits, last, run, fun _ _ rest => Run.stays_unmonitored rest finished⟩,
    ⟨visits', last', run', fun _ _ rest => Run.stays_stopped rest finished'⟩⟩

/-- A single copy that the monitor takes ends nothing. -/
theorem single_copy_ends_nothing :
    ∃ visits last, Run (fun _ => .fill 32 0) (start ⟨.fill 32 1⟩ .default none) visits last ∧
      (∃ d, (d, Move.monitors 0) ∈ visits) ∧ last.Alive := by
  let first := start ⟨.fill 32 1⟩ .default none
  obtain ⟨sent, station, taken, -, -⟩ := exists_take (s := first.station.copy (.text "x"))
    (fun _ => .fill 32 0) 0 rfl rfl (by decide)
  have copied : Step (fun _ => .fill 32 0) first (.copies (.text "x"))
      { first with station := first.station.copy (.text "x") } := .copies _
  have run := (Visits.start.step copied).step (.monitors taken)
  refine ⟨_, _, run, ⟨_, List.mem_append_right _ List.mem_cons_self⟩, ?_⟩
  refine ((sync_goes_on_iff run).mpr ?_).2
  simp only [List.nil_append, List.cons_append, List.forall_mem_cons, List.not_mem_nil, false_imp_iff,
    implies_true, and_true]
  have near : (first.station.copy (.text "x")).pending.length ≤ channelCapacity := by
    decide
  exact ⟨trivial, near⟩

end Bursts

end Desk

end BridgeOS.Node
