import BridgeOS.Node.Hub

/-! # The broadcaster and the sessions

The broadcaster holds the lock of the map while it waits for room in a session's channel,
and only the session's task makes room. If that task waits for the lock itself, neither
goes on.
-/

namespace BridgeOS.Node

open BridgeOS.Session hiding recvFrame
open BridgeOS.Transfer Proc

section Waiting

variable [Crypto] {σ : Type}

def Member.Locks : Member → Prop
  | .active .node _ p => Locking p
  | _ => False

/-- Makes a task wait for the lock. -/
def Urges (event : NodeEvent) : Prop := event = ⟨.session (.setState .trusted), ()⟩ ∨ Goodbye event

namespace Hub

def Full (h : Hub σ) (i : Nat) : Prop := capacity ≤ (h.queue i).length

/-- The broadcaster has the lock and waits for room in the session's channel. -/
def Waits (h : Hub σ) (i : Nat) : Prop :=
  (∃ frame todo, h.broadcaster = .sending frame (i :: todo)) ∧ h.Full i

/-- It waits for a session whose task waits for the lock. -/
def Stuck (h : Hub σ) : Prop := ∃ i, h.Waits i ∧ (h.member i).Locks

/-- No task comes to wait for the lock while the broadcaster waits for room in its
    channel, and the broadcaster does not come to the full channel of a task that waits for the
    lock. -/
def Careful (h : Hub σ) : Move → Prop
  | .event i event => Urges event → ¬ h.Waits i
  | .locks todo => ∀ i rest, todo = i :: rest → h.Full i → ¬ (h.member i).Locks
  | .passes => ∀ frame i j rest, h.broadcaster = .sending frame (i :: j :: rest) →
      h.Full j → ¬ (h.member j).Locks
  | _ => True

variable {machine : Machine σ} {h h' first : Hub σ} {move : Move} {visits : List (Hub σ × Move)} {i j : Nat}

theorem not_waits (unlocked : h.broadcaster.Unlocked) : ¬ h.Waits i := by
  rintro ⟨⟨frame, todo, sending⟩, -⟩
  rw [sending] at unlocked
  exact unlocked

theorem not_stuck_of_unlocked (unlocked : h.broadcaster.Unlocked) : ¬ h.Stuck :=
  fun ⟨_, waits, _⟩ => not_waits unlocked waits

theorem waits_iff {frame : DataFrame} {todo : List Nat} (sending : h.broadcaster = .sending frame todo) :
    h.Waits i ↔ (∃ rest, todo = i :: rest) ∧ h.Full i := by
  rw [Waits, sending]
  refine and_congr_left fun _ => ⟨?_, ?_⟩
  · rintro ⟨_, rest, same⟩
    cases same
    exact ⟨rest, rfl⟩
  · rintro ⟨rest, rfl⟩
    exact ⟨frame, rest, rfl⟩

/-- One session goes on and does not wait for the lock. -/
theorem not_stuck (free : ¬ h.Stuck) (others : ∀ j, j ≠ i → h'.member j = h.member j)
    (waits : ∀ j, h'.Waits j → h.Waits j) (unlocking : ¬ (h'.member i).Locks) : ¬ h'.Stuck := by
  rintro ⟨j, waiting, locks⟩
  have other : j ≠ i := by
    rintro rfl
    exact unlocking locks
  rw [others j other] at locks
  exact free ⟨j, waits j waiting, locks⟩

theorem length_drained_le (event : NodeEvent) (queue : Nat → List DataFrame) :
    (drained i queue event j).length ≤ (queue j).length := by
  obtain ⟨c, answer⟩ := event
  cases c with
  | select =>
      cases answer with
      | inbound received => exact le_rfl
      | outbound frame =>
          show (Function.update queue i (queue i).tail j).length ≤ _
          by_cases same : j = i
          · subst same
            rw [Function.update_self, List.length_tail]
            exact Nat.sub_le ..
          · rw [Function.update_of_ne same]
  | _ => exact le_rfl

theorem drained_of_urges {event : NodeEvent} (urges : Urges event) (queue : Nat → List DataFrame) :
    drained i queue event = queue := by
  rcases urges with rfl | goodbye
  · rfl
  · obtain ⟨c, answer⟩ := event
    cases c with
    | select =>
        cases answer with
        | inbound received => rfl
        | outbound frame => exact goodbye.elim
    | _ => exact goodbye.elim

/-- What one answer does to the wait. -/
theorem stuck_answered_iff {self : ActiveSession} {event : NodeEvent} {p : Task} (free : ¬ h.Stuck)
    (proceeds : Proceeds self event p) (permits : h.Permits i event)
    (others : ∀ j, j ≠ i → h'.member j = h.member j) (there : h'.member i = .active .node self p)
    (queue : h'.queue = drained i h.queue event) (broadcaster : h'.broadcaster = h.broadcaster) :
    ¬ h'.Stuck ↔ h.Careful (.event i event) := by
  have waits : ∀ j, h'.Waits j → h.Waits j := by
    rintro j ⟨sending, full⟩
    rw [broadcaster] at sending
    rw [Full, queue] at full
    exact ⟨sending, full.trans (length_drained_le event h.queue)⟩
  have locks : (h'.member i).Locks ↔ Locking p := by
    rw [there]
    rfl
  have unlocked : h.broadcaster.Unlocked → (¬ h'.Stuck ↔ h.Careful (.event i event)) := by
    intro unlocked
    refine iff_of_true (not_stuck_of_unlocked ?_) fun _ => not_waits unlocked
    rw [broadcaster]
    exact unlocked
  have urged : Urges event → Locking p → (¬ h'.Stuck ↔ h.Careful (.event i event)) := by
    intro urges locking
    constructor
    · rintro free' - waiting
      refine free' ⟨i, ?_, locks.mpr locking⟩
      rw [Waits, Full, broadcaster, queue, drained_of_urges urges]
      exact waiting
    · rintro careful ⟨j, waiting, locks'⟩
      have before := waits j waiting
      by_cases same : j = i
      · subst same
        exact careful urges before
      · rw [others j same] at locks'
        exact free ⟨j, before, locks'⟩
  cases proceeds with
  | registered phase => exact unlocked permits
  | unregistered => exact unlocked permits
  | trusts next => exact urged (.inl rfl) trivial
  | leaves goodbye next => exact urged (.inr goodbye) trivial
  | goes away plain stays unlocking lives =>
      refine iff_of_true (not_stuck free others waits fun locking => unlocking (locks.mp locking)) ?_
      rintro (trusts | goodbye)
      · exact absurd trusts plain
      · exact absurd goodbye stays

theorem not_stuck_assign (free : ¬ h.Stuck) (i : Nat) {member : Member} (unlocking : ¬ member.Locks) :
    ¬ Stuck { h with toSystem := h.assign i member } := by
  refine not_stuck (i := i) free (fun j other => (System.assign_others _ other _).1) (fun _ => id) ?_
  rw [System.assign_member]
  exact unlocking

/-- The broadcaster comes to the first of these sessions. -/
theorem stuck_sending_iff {frame : DataFrame} {todo : List Nat} (sending : h'.broadcaster = .sending frame todo)
    (member : h'.member = h.member) (full : ∀ j rest, todo = j :: rest → (h'.Full j ↔ h.Full j)) :
    ¬ h'.Stuck ↔ ∀ j rest, todo = j :: rest → h.Full j → ¬ (h.member j).Locks := by
  constructor
  · intro free j rest first isFull locks
    refine free ⟨j, (waits_iff sending).mpr ⟨⟨rest, first⟩, (full j rest first).mpr isFull⟩, ?_⟩
    rw [member]
    exact locks
  · rintro careful ⟨j, waiting, locks⟩
    obtain ⟨⟨rest, first⟩, isFull⟩ := (waits_iff sending).mp waiting
    rw [member] at locks
    exact careful j rest first ((full j rest first).mp isFull) locks

theorem careful_passes_iff {frame : DataFrame} {todo : List Nat} (next : h.broadcaster = .sending frame (i :: todo)) :
    h.Careful .passes ↔ ∀ j rest, todo = j :: rest → h.Full j → ¬ (h.member j).Locks := by
  constructor
  · rintro careful j rest rfl
    exact careful frame i j rest next
  · intro careful frame' i' j rest same
    rw [next] at same
    cases same
    exact careful j rest rfl

theorem Step.stuck_iff (taken : Step machine h move h') (sound : h.Sound) (free : ¬ h.Stuck) :
    ¬ h'.Stuck ↔ h.Careful move := by
  cases taken with
  | @connect i p absent opens => exact iff_of_true (not_stuck_assign free i id) trivial
  | @greets i c next answer w here works =>
      refine iff_of_true ?_ trivial
      refine not_stuck free (fun j other => (System.replace_others _ other _ _).1) (fun _ => id) ?_
      rw [System.replace_member]
      exact id
  | @serve i self here => exact iff_of_true (not_stuck_assign free i id) trivial
  | @answers i self c next answer w here works permits =>
      exact stuck_answered_iff free (sound.answered here works).1 permits
        (fun j other => (System.replace_others _ other _ _).1) (System.replace_member ..) rfl rfl
  | @round i self next phase here =>
      cases sound.returns_self here
      exact iff_of_true (not_stuck_assign free i (connectionRound_free self phase).1) trivial
  | @fails i self e here => exact iff_of_true (not_stuck_assign free i id) trivial
  | revoke stored => exact iff_of_true free trivial
  | offered idle clipboard => exact iff_of_true (not_stuck_of_unlocked trivial) trivial
  | locks ready order => exact stuck_sending_iff rfl rfl fun _ _ _ => Iff.rfl
  | @sends frame i todo next serving room =>
      rw [careful_passes_iff next]
      refine stuck_sending_iff rfl rfl fun j rest first => ?_
      -- a session has one entry, so the frame just sent is not in the next channel
      have other : j ≠ i := by
        rintro rfl
        have nodup := sound.todo frame _ next
        rw [first] at nodup
        exact List.not_nodup_cons_of_mem List.mem_cons_self nodup
      show capacity ≤ (Function.update h.queue i (h.queue i ++ [frame]) j).length ↔ h.Full j
      rw [Function.update_of_ne other]
      rfl
  | skips next closed =>
      rw [careful_passes_iff next]
      exact stuck_sending_iff rfl rfl fun _ _ _ => Iff.rfl
  | unlocks done => exact iff_of_true (not_stuck_of_unlocked trivial) trivial
  | stops idle => exact iff_of_true (not_stuck_of_unlocked trivial) trivial

/-- In every run: the broadcaster and a session never wait for each other, as long as no
    task comes to wait for the lock at the wrong moment. -/
theorem never_stuck_iff (fresh : first.Fresh) (run : Run machine first visits h) :
    ((∀ visit ∈ visits, ¬ visit.1.Stuck) ∧ ¬ h.Stuck) ↔ ∀ visit ∈ visits, visit.1.Careful visit.2 := by
  have start : ¬ first.Stuck := by
    apply not_stuck_of_unlocked
    rw [fresh.idle]
    trivial
  exact run.always_iff fresh.sound Step.sound start Step.stuck_iff

section Filling

variable (machine) {frame : DataFrame} (clipboard : frame.channel = DataFrame.channelClipboard)
  (idle : h.broadcaster = .idle) (only : h.registry.entries.map Sigma.snd = [i])
include clipboard idle only

/-- The broadcaster takes the lock, with one session in the map. -/
theorem run_locks : ∃ visits, Run machine h visits { h with broadcaster := .sending frame [i] } := by
  have offered : Step machine h .silent { h with broadcaster := .ready frame } := .offered idle clipboard
  have locks : Step machine { h with broadcaster := .ready frame } (.locks [i])
      { h with broadcaster := .sending frame [i] } := by
    refine Step.locks (h := { h with broadcaster := .ready frame }) rfl ?_
    rw [only]
  exact ⟨_, (Visits.start.step offered).step locks⟩

theorem run_broadcast (serving : (h.member i).Serving) (room : (h.queue i).length < capacity) :
    ∃ visits, Run machine h visits
      { h with queue := Function.update h.queue i (h.queue i ++ [frame]), broadcaster := .idle } := by
  obtain ⟨visits, locked⟩ := run_locks machine clipboard idle only
  have sends : Step machine { h with broadcaster := .sending frame [i] } .passes { h with
      queue := Function.update h.queue i (h.queue i ++ [frame])
      broadcaster := .sending frame [] } :=
    Step.sends (h := { h with broadcaster := .sending frame [i] }) rfl serving room
  exact ⟨_, (locked.step sends).step (.unlocks rfl)⟩

/-- Frames are sent to the session, which takes none of them. -/
theorem exists_filled (count : Nat) (serving : (h.member i).Serving)
    (room : (h.queue i).length + count ≤ capacity) :
    ∃ visits queue, Run machine h visits { h with queue, broadcaster := .idle } ∧
      (queue i).length = (h.queue i).length + count := by
  induction count generalizing h with
  | zero =>
      refine ⟨[], h.queue, ?_, rfl⟩
      rw [← idle]
      exact .start
  | succ count ih =>
      obtain ⟨visits, sent⟩ := run_broadcast machine clipboard idle only serving (by omega)
      let next : Hub σ :=
        { h with queue := Function.update h.queue i (h.queue i ++ [frame]), broadcaster := .idle }
      have longer : (next.queue i).length = (h.queue i).length + 1 := by
        show (Function.update h.queue i (h.queue i ++ [frame]) i).length = _
        rw [Function.update_self, List.length_append, List.length_singleton]
      obtain ⟨later, queue, run, length⟩ := ih (h := next) rfl only serving (by omega)
      exact ⟨_, queue, sent.trans run, by omega⟩

/-- The broadcaster waits for room in the channel, and then the peer hangs up. -/
theorem exists_stuck {self : ActiveSession} (selecting : Selecting h.toSystem i self) (empty : h.queue i = []) :
    ∃ visits h', Run machine h visits h' ∧ h'.Stuck := by
  have serving : (h.member i).Serving := by
    rw [show h.member i = _ from selecting]
    exact (connectionRound_free self .select).2
  have nothing : (h.queue i).length = 0 := List.length_eq_zero_iff.mpr empty
  obtain ⟨visits, queue, filled, length⟩ :=
    exists_filled machine clipboard idle only capacity serving (by omega)
  obtain ⟨later, locked⟩ := run_locks machine (h := { h with queue, broadcaster := .idle }) clipboard rfl only
  have hears := Step.hears machine (h := { h with queue, broadcaster := .sending frame [i] }) selecting (.ok none)
  refine ⟨_, _, (filled.trans locked).step hears, i, ⟨⟨frame, [], rfl⟩, ?_⟩, ?_⟩
  · show capacity ≤ (queue i).length
    omega
  · rw [System.replace_member]
    trivial

end Filling

end Hub

end Waiting

section Example

attribute [local instance] transparentCrypto

/-- The peer connects, and a frame is sent to it that it has not taken yet. -/
theorem broadcast_not_stuck : ∃ visits h, Hub.Run exampleMachine exampleHub visits h ∧
    h.registry.lookup examplePeer.nodeId = some 0 ∧ h.queue 0 = [⟨DataFrame.channelClipboard, [1]⟩] ∧ ¬ h.Stuck := by
  obtain ⟨visits, s, self, run, selecting, -, -, conduct⟩ := exampleHub_registered
  have careful : ∀ visit ∈ visits, visit.1.Careful visit.2 := by
    rintro ⟨h, move⟩ member
    rcases conduct _ member with silent | ⟨idle, moves⟩
    · cases silent
      trivial
    · have unlocked : h.broadcaster.Unlocked := by
        rw [show h.broadcaster = .idle from idle]
        trivial
      rcases moves with trusts | registers
      · cases trusts
        exact fun _ => Hub.not_waits unlocked
      · cases registers
        exact fun _ => Hub.not_waits unlocked
  have serving : (s.member 0).Serving := by
    rw [selecting]
    exact (connectionRound_free self .select).2
  let frame : DataFrame := ⟨DataFrame.channelClipboard, [1]⟩
  let idle : Hub (Option Clipboard.ClipboardContent) :=
    { exampleHub with toSystem := s, registry := exampleHub.registry.insert examplePeer.nodeId 0 }
  let ready := { idle with broadcaster := .ready frame }
  let locked := { idle with broadcaster := .sending frame [0] }
  have offers : Hub.Step exampleMachine idle .silent ready := .offered rfl rfl
  have locks : Hub.Step exampleMachine ready (.locks [0]) locked := .locks rfl (.refl _)
  have sends : Hub.Step exampleMachine locked .passes _ := .sends rfl serving (show 0 < capacity by decide)
  have sending := ((run.step offers).step locks).step sends
  refine ⟨_, _, sending, AList.lookup_insert _, rfl, ((Hub.never_stuck_iff exampleHub_fresh sending).mpr ?_).2⟩
  simp only [List.forall_mem_append, List.forall_mem_singleton]
  refine ⟨⟨⟨careful, trivial⟩, fun i rest _ full => ?_⟩, fun frame i j rest several => ?_⟩
  · exact absurd full (show ¬ capacity ≤ 0 by decide)
  · cases several

/-- Thirty-three frames for a session that takes none, and its peer hangs up. -/
theorem broadcaster_and_session_stuck : ∃ visits h, Hub.Run exampleMachine exampleHub visits h ∧ h.Stuck := by
  obtain ⟨visits, s, self, run, selecting, -, -, -⟩ := exampleHub_registered
  have clipboard : (Clipboard.ClipboardMessage.sync (.new exampleMachine.blake3 0
      exampleMachine.localIdentity.nodeId 1 (.text "x") false)).toDataFrame.channel =
        DataFrame.channelClipboard := rfl
  obtain ⟨later, h, rest, stuck⟩ := Hub.exists_stuck exampleMachine clipboard
    (h := { exampleHub with toSystem := s, registry := exampleHub.registry.insert examplePeer.nodeId 0 })
    rfl rfl selecting rfl
  exact ⟨_, h, run.trans rest, stuck⟩

end Example

end BridgeOS.Node
