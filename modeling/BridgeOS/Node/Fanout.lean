import BridgeOS.Node.Broadcast

/-! # What becomes of a broadcast

Every session has a channel of its own. The broadcaster puts a frame into the channels of the
sessions that it finds in the map when it takes the lock, and the task of a session takes the
frames out and sends them. Nothing is lost, doubled or overtaken on the way, as long as the
task goes on.
-/

namespace BridgeOS.Node

open BridgeOS.Session hiding recvFrame
open BridgeOS.Transfer Proc

section Channels

variable [Crypto] {σ : Type}

/-- The task has returned, so that its end of the channel is closed. -/
def Member.Closed : Member → Prop
  | .active .node _ p => p = .ok (.inr ())
  | .gone => True
  | _ => False

theorem Member.closed_of_filed {member : Member} {n : NodeId} (filed : member.Filed n) (idle : ¬ member.Serving) :
    member.Closed := by
  cases member with
  | absent => exact filed.elim
  | greeting role p => exact filed.elim
  | gone => trivial
  | active role self p =>
      cases role with
      | node => exact not_not.mp idle
      | owner => exact filed.elim

theorem Member.not_closed_of_serving {member : Member} (serving : member.Serving) : ¬ member.Closed := by
  cases member with
  | active role self p =>
      cases role with
      | node => exact serving
      | owner => exact serving.elim
  | _ => exact serving.elim

section Courier

/-- The frame that comes out of the channel. -/
def fetched : NodeEvent → Option DataFrame
  | ⟨.select, .outbound frame⟩ => some frame
  | _ => none

/-- The clipboard frame that goes to the peer. -/
def outgoing : NodeEvent → Option DataFrame
  | ⟨.session (.send (.data df)), _⟩ => if df.channel = DataFrame.channelClipboard then some df else none
  | _ => none

/-- A clipboard frame that is sent is the one in hand, and is in hand no longer. -/
def courier : Discipline NodeCall NodeCall.Answer (Option DataFrame) where
  allows
    | inHand, .session (.send (.data df)) => df.channel = DataFrame.channelClipboard → inHand = some df
    | _, _ => True
  turn
    | _, ⟨.select, .outbound frame⟩ => some frame
    | _, ⟨.session (.send _), _⟩ => none
    | inHand, _ => inHand

def Couriers (inHand : Option DataFrame) {α : Type} (p : NodeProc α) : Prop :=
  p.Observes courier (fun _ _ => True) (fun _ => True) inHand

/-- Sends no clipboard frame. -/
def NodeCall.Quiet : NodeCall → Prop
  | .session c => c.Quiet
  | _ => True

variable {self : ActiveSession} {inHand : Option DataFrame}

theorem allows_of_quiet {c : NodeCall} (quiet : c.Quiet) (inHand : Option DataFrame) : courier.allows inHand c := by
  cases c with
  | session c =>
      cases c with
      | send frame =>
          cases frame with
          | data df => exact fun clipboard => absurd clipboard quiet
          | _ => trivial
      | _ => trivial
  | _ => trivial

theorem couriers_of_quiet {α : Type} {p : NodeProc α} (quiet : p.AllCalls NodeCall.Quiet)
    (inHand : Option DataFrame) : Couriers inHand p := by
  have observes : p.Observes courier (fun _ _ => True ∧ True) (fun _ => True) inHand :=
    observes_of_within quiet.within trivial (fun inHand _ _ quiet => allows_of_quiet quiet inHand)
      fun _ _ _ _ => trivial
  exact observes.mono (fun _ _ _ => trivial) fun _ => id

/-- What is sent, with what is in hand, has come out of the channel, in this order. -/
theorem sublist_of_allows {event : NodeEvent} (allowed : courier.allows inHand event.call) {out took : List DataFrame}
    (kept : (out ++ inHand.toList).Sublist took) :
    (out ++ (outgoing event).toList ++ (courier.turn inHand event).toList).Sublist
      (took ++ (fetched event).toList) := by
  have forgets : out.Sublist took := (List.sublist_append_left ..).trans kept
  obtain ⟨c, answer⟩ := event
  cases c with
  | select =>
      cases answer with
      | inbound received => simpa [outgoing, fetched, courier] using kept
      | outbound frame => simpa [outgoing, fetched, courier] using forgets.append (List.Sublist.refl [frame])
  | session c =>
      cases c with
      | send frame =>
          cases frame with
          | data df =>
              by_cases clipboard : df.channel = DataFrame.channelClipboard
              · cases allowed clipboard
                simpa [outgoing, fetched, courier, clipboard] using kept
              · simpa [outgoing, fetched, courier, clipboard] using forgets
          | _ => simpa [outgoing, fetched, courier] using forgets
      | _ => simpa [outgoing, fetched, courier] using kept
  | _ => simpa [outgoing, fetched, courier] using kept

theorem NodeCall.Transfers.quiet (c : NodeCall) (transfers : c.Transfers) : c.Quiet := by
  have routine : c.Routine False := transfers.routine
  cases c with
  | session c => exact (routine.innocent id).2
  | _ => trivial

theorem NodeCall.Serves.quiet {trusted : Prop} (c : NodeCall) (serves : c.Serves trusted) : c.Quiet := by
  cases c with
  | session c =>
      cases c with
      | send frame =>
          cases frame with
          | data df =>
              intro clipboard
              have same : DataFrame.channelFileTransfer = DataFrame.channelClipboard :=
                serves.2.symm.trans clipboard
              exact absurd same (by decide)
          | _ => trivial
      | _ => trivial
  | _ => trivial

theorem handleInbound_quiet (frame : Frame) : (handleInbound self frame).AllCalls NodeCall.Quiet := by
  have pairing : (executePairing self false).Within (fun _ => True) Call.Quiet fun _ => True :=
    executePairing_within false Call.Pairs.quiet fun _ _ => ⟨trivial, fun _ => ⟨trivial, fun _ => trivial⟩⟩
  exact (handleInbound_within (fun _ => True) NodeCall.Quiet pairing NodeCall.Serves.quiet frame).allCalls

theorem handleOutbound_couriers (frame : DataFrame) : Couriers (some frame) (handleOutbound frame) := by
  refine ⟨trivial, fun state => ?_⟩
  show Couriers (some frame) (if _ then _ else _)
  split
  · exact ⟨fun _ => rfl, fun _ => trivial⟩
  · trivial

theorem handleSelected_couriers (selected : Selected) :
    Couriers (courier.turn inHand ⟨.select, selected⟩) (handleSelected self selected) := by
  cases selected with
  | outbound frame => exact handleOutbound_couriers frame
  | inbound received =>
      apply couriers_of_quiet
      refine allCalls_bind (allCalls_orFail _ received) fun frame => ?_
      cases frame with
      | none => trivial
      | some frame => exact handleInbound_quiet frame

theorem afterRound_quiet (next : Option Phase) : (afterRound self next).AllCalls NodeCall.Quiet := by
  cases next with
  | some phase => trivial
  | none => exact ⟨trivial, fun _ => trivial⟩

theorem connectionRound_couriers (phase : Phase) : Couriers inHand (connectionRound (self, phase)) := by
  cases phase with
  | select =>
      rw [connectionRound_select]
      refine ⟨trivial, fun selected => observes_bind ?_⟩
      exact (handleSelected_couriers selected).mono (fun _ _ _ => couriers_of_quiet (afterRound_quiet _) _) fun _ => id
  | chunks manifest receiver =>
      apply couriers_of_quiet
      exact allCalls_bind ((transferRound_transfers manifest receiver).allCalls.mono NodeCall.Transfers.quiet)
        fun _ => afterRound_quiet _

/-- The task of a session that is in its loop sends what it has in hand. -/
def Member.Couriers (inHand : Option DataFrame) : Member → Prop
  | .active .node _ p => Node.Couriers inHand p
  | _ => True

theorem enterLoop_couriers : Couriers inHand (enterLoop self) := by
  apply couriers_of_quiet
  refine allCalls_bind (allCalls_request trivial) fun _ => ?_
  split
  · exact ⟨trivial, fun _ => trivial⟩
  · trivial

end Courier

namespace Hub

/-- The frame of a broadcast that finds the session in the map. -/
def addressed (i : Nat) : Hub σ × Move → Option DataFrame
  | (h, .locks _) =>
      match h.broadcaster with
      | .ready frame => if i ∈ h.registry.entries.map Sigma.snd then some frame else none
      | _ => none
  | _ => none

/-- What the task of the session has to do with at a move. -/
def atTask (read : NodeEvent → Option DataFrame) (i : Nat) : Hub σ × Move → Option DataFrame
  | (_, .event j event) => if j = i then read event else none
  | _ => none

def taken : Nat → Hub σ × Move → Option DataFrame := atTask fetched

def sent : Nat → Hub σ × Move → Option DataFrame := atTask outgoing

/-- The frame that the broadcaster has still to put into the channel of the session. -/
def pending (h : Hub σ) (i : Nat) : List DataFrame :=
  match h.broadcaster with
  | .sending frame todo => if i ∈ todo then [frame] else []
  | _ => []

/-- What a move does to a channel and to what is to come. -/
inductive Passing (closed : Prop) :
    List DataFrame → List DataFrame → Option DataFrame → Option DataFrame → List DataFrame → List DataFrame → Prop where
  | rests {queue coming} : Passing closed queue coming none none queue coming
  | takes {frame queue coming} : Passing closed (frame :: queue) coming (some frame) none queue coming
  | addresses {frame queue} : Passing closed queue [] none (some frame) queue [frame]
  | puts {frame queue} (opened : ¬ closed) : Passing closed queue [frame] none none (queue ++ [frame]) []
  | skips {frame queue} (shut : closed) : Passing closed queue [frame] none none queue []

variable {machine : Machine σ} {h h' first : Hub σ} {move : Move} {visits : List (Hub σ × Move)} {i : Nat}

/-- Whom the broadcaster goes to has been in the map. -/
def Heeds (h : Hub σ) : Prop :=
  ∀ frame todo, h.broadcaster = .sending frame todo → ∀ i ∈ todo, ∃ n, (h.member i).Filed n

theorem pending_of_unlocked (unlocked : h.broadcaster.Unlocked) (i : Nat) : h.pending i = [] := by
  unfold pending
  cases stage : h.broadcaster with
  | sending frame todo =>
      rw [stage] at unlocked
      exact unlocked.elim
  | _ => rfl

theorem pending_of_sending {frame : DataFrame} {todo : List Nat} (sending : h.broadcaster = .sending frame todo)
    (i : Nat) : h.pending i = if i ∈ todo then [frame] else [] := by
  simp only [pending, sending]

theorem drained_of_ne {j : Nat} (other : i ≠ j) (queue : Nat → List DataFrame) (event : NodeEvent) :
    drained j queue event i = queue i := by
  obtain ⟨c, answer⟩ := event
  cases c with
  | select =>
      cases answer with
      | inbound received => rfl
      | outbound frame => exact Function.update_of_ne other ..
  | _ => rfl

/-- A task that is answered takes a frame out of its channel, or leaves it alone. -/
theorem passing_answered {closed : Prop} {j : Nat} {event : NodeEvent} (permits : h.Permits j event) (i : Nat)
    (coming : List DataFrame) :
    Passing closed (h.queue i) coming (taken i (h, .event j event)) none (drained j h.queue event i) coming := by
  obtain ⟨c, answer⟩ := event
  by_cases same : j = i
  · subst same
    simp only [taken, atTask, if_true]
    cases c with
    | select =>
        cases answer with
        | inbound received => exact .rests
        | outbound frame =>
            obtain ⟨rest, split⟩ := List.head?_eq_some_iff.mp permits
            simp only [fetched, drained, Function.update_self, split, List.tail_cons]
            exact .takes
    | _ => exact .rests
  · rw [drained_of_ne (Ne.symm same)]
    simp only [taken, atTask, if_neg same]
    exact .rests

theorem Step.passing (step : Step machine h move h') (sound : h.Sound) (heeds : h.Heeds) (i : Nat) :
    Passing (h.member i).Closed (h.queue i) (h.pending i) (taken i (h, move)) (addressed i (h, move))
      (h'.queue i) (h'.pending i) := by
  cases step with
  | connect | greets | serve | round | fails | revoke => exact .rests
  | answers here works permits => exact passing_answered permits i _
  | offered free | stops free =>
      rw [pending_of_unlocked (by rw [free]; trivial)]
      exact .rests
  | unlocks done =>
      rw [pending_of_sending done, if_neg List.not_mem_nil]
      exact .rests
  | @locks frame todo ready order =>
      rw [pending_of_unlocked (by rw [ready]; trivial), pending_of_sending rfl]
      simp only [addressed, ready, ← order.mem_iff]
      by_cases inside : i ∈ todo
      · simp only [if_pos inside]
        exact .addresses
      · simp only [if_neg inside]
        exact .rests
  | @sends frame j todo next serving room =>
      rw [pending_of_sending next, pending_of_sending rfl]
      by_cases same : i = j
      · subst same
        rw [if_pos List.mem_cons_self, if_neg (List.nodup_cons.mp (sound.todo _ _ next)).1]
        simp only [Function.update_self]
        exact .puts (Member.not_closed_of_serving serving)
      · simp only [Function.update_of_ne same, List.mem_cons, same, false_or]
        exact .rests
  | @skips frame j todo next closed =>
      rw [pending_of_sending next, pending_of_sending rfl]
      by_cases same : i = j
      · subst same
        obtain ⟨n, filed⟩ := heeds _ _ next i List.mem_cons_self
        rw [if_pos List.mem_cons_self, if_neg (List.nodup_cons.mp (sound.todo _ _ next)).1]
        exact .skips (Member.closed_of_filed filed closed)
      · simp only [List.mem_cons, same, false_or]
        exact .rests

/-- What is true of the member that goes on and of all others. -/
theorem members_of {P : Member → Member → Prop} (same : ∀ member, P member member) {s t : System σ} {j : Nat}
    (others : ∀ i, i ≠ j → t.member i = s.member i) (own : P (s.member j) (t.member j)) (i : Nat) :
    P (s.member i) (t.member i) := by
  by_cases here : i = j
  · subst here
    exact own
  · rw [others i here]
    exact same _

/-- A session keeps its peer, and a task that has returned does not come back. -/
def Lasts (before after : Member) : Prop :=
  (∀ n, before.Filed n → after.Filed n) ∧ (before.Closed → after.Closed)

theorem Step.lasts (step : Step machine h move h') (i : Nat) : Lasts (h.member i) (h'.member i) := by
  have same : ∀ member, Lasts member member := fun member => ⟨fun _ => id, id⟩
  cases step with
  | @connect j p free opens =>
      refine members_of same (fun i other => (System.assign_others _ other _).1) ?_ i
      rw [free]
      exact ⟨fun _ => False.elim, False.elim⟩
  | @greets j c next answer w here works =>
      refine members_of same (fun i other => (System.replace_others _ other _ _).1) ?_ i
      rw [here]
      exact ⟨fun _ => False.elim, False.elim⟩
  | @serve j self here =>
      refine members_of same (fun i other => (System.assign_others _ other _).1) ?_ i
      rw [here]
      exact ⟨fun _ => False.elim, False.elim⟩
  | @answers j self c next answer w here works permits =>
      refine members_of same (fun i other => (System.replace_others _ other _ _).1) ?_ i
      rw [here, System.replace_member]
      exact ⟨fun _ => id, fun closed => by cases closed⟩
  | @round j self next phase here =>
      refine members_of same (fun i other => (System.assign_others _ other _).1) ?_ i
      rw [here, System.assign_member]
      exact ⟨fun _ => id, fun closed => by cases closed⟩
  | @fails j self e here =>
      refine members_of same (fun i other => (System.assign_others _ other _).1) ?_ i
      rw [here, System.assign_member]
      exact ⟨fun _ _ => trivial, fun _ => trivial⟩
  | _ => exact same _

theorem Step.heeds (step : Step machine h move h') (sound : h.Sound) (heeds : h.Heeds) : h'.Heeds := by
  have kept : ∀ i, (∃ n, (h.member i).Filed n) → ∃ n, (h'.member i).Filed n := by
    rintro i ⟨n, filed⟩
    exact ⟨n, (step.lasts i).1 n filed⟩
  intro frame todo sending i inside
  refine kept i ?_
  cases step with
  | connect | greets | serve | answers | round | fails | revoke => exact heeds frame todo sending i inside
  | offered | unlocks | stops => cases sending
  | locks ready order =>
      cases sending
      obtain ⟨⟨n, _⟩, listed, rfl⟩ := List.mem_map.mp (order.mem_iff.mp inside)
      exact ⟨n, sound.filed n _ (AList.mem_lookup_iff.mpr listed)⟩
  | sends next | skips next =>
      cases sending
      exact heeds _ _ next i (List.mem_cons_of_mem _ inside)

/-- What has come out of a channel, is in it and will be put into it, against the broadcasts that
    found the session in the map. -/
structure Delivers (closed : Prop) (out queue coming due : List DataFrame) : Prop where
  begins : out ++ queue <+: due
  whole : ¬ closed → out ++ queue ++ coming = due

omit [Crypto] in
theorem Passing.delivers {closed closed' : Prop} {out queue coming due queue' coming' : List DataFrame}
    {took due' : Option DataFrame} (passing : Passing closed queue coming took due' queue' coming')
    (lasts : closed → closed') (delivers : Delivers closed out queue coming due) :
    Delivers closed' (out ++ took.toList) queue' coming' (due ++ due'.toList) := by
  obtain ⟨begins, whole⟩ := delivers
  have opened : ¬ closed' → ¬ closed := fun opened shut => opened (lasts shut)
  cases passing with
  | rests | takes =>
      refine ⟨by simpa using begins, fun still => ?_⟩
      simpa using whole (opened still)
  | @addresses frame queue =>
      refine ⟨?_, fun still => ?_⟩
      · simpa using begins.trans (List.prefix_append due [frame])
      · simpa using congrArg (· ++ [frame]) (whole (opened still))
  | puts wasOpen =>
      have filled := whole wasOpen
      refine ⟨?_, fun _ => ?_⟩
      · simp [← filled]
      · simp [← filled]
  | skips shut =>
      refine ⟨by simpa using begins, fun still => absurd shut (opened still)⟩

/-- A move is one of the session's task, which sends what it has in hand, or leaves it be. -/
theorem Step.carries {inHand : Option DataFrame} (step : Step machine h move h')
    (couriers : (h.member i).Couriers inHand) :
    (∃ event, move = .event i event ∧ courier.allows inHand event.call ∧
        (h'.member i).Couriers (courier.turn inHand event)) ∨
      (∀ event, move ≠ .event i event) ∧ (h'.member i).Couriers inHand := by
  have silent : ∀ {t : System σ} {j : Nat}, (∀ i, i ≠ j → t.member i = h.member i) →
      ((h.member j).Couriers inHand → (t.member j).Couriers inHand) → (t.member i).Couriers inHand :=
    fun others own =>
      members_of (P := fun before after => before.Couriers inHand → after.Couriers inHand) (fun _ => id) others own i
        couriers
  have quiet : ∀ event, (Move.silent : Move) ≠ .event i event := by
    rintro _ ⟨⟩
  cases step with
  | @connect j p free opens =>
      refine .inr ⟨quiet, silent (fun i other => (System.assign_others _ other _).1) fun _ => ?_⟩
      rw [System.assign_member]
      trivial
  | @greets j c next answer w here works =>
      refine .inr ⟨quiet, silent (fun i other => (System.replace_others _ other _ _).1) fun _ => ?_⟩
      rw [System.replace_member]
      trivial
  | @serve j self here =>
      refine .inr ⟨quiet, silent (fun i other => (System.assign_others _ other _).1) fun _ => ?_⟩
      rw [System.assign_member]
      exact enterLoop_couriers
  | @answers j self c next answer w here works permits =>
      by_cases own : j = i
      · subst own
        rw [here] at couriers
        refine .inl ⟨_, rfl, couriers.1, ?_⟩
        rw [System.replace_member]
        exact couriers.2 answer
      · refine .inr ⟨?_, ?_⟩
        · rintro event ⟨⟩
          exact own rfl
        · rw [(System.replace_others _ (Ne.symm own) _ _).1]
          exact couriers
  | @round j self next phase here =>
      refine .inr ⟨quiet, silent (fun i other => (System.assign_others _ other _).1) fun _ => ?_⟩
      rw [System.assign_member]
      exact connectionRound_couriers phase
  | @fails j self e here =>
      refine .inr ⟨?_, silent (fun i other => (System.assign_others _ other _).1) fun _ => ?_⟩
      · rintro _ ⟨⟩
      · rw [System.assign_member]
        trivial
  | revoke | offered | unlocks | stops => exact .inr ⟨quiet, couriers⟩
  | locks | sends | skips =>
      refine .inr ⟨?_, couriers⟩
      rintro _ ⟨⟩

theorem atTask_own (read : NodeEvent → Option DataFrame) (i : Nat) (h : Hub σ) (event : NodeEvent) :
    atTask read i (h, .event i event) = read event := if_pos rfl

theorem atTask_other (read : NodeEvent → Option DataFrame) (h : Hub σ) (other : ∀ event, move ≠ .event i event) :
    atTask read i (h, move) = none := by
  cases move with
  | event j event =>
      refine if_neg ?_
      rintro rfl
      exact other event rfl
  | _ => rfl

/-- How the broadcasts have come on with a session, after a run. -/
structure Fanned (visits : List (Hub σ × Move)) (h : Hub σ) (i : Nat) : Prop where
  delivers : Delivers (h.member i).Closed (visits.filterMap (taken i)) (h.queue i) (h.pending i)
    (visits.filterMap (addressed i))
  carries : ∃ inHand, (h.member i).Couriers inHand ∧
    (visits.filterMap (sent i) ++ inHand.toList).Sublist (visits.filterMap (taken i))
  room : (h.queue i).length ≤ capacity

theorem filterMap_visit (read : Hub σ × Move → Option DataFrame) (visits : List (Hub σ × Move)) (visit : Hub σ × Move) :
    (visits ++ [visit]).filterMap read = visits.filterMap read ++ (read visit).toList := by
  rw [List.filterMap_append]
  cases seen : read visit <;> simp [seen]

theorem Step.room (step : Step machine h move h') (room : (h.queue i).length ≤ capacity) :
    (h'.queue i).length ≤ capacity := by
  cases step with
  | answers here works permits => exact (length_drained_le _ _).trans room
  | @sends frame j todo next serving room' =>
      by_cases same : i = j
      · subst same
        simpa [Nat.succ_le_iff] using room'
      · simpa [Function.update_of_ne same] using room
  | _ => exact room

theorem Step.fanned (step : Step machine h move h') (sound : h.Sound) (heeds : h.Heeds) (fanned : Fanned visits h i) :
    Fanned (visits ++ [(h, move)]) h' i := by
  obtain ⟨delivers, ⟨inHand, couriers, kept⟩, room⟩ := fanned
  refine ⟨?_, ?_, step.room room⟩
  · simp only [filterMap_visit]
    exact (step.passing sound heeds i).delivers (step.lasts i).2 delivers
  · simp only [filterMap_visit]
    rcases step.carries couriers with ⟨event, rfl, allowed, still⟩ | ⟨other, still⟩
    · refine ⟨_, still, ?_⟩
      rw [sent, taken, atTask_own, atTask_own]
      exact sublist_of_allows allowed kept
    · refine ⟨inHand, still, ?_⟩
      simpa [sent, taken, atTask_other _ h other] using kept

theorem Run.fanned (run : Run machine first visits h) (fresh : first.Fresh) (empty : ∀ i, first.queue i = [])
    (i : Nat) :
    h.Heeds ∧ Fanned visits h i := by
  induction run with
  | start =>
      refine ⟨?_, ⟨?_, ?_⟩, ⟨none, ?_, ?_⟩, ?_⟩
      · intro frame todo sending
        rw [fresh.idle] at sending
        cases sending
      · simp [empty]
      · intro _
        have unlocked : first.broadcaster.Unlocked := by
          rw [fresh.idle]
          trivial
        simp [empty, pending_of_unlocked unlocked]
      · rw [fresh.system.absent]
        trivial
      · simp
      · simp [empty]
  | step run taken ih =>
      obtain ⟨heeds, fanned⟩ := ih
      have sound := Hub.Run.sound run fresh
      exact ⟨taken.heeds sound heeds, taken.fanned sound heeds fanned⟩

/-- Over every run of the node, what a session has taken out of its channel and what waits there
    are, in this order, the first of the frames whose broadcast found the session in the map.
    While its task goes on they are all of them but the one that the broadcaster has still to put
    there. What it has sent to its peer on the clipboard channel are some of the frames that it has taken,
    none twice and in the same order. -/
theorem broadcasts_delivered (run : Run machine first visits h) (fresh : first.Fresh)
    (empty : ∀ i, first.queue i = []) (i : Nat) :
    (visits.filterMap (sent i)).Sublist (visits.filterMap (taken i)) ∧
      visits.filterMap (taken i) ++ h.queue i <+: visits.filterMap (addressed i) ∧
      (h.queue i).length ≤ capacity ∧
      ((h.member i).Serving →
        visits.filterMap (taken i) ++ h.queue i ++ h.pending i = visits.filterMap (addressed i)) := by
  obtain ⟨-, delivers, ⟨inHand, -, kept⟩, room⟩ := run.fanned fresh empty i
  refine ⟨(List.sublist_append_left ..).trans kept, delivers.begins, room, fun serving => ?_⟩
  exact delivers.whole (Member.not_closed_of_serving serving)

end Hub

end Channels

section Example

attribute [local instance] transparentCrypto

/-- The peer has connected, and a frame is broadcast. -/
theorem peer_is_delivered : ∃ visits h, Hub.Run exampleMachine exampleHub visits h ∧ (h.member 0).Serving ∧
    visits.filterMap (Hub.addressed 0) = [⟨DataFrame.channelClipboard, [1]⟩] ∧
    visits.filterMap (Hub.taken 0) ++ h.queue 0 ++ h.pending 0 = [⟨DataFrame.channelClipboard, [1]⟩] := by
  obtain ⟨visits, s, self, run, selecting, -, -, quiet⟩ := exampleHub_registered
  have serving : (s.member 0).Serving := by
    rw [selecting]
    intro same
    cases same
  have before : visits.filterMap (Hub.addressed 0) = [] := by
    refine List.filterMap_eq_nil_iff.mpr fun ⟨h, move⟩ member => ?_
    rcases quiet (h, move) member with silent | ⟨-, event | event⟩
    · cases silent
      rfl
    · cases event
      rfl
    · cases event
      rfl
  let frame : DataFrame := ⟨DataFrame.channelClipboard, [1]⟩
  let idle : Hub (Option Clipboard.ClipboardContent) :=
    { exampleHub with toSystem := s, registry := exampleHub.registry.insert examplePeer.nodeId 0 }
  let ready := { idle with broadcaster := .ready frame }
  let locked := { idle with broadcaster := .sending frame [0] }
  have offers : Hub.Step exampleMachine idle .silent ready := .offered rfl rfl
  have locks : Hub.Step exampleMachine ready (.locks [0]) locked := .locks rfl (.refl _)
  have sends : Hub.Step exampleMachine locked .passes _ := .sends rfl serving (show 0 < capacity by decide)
  have sending := ((run.step offers).step locks).step sends
  have addressed : (visits ++ [(idle, Move.silent)] ++ [(ready, Move.locks [0])] ++ [(locked, Move.passes)]).filterMap
      (Hub.addressed 0) = [frame] := by
    rw [Hub.filterMap_visit, Hub.filterMap_visit, Hub.filterMap_visit, before]
    rfl
  obtain ⟨-, -, -, delivered⟩ := Hub.broadcasts_delivered sending exampleHub_fresh (fun _ => rfl) 0
  exact ⟨_, _, sending, serving, addressed, (delivered serving).trans addressed⟩

end Example

end BridgeOS.Node
