import BridgeOS.Notifications.Redelivery

/-! # Notifications of two origins

Origins have rings of their own for what they show, but share the places of the
guard. Two runs, one of them without the messages of an origin, look the same to
another origin for as long as the guard forgets the same of its notifications in
both.
-/

namespace BridgeOS.Notifications

namespace NotificationSyncEngine

variable (blake3 : Bytes → FixedBytes 32) (lowercase : String → String)

def Input.isFrom (origin : NodeId) : Input → Bool
  | .message received => received.origin = origin
  | _ => false

/-- The run without the messages of an origin. -/
def without (origin : NodeId) (inputs : List Input) : List Input :=
  inputs.filter fun input => !input.isFrom origin

/-- The events that the messages of an origin give rise to. -/
def emitted (origin : NodeId) (engine : NotificationSyncEngine) : List Input → List NotificationSyncEvent
  | [] => []
  | input :: rest =>
      (if input.isFrom origin then (engine.take blake3 lowercase input).2 else []) ++
        emitted origin (engine.take blake3 lowercase input).1 rest

/-- The notification of an origin whose place in the guard an input takes: the oldest in
    a full ring, if that is one of the origin, and the input an allowed post of a
    notification that the ring does not have. -/
def evicts (origin : NodeId) (engine : NotificationSyncEngine) : Input → Option NotificationKey
  | .message (.post posted) =>
      if engine.policy.shouldBlock lowercase (posted.enforceSizeLimits blake3) then none
      else (Recent.forgotten ringCapacity engine.guard.evictionRing posted.key).filter
        fun key => key.1 = origin.toHex
  | _ => none

/-- At each input, the guard gives up the same of an origin's notifications in a run and
    in the run without the messages of another origin, whose messages take no place of
    the first. -/
def Undisturbed (left kept : NodeId) (full reduced : NotificationSyncEngine) : List Input → Prop
  | [] => True
  | input :: rest =>
      if input.isFrom left then
        full.evicts blake3 lowercase kept input = none ∧
          Undisturbed left kept (full.take blake3 lowercase input).1 reduced rest
      else
        full.evicts blake3 lowercase kept input = reduced.evicts blake3 lowercase kept input ∧
          Undisturbed left kept (full.take blake3 lowercase input).1 (reduced.take blake3 lowercase input).1
            rest

theorem emitted_append (origin : NodeId) (engine : NotificationSyncEngine) (before after : List Input) :
    engine.emitted blake3 lowercase origin (before ++ after) =
      engine.emitted blake3 lowercase origin before ++
        (engine.takeAll blake3 lowercase before).emitted blake3 lowercase origin after := by
  induction before generalizing engine with
  | nil => rfl
  | cons input before ih =>
      rw [List.cons_append, emitted, emitted, ih, List.append_assoc]
      rfl

theorem emitted_snoc_of_isFrom {origin : NodeId} {last : Input} (own : last.isFrom origin = true)
    (engine : NotificationSyncEngine) (before : List Input) :
    engine.emitted blake3 lowercase origin (before ++ [last]) =
      engine.emitted blake3 lowercase origin before ++
        ((engine.takeAll blake3 lowercase before).take blake3 lowercase last).2 := by
  rw [emitted_append, emitted, emitted, if_pos own, List.append_nil]

variable {inputs : List Input} {message : NotificationMessage}

theorem emitted_eq_nil {origin : NodeId} (others : ∀ input ∈ inputs, input.isFrom origin = false)
    (engine : NotificationSyncEngine) :
    engine.emitted blake3 lowercase origin inputs = [] := by
  induction inputs generalizing engine with
  | nil => rfl
  | cons input inputs ih =>
      rw [emitted, others input List.mem_cons_self,
        ih fun input member => others input (List.mem_cons_of_mem _ member)]
      rfl

section Step

variable {blake3 lowercase} {engine : NotificationSyncEngine} {book : Book} {origin : NodeId}

/-- What the book has of an origin's notification after a post of another notification. -/
theorem mark_handle_post (refines : engine.guard.Refines book) {posted : NotificationEntry} {id : String}
    (other : (origin.toHex, id) ≠ posted.key) :
    (book.handle blake3 lowercase engine.policy (.post posted)).mark (origin.toHex, id) =
      if engine.evicts blake3 lowercase origin (.message (.post posted)) = some (origin.toHex, id) then none
      else book.mark (origin.toHex, id) := by
  rw [Book.handle, evicts, refines.ring, ← key_enforceSizeLimits blake3 posted] at *
  by_cases takes : book.Takes blake3 lowercase engine.policy (posted.enforceSizeLimits blake3)
  · have filtered : (Recent.forgotten ringCapacity book.ring
          (posted.enforceSizeLimits blake3).key).filter
          (fun key => key.1 = origin.toHex) = some (origin.toHex, id) ↔
        book.forgotten (posted.enforceSizeLimits blake3).key =
          some (origin.toHex, id) := by
      simp [Option.filter_eq_some_iff, Book.forgotten]
    rw [if_pos takes, takes.1, if_neg Bool.false_ne_true]
    simp only [filtered]
    exact if_neg other
  · rw [if_neg takes]
    by_cases blocked : engine.policy.shouldBlock lowercase (posted.enforceSizeLimits blake3) = true
    · rw [if_pos blocked, if_neg (Option.some_ne_none _).symm]
    · -- the book has the notification already
      have known : (posted.enforceSizeLimits blake3).key ∈ book.ring := by
        by_contra unknown
        exact takes (Book.takes_of_unknown (Bool.not_eq_true _ ▸ blocked) (Book.mark_eq_none.mpr unknown))
      rw [if_neg blocked, Recent.forgotten_of_mem known, Option.filter_none,
        if_neg (Option.some_ne_none _).symm]

theorem mark_handle_of_ne (refines : engine.guard.Refines book) (foreign : message.origin ≠ origin) (id : String) :
    (book.handle blake3 lowercase engine.policy message).mark (origin.toHex, id) =
      if engine.evicts blake3 lowercase origin (.message message) = some (origin.toHex, id) then none
      else book.mark (origin.toHex, id) := by
  have apart : origin.toHex ≠ message.origin.toHex := fun same => foreign (NodeId.toHex_injective same).symm
  cases message with
  | post posted => exact mark_handle_post refines fun same => apart (Prod.mk.inj same).1
  | dismiss _ name _ =>
      have spared : decide ((origin.toHex, id) = (_, name)) = false :=
        decide_eq_false fun same => apart (Prod.mk.inj same).1
      exact (book.dismiss_mark_of_spared spared).trans (if_neg (Option.some_ne_none _).symm).symm
  | clearAll _ _ =>
      have spared : decide (origin.toHex = _) = false := decide_eq_false apart
      exact (book.dismiss_mark_of_spared spared).trans (if_neg (Option.some_ne_none _).symm).symm
  | actionInvoked _ name _ action =>
      rw [Book.handle]
      split
      · have spared : decide ((origin.toHex, id) = (_, name)) = false :=
          decide_eq_false fun same => apart (Prod.mk.inj same).1
        exact (book.dismiss_mark_of_spared spared).trans (if_neg (Option.some_ne_none _).symm).symm
      · exact (if_neg (Option.some_ne_none _).symm).symm

theorem bucket_handleMessage_ne (refines : engine.guard.Refines book) (foreign : message.origin ≠ origin) :
    (engine.handleMessage blake3 lowercase message).1.active.bucket origin.toHex =
      engine.active.bucket origin.toHex := by
  have apart : origin.toHex ≠ message.origin.toHex := fun same => foreign (NodeId.toHex_injective same).symm
  cases message with
  | post posted => exact bucket_handlePost_ne refines foreign
  | dismiss => exact ActiveRing.bucket_dismissWhere_ne _ _ apart
  | clearAll => exact ActiveRing.bucket_dismissWhere_ne _ _ apart
  | actionInvoked =>
      rw [handleMessage]
      split
      · exact ActiveRing.bucket_dismissWhere_ne _ _ apart
      · rfl

end Step

section Runs

variable {blake3 lowercase} {full reduced : NotificationSyncEngine} {origin : NodeId}

/-- Two engines that look the same to an origin. -/
structure Alike (origin : NodeId) (full reduced : NotificationSyncEngine) : Prop where
  policy : full.policy = reduced.policy
  books : ∃ ours theirs : Book, full.guard.Refines ours ∧ reduced.guard.Refines theirs ∧
    ∀ id, ours.mark (origin.toHex, id) = theirs.mark (origin.toHex, id)
  bucket : full.active.bucket origin.toHex = reduced.active.bucket origin.toHex

namespace Alike

/-- A message of another origin that takes no place of this one may be left out. -/
theorem leave (alike : Alike origin full reduced) (foreign : message.origin ≠ origin)
    (calm : full.evicts blake3 lowercase origin (.message message) = none) :
    Alike origin (full.handleMessage blake3 lowercase message).1 reduced := by
  obtain ⟨ours, theirs, left, right, same⟩ := alike.books
  refine ⟨(policy_handleMessage ..).trans alike.policy,
    ⟨_, theirs, refines_handleMessage blake3 lowercase left message, right, fun id => ?_⟩,
    (bucket_handleMessage_ne left foreign).trans alike.bucket⟩
  rw [mark_handle_of_ne left foreign, calm, if_neg (Option.some_ne_none _).symm]
  exact same id

/-- A message of another origin that both get. -/
theorem pass (alike : Alike origin full reduced) (foreign : message.origin ≠ origin)
    (even : full.evicts blake3 lowercase origin (.message message) = reduced.evicts blake3 lowercase origin
      (.message message)) :
    Alike origin (full.handleMessage blake3 lowercase message).1
      (reduced.handleMessage blake3 lowercase message).1 := by
  obtain ⟨ours, theirs, left, right, same⟩ := alike.books
  refine ⟨?_, ⟨_, _, refines_handleMessage blake3 lowercase left message,
    refines_handleMessage blake3 lowercase right message, fun id => ?_⟩, ?_⟩
  · rw [policy_handleMessage, policy_handleMessage]
    exact alike.policy
  · rw [mark_handle_of_ne left foreign, mark_handle_of_ne right foreign, even, same]
  · rw [bucket_handleMessage_ne left foreign, bucket_handleMessage_ne right foreign]
    exact alike.bucket

theorem dismiss {ours theirs : Book} {left right : NotificationGuard} {which : NotificationKey → Bool}
    (alike : Alike origin full reduced)
    (same : ∀ id, ours.mark (origin.toHex, id) = theirs.mark (origin.toHex, id))
    (leftRefines : left.Refines (ours.dismiss which)) (rightRefines : right.Refines (theirs.dismiss which))
    (hit : NotificationEntry → Bool) :
    Alike origin { full with guard := left, active := full.active.dismissWhere origin.toHex hit }
      { reduced with guard := right, active := reduced.active.dismissWhere origin.toHex hit } := by
  refine ⟨alike.policy, ⟨_, _, leftRefines, rightRefines, fun id => ?_⟩, ?_⟩
  · simp only [Book.dismiss, same]
  · rw [ActiveRing.bucket_dismissWhere, ActiveRing.bucket_dismissWhere, alike.bucket]

theorem post {posted : NotificationEntry} (alike : Alike posted.origin full reduced)
    (even : full.evicts blake3 lowercase posted.origin (.message (.post posted)) =
      reduced.evicts blake3 lowercase posted.origin (.message (.post posted))) :
    Alike posted.origin (full.handlePost blake3 lowercase posted).1
        (reduced.handlePost blake3 lowercase posted).1 ∧
      (full.handlePost blake3 lowercase posted).2 = (reduced.handlePost blake3 lowercase posted).2 := by
  obtain ⟨ours, theirs, left, right, same⟩ := alike.books
  have sameKey : ours.mark (posted.enforceSizeLimits blake3).key =
      theirs.mark (posted.enforceSizeLimits blake3).key := by
    rw [key_enforceSizeLimits]
    exact same posted.notificationId
  have takes_iff : ours.Takes blake3 lowercase full.policy (posted.enforceSizeLimits blake3) ↔
      theirs.Takes blake3 lowercase reduced.policy (posted.enforceSizeLimits blake3) := by
    rw [Book.Takes, Book.Takes, sameKey, alike.policy]
  by_cases takes : ours.Takes blake3 lowercase full.policy (posted.enforceSizeLimits blake3)
  · have taken := takes_iff.mp takes
    have origins : (posted.enforceSizeLimits blake3).origin = posted.origin :=
      congrArg (·.origin) (posted.enforceSizeLimits_eq blake3)
    refine ⟨⟨?_, ⟨_, _, refines_handleMessage blake3 lowercase left (.post posted),
      refines_handleMessage blake3 lowercase right (.post posted), fun id => ?_⟩, ?_⟩, ?_⟩
    · rw [handlePost_of_takes left takes, handlePost_of_takes right taken]
      exact alike.policy
    · by_cases here : (posted.origin.toHex, id) = posted.key
      · rw [here, Book.handle, Book.handle, if_pos takes, if_pos taken, ← key_enforceSizeLimits blake3 posted,
          Book.post_mark_self, Book.post_mark_self]
      · rw [mark_handle_post left here, mark_handle_post right here, even, same]
    · rw [handlePost_of_takes left takes, handlePost_of_takes right taken, origins]
      dsimp only
      rw [ActiveRing.bucket_store, ActiveRing.bucket_store, alike.bucket]
    · rw [handlePost_of_takes left takes, handlePost_of_takes right taken]
  · rw [handlePost_of_not_takes left takes, handlePost_of_not_takes right (mt takes_iff.mpr takes),
      alike.policy]
    exact ⟨alike, rfl⟩

/-- A message of the origin has the same effect, and is announced in the same way. -/
theorem meet (alike : Alike message.origin full reduced)
    (even : full.evicts blake3 lowercase message.origin (.message message) = reduced.evicts blake3 lowercase
      message.origin (.message message)) :
    Alike message.origin (full.handleMessage blake3 lowercase message).1
        (reduced.handleMessage blake3 lowercase message).1 ∧
      (full.handleMessage blake3 lowercase message).2 =
        (reduced.handleMessage blake3 lowercase message).2 := by
  obtain ⟨ours, theirs, left, right, same⟩ := alike.books
  cases message with
  | post posted => exact alike.post even
  | dismiss origin name _ =>
      exact ⟨alike.dismiss same (left.recordDismissed ..) (right.recordDismissed ..) _, rfl⟩
  | clearAll origin _ =>
      exact ⟨alike.dismiss same (left.recordClearAll _) (right.recordClearAll _) _, rfl⟩
  | actionInvoked origin name _ action =>
      refine ⟨?_, rfl⟩
      rw [handleMessage, handleMessage]
      by_cases dismisses : action = .dismiss
      · simp only [dismisses, if_true]
        exact alike.dismiss same (left.recordDismissed ..) (right.recordDismissed ..) _
      · simp only [dismisses, if_false]
        exact alike

/-- To build a message is nothing to an origin. -/
theorem build (alike : Alike origin full reduced) (ours theirs : UInt64) :
    Alike origin { full with localSequence := ours } { reduced with localSequence := theirs } :=
  ⟨alike.policy, alike.books, alike.bucket⟩

theorem take (alike : Alike origin full reduced) {input : Input}
    (even : full.evicts blake3 lowercase origin input = reduced.evicts blake3 lowercase origin input) :
    Alike origin (full.take blake3 lowercase input).1 (reduced.take blake3 lowercase input).1 ∧
      (input.isFrom origin = true →
        (full.take blake3 lowercase input).2 = (reduced.take blake3 lowercase input).2) := by
  by_cases built : ∃ message, input = .message message
  · obtain ⟨message, rfl⟩ := built
    by_cases own : message.origin = origin
    · subst own
      obtain ⟨after, events⟩ := alike.meet even
      exact ⟨after, fun _ => events⟩
    · refine ⟨alike.pass own even, fun claimed => ?_⟩
      exact absurd (of_decide_eq_true claimed) own
  · rw [(take_build blake3 lowercase full input).resolve_left built,
      (take_build blake3 lowercase reduced input).resolve_left built]
    exact ⟨alike.build _ _, fun _ => rfl⟩

/-- The step lemmas along the two runs. -/
theorem run {left : NodeId} (apart : left ≠ origin) (alike : Alike origin full reduced)
    (undisturbed : Undisturbed blake3 lowercase left origin full reduced inputs) :
    full.emitted blake3 lowercase origin inputs =
        reduced.emitted blake3 lowercase origin (without left inputs) ∧
      (full.takeAll blake3 lowercase inputs).activeNotifications origin =
        (reduced.takeAll blake3 lowercase (without left inputs)).activeNotifications origin := by
  induction inputs generalizing full reduced with
  | nil =>
      refine ⟨rfl, ?_⟩
      rw [activeNotifications_eq, activeNotifications_eq]
      exact congrArg _ alike.bucket
  | cons input inputs ih =>
      rw [Undisturbed] at undisturbed
      by_cases gone : input.isFrom left = true
      · rw [if_pos gone] at undisturbed
        obtain ⟨message, rfl⟩ : ∃ message, input = .message message := by
          cases input with
          | message message => exact ⟨message, rfl⟩
          | _ => cases gone
        have sender : message.origin = left := of_decide_eq_true gone
        have foreign : message.origin ≠ origin := sender ▸ apart
        have skipped : without left (.message message :: inputs) = without left inputs := by
          simp [without, gone]
        have silent : (Input.message message).isFrom origin = false := decide_eq_false foreign
        rw [skipped, emitted, silent]
        exact ih (alike.leave foreign undisturbed.1) undisturbed.2
      · rw [if_neg gone] at undisturbed
        obtain ⟨after, events⟩ := alike.take undisturbed.1
        obtain ⟨emits, shows⟩ := ih after undisturbed.2
        have kept : without left (input :: inputs) = input :: without left inputs := by
          simp [without, gone]
        rw [kept, emitted, emitted, emits]
        refine ⟨?_, shows⟩
        by_cases own : input.isFrom origin = true
        · rw [if_pos own, if_pos own, events own]
        · rw [if_neg own, if_neg own]

end Alike

variable (blake3 lowercase) in
/-- In every run in which the guard gives up the same of an origin's notifications as
    without the messages of another, that origin's events and active notifications are
    the same as without them. -/
theorem origins_apart (localNodeId : NodeId) (policy : NotificationPolicy) {left kept : NodeId}
    (apart : left ≠ kept) (inputs : List Input)
    (undisturbed : Undisturbed blake3 lowercase left kept (new localNodeId policy) (new localNodeId policy)
      inputs) :
    (new localNodeId policy).emitted blake3 lowercase kept inputs =
        (new localNodeId policy).emitted blake3 lowercase kept (without left inputs) ∧
      ((new localNodeId policy).takeAll blake3 lowercase inputs).activeNotifications kept =
        ((new localNodeId policy).takeAll blake3 lowercase (without left inputs)).activeNotifications kept :=
  Alike.run apart ⟨rfl, ⟨_, _, NotificationGuard.refines_new, NotificationGuard.refines_new, fun _ => rfl⟩,
    rfl⟩ undisturbed

end Runs

section Short

variable {engine full reduced : NotificationSyncEngine} {book ours theirs : Book}

theorem evicts_of_room (origin : NodeId) (room : engine.guard.evictionRing.length < ringCapacity)
    (input : Input) : engine.evicts blake3 lowercase origin input = none := by
  unfold evicts
  split
  · rw [Recent.forgotten_of_room room, Option.filter_none, ite_self]
  · rfl

theorem refines_take (refines : engine.guard.Refines book) (input : Input) :
    ∃ book, (engine.take blake3 lowercase input).1.guard.Refines book := by
  rcases take_build blake3 lowercase engine input with ⟨message, rfl⟩ | built
  · exact ⟨_, refines_handleMessage blake3 lowercase refines message⟩
  · rw [built]
    exact ⟨book, refines⟩

/-- An input adds at most one notification to those the guard has. -/
theorem length_evictionRing_take (refines : engine.guard.Refines book) (input : Input) :
    (engine.take blake3 lowercase input).1.guard.evictionRing.length ≤
      engine.guard.evictionRing.length + 1 := by
  rcases take_build blake3 lowercase engine input with ⟨message, rfl⟩ | built
  · cases message with
    | post posted =>
        by_cases takes : book.Takes blake3 lowercase engine.policy (posted.enforceSizeLimits blake3)
        · rw [take, handleMessage, evictionRing_handlePost refines takes.1]
          exact Recent.length_push_le_succ
        · rw [take, handleMessage, handlePost_of_not_takes refines takes]
          exact Nat.le_succ _
    | dismiss => exact Nat.le_succ _
    | clearAll => exact Nat.le_succ _
    | actionInvoked =>
        rw [take, handleMessage]
        split
        · exact Nat.le_succ _
        · exact Nat.le_succ _
  · rw [built]
    exact Nat.le_succ _

/-- A run for whose messages the guard has room. -/
theorem undisturbed_of_short (left kept : NodeId) (leftRefines : full.guard.Refines ours)
    (rightRefines : reduced.guard.Refines theirs)
    (leftRoom : full.guard.evictionRing.length + inputs.length ≤ ringCapacity)
    (rightRoom : reduced.guard.evictionRing.length + inputs.length ≤ ringCapacity) :
    Undisturbed blake3 lowercase left kept full reduced inputs := by
  induction inputs generalizing full reduced ours theirs with
  | nil => trivial
  | cons input inputs ih =>
      rw [List.length_cons] at leftRoom rightRoom
      obtain ⟨_, leftNext⟩ := refines_take blake3 lowercase leftRefines input
      obtain ⟨_, rightNext⟩ := refines_take blake3 lowercase rightRefines input
      have leftGrows := length_evictionRing_take blake3 lowercase leftRefines input
      have rightGrows := length_evictionRing_take blake3 lowercase rightRefines input
      have leftSpace : full.guard.evictionRing.length < ringCapacity := by omega
      have rightSpace : reduced.guard.evictionRing.length < ringCapacity := by omega
      have leftCalm := evicts_of_room blake3 lowercase kept leftSpace input
      have rightCalm := evicts_of_room blake3 lowercase kept rightSpace input
      rw [Undisturbed]
      split
      · exact ⟨leftCalm, ih leftNext rightRefines (by omega) (by omega)⟩
      · exact ⟨leftCalm.trans rightCalm.symm, ih leftNext rightNext (by omega) (by omega)⟩

end Short

end NotificationSyncEngine

section Example

open NotificationSyncEngine

def crowdOrigin : NodeId := ⟨.fill 32 2⟩

/-- One post of another device changes nothing. -/
theorem single_post_apart :
    let inputs := exampleDismissed ++ (crowd.take 1).map (fun p => .message (.post p)) ++
      [.message (.post exampleEntry)]
    exampleStart.emitted exampleHash Text.toAsciiLowercase exampleEntry.origin inputs =
        exampleStart.emitted exampleHash Text.toAsciiLowercase exampleEntry.origin
          (without crowdOrigin inputs) ∧
      (exampleRun inputs).activeNotifications exampleEntry.origin =
        (exampleRun (without crowdOrigin inputs)).activeNotifications exampleEntry.origin := by
  apply origins_apart exampleHash Text.toAsciiLowercase ⟨.fill 32 9⟩ examplePolicy
  · decide
  · exact undisturbed_of_short _ _ _ _ NotificationGuard.refines_new NotificationGuard.refines_new (by decide)
      (by decide)

theorem crowd_input_isFrom : ∀ input ∈ crowd.map (fun p => Input.message (.post p)),
    input.isFrom crowdOrigin = true ∧ input.isFrom exampleEntry.origin = false := by
  intro input member
  obtain ⟨p, crowded, rfl⟩ := List.mem_map.mp member
  have own : p.origin = crowdOrigin := by
    obtain ⟨i, -, rfl⟩ := List.mem_map.mp crowded
    rfl
  exact ⟨decide_eq_true own, decide_eq_false (crowd_elsewhere p crowded)⟩

theorem without_crowd (post : Input) (other : post.isFrom crowdOrigin = false) :
    without crowdOrigin (crowdedRun ++ [post]) = exampleDismissed ++ [post] := by
  have gone : (crowd.map fun p => Input.message (.post p)).filter (fun input => !input.isFrom crowdOrigin) =
      [] := by
    rw [List.filter_eq_nil_iff]
    intro input member
    simp [(crowd_input_isFrom input member).1]
  have kept : without crowdOrigin exampleDismissed = exampleDismissed := rfl
  rw [crowdedRun, without, List.filter_append, List.filter_append, gone, List.append_nil]
  rw [without] at kept
  rw [kept]
  simp [other]

/-- With the posts of another device, a notification that was dismissed is announced
    again and shown; without them it is not. -/
theorem crowd_interferes :
    let inputs := crowdedRun ++ [.message (.post exampleEntry)]
    exampleStart.emitted exampleHash Text.toAsciiLowercase exampleEntry.origin inputs =
        exampleStart.emitted exampleHash Text.toAsciiLowercase exampleEntry.origin
          (without crowdOrigin inputs) ++ [.received exampleEntry] ∧
      (exampleRun inputs).Shows exampleEntry.origin exampleEntry.notificationId ∧
      ¬ (exampleRun (without crowdOrigin inputs)).Shows exampleEntry.origin
          exampleEntry.notificationId := by
  have twice : without crowdOrigin (crowdedRun ++ [.message (.post exampleEntry)]) =
      exampleDismissed ++ [.message (.post exampleEntry)] := without_crowd _ (by decide)
  have own : (Input.message (.post exampleEntry)).isFrom exampleEntry.origin = true := by decide
  obtain ⟨ring, bucket⟩ := exampleRun_dismissed
  obtain ⟨book, kept⟩ : ∃ book, Kept exampleHash Text.toAsciiLowercase (exampleRun exampleDismissed) book :=
    (kept_new ..).takeAll exampleDismissed
  have member : exampleHeld ∈ (exampleRun exampleDismissed).active.bucket exampleHeld.origin.toHex :=
    bucket.symm ▸ List.mem_cons_self
  have silent := kept.handlePost_repeat member exampleEntry_repeats (ring.symm ▸ List.mem_cons_self)
  obtain ⟨announced, shown⟩ := crowded_post
  intro inputs
  rw [twice]
  refine ⟨?_, ?_, ?_⟩
  · have crowdSilent := emitted_eq_nil exampleHash Text.toAsciiLowercase
      (fun input member => (crowd_input_isFrom input member).2) (exampleRun exampleDismissed)
    have before : exampleStart.emitted exampleHash Text.toAsciiLowercase exampleEntry.origin crowdedRun =
        exampleStart.emitted exampleHash Text.toAsciiLowercase exampleEntry.origin exampleDismissed := by
      rw [crowdedRun, emitted_append, crowdSilent, List.append_nil]
    rw [emitted_snoc_of_isFrom _ _ own, emitted_snoc_of_isFrom _ _ own, before, take, take, announced,
      handleMessage, silent, List.append_nil]
  · rw [exampleRun, takeAll_snoc, take]
    exact shown
  · have gone : ¬ (exampleRun exampleDismissed).Shows exampleHeld.origin exampleHeld.notificationId :=
      kept.not_shows member rfl
    rw [exampleRun, takeAll_snoc, take, handleMessage, silent]
    exact gone

end Example

end BridgeOS.Notifications
