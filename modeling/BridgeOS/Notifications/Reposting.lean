import BridgeOS.Clipboard.ContentHash
import BridgeOS.Notifications.Redelivery

/-! # A later post under the same id

What becomes of a post of a notification that has been dismissed, and of one that is
live with another content. The guard decides. It looks at no sequence number, and at
the content only through the hash of a text in which the fields run into each other.
-/

namespace BridgeOS.Notifications

namespace NotificationMessage

/-- The message dismisses the notification, wherever it is known. -/
def Dismisses (key : NotificationKey) : NotificationMessage → Prop
  | .post _ => False
  | .dismiss origin notificationId _ => (origin.toHex, notificationId) = key
  | .clearAll origin _ => origin.toHex = key.1
  | .actionInvoked origin notificationId _ action =>
      action = .dismiss ∧ (origin.toHex, notificationId) = key

end NotificationMessage

namespace NotificationSyncEngine

section Events

variable (blake3 : Bytes → FixedBytes 32) (lowercase : String → String)

/-- All that a run puts on the event channel. -/
def events (engine : NotificationSyncEngine) : List Input → List NotificationSyncEvent
  | [] => []
  | input :: rest =>
      (engine.take blake3 lowercase input).2 ++ (engine.take blake3 lowercase input).1.events rest

/-- A post that is announced has been stored, and one that is not has left the ring as it was. -/
theorem active_handlePost (engine : NotificationSyncEngine) (posted : NotificationEntry) :
    ((engine.handlePost blake3 lowercase posted).1.active = engine.active ∧
        ∀ entry, .received entry ∉ (engine.handlePost blake3 lowercase posted).2) ∨
      engine.handlePost blake3 lowercase posted =
        ({ engine with
          guard := engine.guard.recordPosted blake3 (posted.enforceSizeLimits blake3)
          active := engine.active.store (posted.enforceSizeLimits blake3).origin.toHex
            (posted.enforceSizeLimits blake3) }, [.received (posted.enforceSizeLimits blake3)]) := by
  unfold handlePost
  dsimp only
  split
  · exact .inl ⟨rfl, by simp⟩
  · split
    · exact .inl ⟨rfl, by simp⟩
    · split
      · exact .inl ⟨rfl, by simp⟩
      · exact .inr rfl

/-- Only a post is announced, cut to size. -/
theorem posted_of_received {engine : NotificationSyncEngine} {input : Input} {entry : NotificationEntry}
    (received : .received entry ∈ (engine.take blake3 lowercase input).2) :
    ∃ posted, input = .message (.post posted) ∧ entry = posted.enforceSizeLimits blake3 := by
  rcases take_build blake3 lowercase engine input with ⟨message, rfl⟩ | built
  · cases message with
    | post posted =>
        rw [take, handleMessage] at received
        rcases active_handlePost blake3 lowercase engine posted with ⟨-, silent⟩ | stored
        · exact absurd received (silent entry)
        · rw [stored] at received
          exact ⟨posted, rfl, by simpa using received⟩
    | dismiss => simp [take, handleMessage] at received
    | clearAll => simp [take, handleMessage] at received
    | actionInvoked => simp [take, handleMessage] at received
  · simp [built] at received

/-- All that a run announces was posted to it. -/
theorem posted_of_mem_events {engine : NotificationSyncEngine} {inputs : List Input}
    {entry : NotificationEntry} (received : .received entry ∈ engine.events blake3 lowercase inputs) :
    ∃ posted, .message (.post posted) ∈ inputs ∧ entry = posted.enforceSizeLimits blake3 := by
  induction inputs generalizing engine with
  | nil => simp [events] at received
  | cons input inputs ih =>
      rcases List.mem_append.mp received with now | later
      · obtain ⟨posted, rfl, cut⟩ := posted_of_received blake3 lowercase now
        exact ⟨posted, List.mem_cons_self, cut⟩
      · obtain ⟨posted, member, cut⟩ := ih later
        exact ⟨posted, List.mem_cons_of_mem _ member, cut⟩

end Events

section Turns

variable {blake3 : Bytes → FixedBytes 32} {lowercase : String → String}
  {engine : NotificationSyncEngine} {book : Book} {key : NotificationKey}

/-- What an input may do to one notification, with what is announced of it. -/
inductive Turn (blake3 : Bytes → FixedBytes 32) (key : NotificationKey) (before after : Option Mark)
    (events : List NotificationSyncEvent) : Prop where
  | delivered (entry : NotificationEntry) (own : entry.key = key)
      (announced : events = [.received entry]) (standing : before ≠ some .dismissed)
      (live : after = some (.live (entry.computeHash blake3)))
  | dismissed (silent : ∀ entry, .received entry ∈ events → entry.key ≠ key)
      (marked : after = before.map fun _ => .dismissed)
  | kept (silent : ∀ entry, .received entry ∈ events → entry.key ≠ key)
      (same : after = before)
  | forgotten (silent : ∀ entry, .received entry ∈ events → entry.key ≠ key)
      (gone : after = none)

theorem turn_dismiss (which : NotificationKey → Bool) {events : List NotificationSyncEvent}
    (silent : ∀ entry, .received entry ∉ events) :
    Turn blake3 key (book.mark key) ((book.dismiss which).mark key) events := by
  have quiet : ∀ entry, .received entry ∈ events → entry.key ≠ key :=
    fun entry received => absurd received (silent entry)
  by_cases hit : which key
  · exact .dismissed quiet (by simp [Book.dismiss, hit])
  · exact .kept quiet (by simp [Book.dismiss, hit])

theorem turn_post (refines : engine.guard.Refines book) (posted : NotificationEntry) :
    Turn blake3 key (book.mark key) ((book.handle blake3 lowercase engine.policy (.post posted)).mark key)
      (engine.handleMessage blake3 lowercase (.post posted)).2 := by
  rw [handleMessage, Book.handle]
  by_cases takes : book.Takes blake3 lowercase engine.policy (posted.enforceSizeLimits blake3)
  · rw [handlePost_of_takes refines takes, if_pos takes]
    by_cases own : (posted.enforceSizeLimits blake3).key = key
    · subst own
      exact .delivered _ rfl rfl takes.2.2 (Book.post_mark_self ..)
    · have silent : ∀ entry,
          .received entry ∈ [NotificationSyncEvent.received (posted.enforceSizeLimits blake3)] →
            entry.key ≠ key := by simpa using own
      by_cases gone : book.forgotten (posted.enforceSizeLimits blake3).key = some key
      · exact .forgotten silent (Book.post_mark_forgotten book _ _ (Ne.symm own) gone)
      · exact .kept silent (Book.post_mark_ne book _ _ (Ne.symm own) gone)
  · rw [handlePost_of_not_takes refines takes, if_neg takes]
    refine .kept ?_ rfl
    intro entry received
    split at received
    · simp at received
    · simp at received

variable (blake3 lowercase) in
/-- One input, one turn for each notification. -/
theorem exists_turn (refines : engine.guard.Refines book) (input : Input) :
    ∃ after : Book, (engine.take blake3 lowercase input).1.guard.Refines after ∧
      ∀ key, Turn blake3 key (book.mark key) (after.mark key) (engine.take blake3 lowercase input).2 := by
  rcases take_build blake3 lowercase engine input with ⟨message, rfl⟩ | built
  · refine ⟨_, refines_handleMessage blake3 lowercase refines message, fun key => ?_⟩
    cases message with
    | post posted => exact turn_post refines posted
    | dismiss => exact turn_dismiss _ (by simp [take, handleMessage])
    | clearAll => exact turn_dismiss _ (by simp [take, handleMessage])
    | actionInvoked =>
        rw [Book.handle]
        split
        · exact turn_dismiss _ (by simp [take, handleMessage])
        · exact .kept (by simp [take, handleMessage]) rfl
  · rw [built]
    exact ⟨book, refines, fun key => .kept (by simp) rfl⟩

end Turns

section Dismissed

variable {blake3 : Bytes → FixedBytes 32} {lowercase : String → String}
  {engine : NotificationSyncEngine} {book : Book} {key : NotificationKey} {posted : NotificationEntry}

/-- The post is announced, and the notification is among the active ones. -/
def Delivers (blake3 : Bytes → FixedBytes 32) (lowercase : String → String)
    (engine : NotificationSyncEngine) (posted : NotificationEntry) : Prop :=
  let (after, events) := engine.handleMessage blake3 lowercase (.post posted)
  .received (posted.enforceSizeLimits blake3) ∈ events ∧
    posted.enforceSizeLimits blake3 ∈ after.activeNotifications posted.origin

variable (blake3 lowercase) in
theorem refines_takeAll (refines : engine.guard.Refines book) (inputs : List Input) :
    ∃ after : Book, (engine.takeAll blake3 lowercase inputs).guard.Refines after := by
  induction inputs generalizing engine book with
  | nil => exact ⟨book, refines⟩
  | cons input inputs ih =>
      obtain ⟨next, refines, -⟩ := exists_turn blake3 lowercase refines input
      exact ih refines

variable (blake3 lowercase) in
theorem mark_handle_of_dismisses (book : Book) (policy : NotificationPolicy) {message : NotificationMessage}
    (dismisses : message.Dismisses key) :
    (book.handle blake3 lowercase policy message).mark key = (book.mark key).map fun _ => .dismissed := by
  cases message with
  | post => exact dismisses.elim
  | dismiss => exact if_pos (by simpa using dismisses.symm)
  | clearAll => exact if_pos (by simpa using dismisses.symm)
  | actionInvoked =>
      obtain ⟨action, own⟩ := dismisses
      rw [Book.handle, if_pos action]
      exact if_pos (by simpa using own.symm)

/-- A notification that is not live does not become so unless it is announced. -/
theorem off_takeAll (refines : engine.guard.Refines book)
    (off : book.mark key = none ∨ book.mark key = some .dismissed) (inputs : List Input)
    (silent : ∀ entry, .received entry ∈ engine.events blake3 lowercase inputs →
      entry.key ≠ key) :
    ∃ after : Book, (engine.takeAll blake3 lowercase inputs).guard.Refines after ∧
      (after.mark key = none ∨ after.mark key = some .dismissed) := by
  induction inputs generalizing engine book with
  | nil => exact ⟨book, refines, off⟩
  | cons input inputs ih =>
      obtain ⟨next, refines, turns⟩ := exists_turn blake3 lowercase refines input
      have later := fun entry received => silent entry (List.mem_append_right _ received)
      refine ih refines ?_ later
      cases turns key with
      | delivered entry own announced =>
          refine absurd own (silent entry (List.mem_append_left _ ?_))
          rw [announced]
          exact List.mem_singleton.mpr rfl
      | dismissed _ marked => rcases off with off | off <;> simp [marked, off]
      | kept _ same => rwa [same]
      | forgotten _ gone => exact .inl gone

/-- A post that is allowed and yet not taken is passed over in silence. -/
theorem handlePost_of_declined (refines : engine.guard.Refines book)
    (allowed : engine.policy.shouldBlock lowercase (posted.enforceSizeLimits blake3) = false)
    (declines : ¬ book.Takes blake3 lowercase engine.policy (posted.enforceSizeLimits blake3)) :
    engine.handlePost blake3 lowercase posted = (engine, []) := by
  rw [handlePost_of_not_takes refines declines, allowed, if_neg Bool.false_ne_true]

theorem not_takes_of_dismissed {policy : NotificationPolicy}
    (dismissed : book.mark posted.key = some .dismissed) :
    ¬ book.Takes blake3 lowercase policy (posted.enforceSizeLimits blake3) := by
  rw [Book.Takes, key_enforceSizeLimits blake3 posted]
  exact fun takes => takes.2.2 dismissed

/-- Of a notification that is not live, a post that policy allows is delivered exactly if
    the guard does not have it, and it comes in as an active one. -/
theorem delivers_iff (refines : engine.guard.Refines book)
    (off : book.mark posted.key = none ∨
      book.mark posted.key = some .dismissed)
    (allowed : engine.policy.shouldBlock lowercase (posted.enforceSizeLimits blake3) = false) :
    engine.Delivers blake3 lowercase posted ↔
      posted.key ∉ engine.guard.evictionRing ∧ posted.state = .active := by
  have same := key_enforceSizeLimits blake3 posted
  have limits := posted.enforceSizeLimits_eq blake3
  have origin : (posted.enforceSizeLimits blake3).origin = posted.origin := congrArg (·.origin) limits
  have state : (posted.enforceSizeLimits blake3).state = posted.state := congrArg (·.state) limits
  rw [Delivers, handleMessage, refines.ring, ← Book.mark_eq_none]
  rcases off with unknown | dismissed
  · have takes : book.Takes blake3 lowercase engine.policy (posted.enforceSizeLimits blake3) := by
      exact Book.takes_of_unknown allowed (same.symm ▸ unknown)
    rw [handlePost_of_takes refines takes]
    simp only [List.mem_singleton, true_and, mem_activeNotifications, ← origin, unknown, state,
      ActiveRing.mem_bucket_store]
  · rw [handlePost_of_declined refines allowed (not_takes_of_dismissed dismissed)]
    simp [dismissed]

/-- After a dismissal, and until the notification is announced again, a post of it is
    delivered exactly if the guard does not have its key (it has forgotten it, or did not
    know it when it was dismissed) and the post comes in as active. Neither its sequence
    number nor its content makes a difference. -/
theorem reused_id_delivered_iff (blake3 : Bytes → FixedBytes 32) (lowercase : String → String)
    (localNodeId : NodeId) (policy : NotificationPolicy) (before later : List Input)
    (dismissal : NotificationMessage) (posted : NotificationEntry)
    (dismisses : dismissal.Dismisses posted.key)
    (silent : ∀ entry,
      .received entry ∈ ((new localNodeId policy).takeAll blake3 lowercase
        (before ++ [.message dismissal])).events blake3 lowercase later →
          entry.key ≠ posted.key)
    (allowed : policy.shouldBlock lowercase (posted.enforceSizeLimits blake3) = false) :
    ((new localNodeId policy).takeAll blake3 lowercase (before ++ .message dismissal :: later)).Delivers
        blake3 lowercase posted ↔
      posted.key ∉ ((new localNodeId policy).takeAll blake3 lowercase
          (before ++ .message dismissal :: later)).guard.evictionRing ∧
        posted.state = .active := by
  have opened : (new localNodeId policy).guard.Refines .empty := NotificationGuard.refines_new
  obtain ⟨book, refines⟩ := refines_takeAll blake3 lowercase opened before
  have dismissed := mark_handle_of_dismisses blake3 lowercase book
    ((new localNodeId policy).takeAll blake3 lowercase before).policy dismisses
  have refines := refines_handleMessage blake3 lowercase refines dismissal
  rw [takeAll_snoc] at silent
  obtain ⟨after, refines, off⟩ := off_takeAll refines (by
    rw [dismissed]
    cases book.mark posted.key <;> simp) later silent
  have run : (new localNodeId policy).takeAll blake3 lowercase (before ++ .message dismissal :: later) =
      ((((new localNodeId policy).takeAll blake3 lowercase before).handleMessage blake3 lowercase
        dismissal).1.takeAll blake3 lowercase later) := takeAll_append ..
  rw [run]
  refine delivers_iff refines off ?_
  rw [policy_takeAll, policy_handleMessage, policy_takeAll]
  exact allowed

end Dismissed

section Live

variable {blake3 : Bytes → FixedBytes 32} {lowercase : String → String}
  {engine : NotificationSyncEngine} {book : Book} {key : NotificationKey}

def receivedUnder (key : NotificationKey) : NotificationSyncEvent → Option NotificationEntry
  | .received entry => if entry.key = key then some entry else none
  | _ => none

/-- What was delivered last of a notification. -/
def lastReceived (key : NotificationKey) (events : List NotificationSyncEvent) : Option NotificationEntry :=
  (events.filterMap (receivedUnder key)).getLast?

theorem lastReceived_append_silent (past : List NotificationSyncEvent)
    {new : List NotificationSyncEvent}
    (silent : ∀ entry, .received entry ∈ new → entry.key ≠ key) :
    lastReceived key (past ++ new) = lastReceived key past := by
  have nothing : new.filterMap (receivedUnder key) = [] := by
    rw [List.filterMap_eq_nil_iff]
    intro event member
    cases event with
    | received entry => exact if_neg (silent entry member)
    | _ => rfl
  rw [lastReceived, List.filterMap_append, nothing, List.append_nil, lastReceived]

/-- The hash of a live notification is that of the post that was delivered last. -/
def Traced (blake3 : Bytes → FixedBytes 32) (book : Book) (events : List NotificationSyncEvent) : Prop :=
  ∀ key hash, book.mark key = some (.live hash) →
    ∃ last, lastReceived key events = some last ∧ hash = last.computeHash blake3

theorem Traced.turn {after : Book} {past new : List NotificationSyncEvent}
    (traced : Traced blake3 book past)
    (turns : ∀ key, Turn blake3 key (book.mark key) (after.mark key) new) :
    Traced blake3 after (past ++ new) := by
  intro key hash live
  cases turns key with
  | delivered entry own announced _ noted =>
      rw [noted] at live
      refine ⟨entry, ?_, (Mark.live.inj (Option.some.inj live)).symm⟩
      simp [lastReceived, announced, receivedUnder, own]
  | dismissed _ marked =>
      rw [marked] at live
      cases before : book.mark key <;> simp [before] at live
  | kept silent same =>
      rw [lastReceived_append_silent past silent]
      exact traced key hash (same ▸ live)
  | forgotten _ gone =>
      rw [gone] at live
      cases live

theorem Traced.takeAll {past : List NotificationSyncEvent} (traced : Traced blake3 book past)
    (refines : engine.guard.Refines book) (inputs : List Input) :
    ∃ after : Book, (engine.takeAll blake3 lowercase inputs).guard.Refines after ∧
      Traced blake3 after (past ++ engine.events blake3 lowercase inputs) := by
  induction inputs generalizing engine book past with
  | nil => exact ⟨book, refines, by simpa [events] using traced⟩
  | cons input inputs ih =>
      obtain ⟨next, refines, turns⟩ := exists_turn blake3 lowercase refines input
      rw [events, ← List.append_assoc]
      exact ih (traced.turn turns) refines

theorem traced_run (blake3 : Bytes → FixedBytes 32) (lowercase : String → String) (localNodeId : NodeId)
    (policy : NotificationPolicy) (inputs : List Input) :
    ∃ book : Book, ((new localNodeId policy).takeAll blake3 lowercase inputs).guard.Refines book ∧
      Traced blake3 book ((new localNodeId policy).events blake3 lowercase inputs) := by
  have opened : (new localNodeId policy).guard.Refines .empty := NotificationGuard.refines_new
  have nothing : Traced blake3 .empty [] := fun key hash live => by cases live
  exact nothing.takeAll opened inputs

/-- What is hashed of the content. -/
def joined (entry : NotificationEntry) : Bytes := utf8 entry.appId ++ utf8 entry.title ++ utf8 entry.text

theorem hashed_eq_iff {a b : NotificationEntry} (same : a.key = b.key) :
    a.hashed = b.hashed ↔ joined a = joined b := by
  obtain ⟨origin, id⟩ := Prod.mk.inj same
  have origin : a.origin = b.origin := NodeId.toHex_injective origin
  simp only [NotificationEntry.hashed, joined, origin, id, List.append_assoc, List.append_cancel_left_eq]

theorem key_of_lastReceived {events : List NotificationSyncEvent} {last : NotificationEntry}
    (found : lastReceived key events = some last) : last.key = key := by
  have member := List.mem_of_getLast? found
  obtain ⟨event, -, under⟩ := List.mem_filterMap.mp member
  cases event with
  | received entry =>
      simp only [receivedUnder] at under
      split at under
      · rename_i own
        cases under
        exact own
      · cases under
  | _ => cases under

/-- An update that policy allows, of a notification that is not dismissed, is delivered
    exactly if the guard has forgotten the notification or the texts that are hashed of
    this post and of the one delivered last are different. -/
theorem update_delivered_iff (blake3 : Bytes → FixedBytes 32) (lowercase : String → String)
    (localNodeId : NodeId) (policy : NotificationPolicy) (inputs : List Input) (posted : NotificationEntry)
    (allowed : policy.shouldBlock lowercase (posted.enforceSizeLimits blake3) = false)
    (standing : ((new localNodeId policy).takeAll blake3 lowercase inputs).guard.isDismissed
      posted.origin.toHex posted.notificationId = false)
    (alone : ∀ last ∈ lastReceived posted.key
        ((new localNodeId policy).events blake3 lowercase inputs),
      blake3 last.hashed = blake3 (posted.enforceSizeLimits blake3).hashed →
        last.hashed = (posted.enforceSizeLimits blake3).hashed) :
    .received (posted.enforceSizeLimits blake3) ∈
        (((new localNodeId policy).takeAll blake3 lowercase inputs).handleMessage blake3 lowercase
          (.post posted)).2 ↔
      posted.key ∉
          ((new localNodeId policy).takeAll blake3 lowercase inputs).guard.evictionRing ∨
        ∃ last ∈ lastReceived posted.key
            ((new localNodeId policy).events blake3 lowercase inputs),
          joined (posted.enforceSizeLimits blake3) ≠ joined last := by
  obtain ⟨book, refines, traced⟩ := traced_run blake3 lowercase localNodeId policy inputs
  have own := key_enforceSizeLimits blake3 posted
  have kept : ((new localNodeId policy).takeAll blake3 lowercase inputs).policy = policy :=
    policy_takeAll ..
  have undismissed : book.mark posted.key ≠ some .dismissed := by
    intro dismissed
    simp [(refines.isDismissed_iff _ _).mpr dismissed] at standing
  have announced : .received (posted.enforceSizeLimits blake3) ∈
      (((new localNodeId policy).takeAll blake3 lowercase inputs).handleMessage blake3 lowercase
        (.post posted)).2 ↔
      book.mark posted.key ≠
        some (.live ((posted.enforceSizeLimits blake3).computeHash blake3)) := by
    rw [handleMessage]
    by_cases takes : book.Takes blake3 lowercase policy (posted.enforceSizeLimits blake3)
    · rw [handlePost_of_takes refines (kept.symm ▸ takes)]
      exact iff_of_true (List.mem_singleton.mpr rfl) (own ▸ takes.2.1)
    · rw [handlePost_of_declined refines (kept.symm ▸ allowed) (kept.symm ▸ takes)]
      refine iff_of_false (by simp) fun fresh => takes ⟨allowed, ?_, ?_⟩
      · rwa [own]
      · rwa [own]
  rw [announced, refines.ring, ← Book.mark_eq_none]
  cases noted : book.mark posted.key with
  | none => simp
  | some mark =>
      cases mark with
      | dismissed => exact absurd noted undismissed
      | live hash =>
          obtain ⟨last, latest, rfl⟩ := traced _ _ noted
          have same := hashed_eq_iff ((key_of_lastReceived latest).trans own.symm)
          have hashes : last.computeHash blake3 = (posted.enforceSizeLimits blake3).computeHash blake3 ↔
              joined last = joined (posted.enforceSizeLimits blake3) :=
            ⟨fun equal => same.mp (alone last latest equal), fun equal => congrArg blake3 (same.mpr equal)⟩
          simp [latest, hashes, eq_comm]

end Live

end NotificationSyncEngine

section Example

open NotificationSyncEngine
open Clipboard.ClipboardContent (singling singling_alone)

/-- A new notification under the id of the one that is dismissed. -/
def exampleAgain : NotificationEntry := { exampleEntry with sequence := 3, text := "again" }

theorem exampleAgain_allowed :
    examplePolicy.shouldBlock Text.toAsciiLowercase (exampleAgain.enforceSizeLimits exampleHash) = false := rfl

/-- It is neither announced nor shown. -/
theorem reused_id_is_lost :
    exampleEntry.sequence < exampleAgain.sequence ∧ exampleAgain.text ≠ exampleEntry.text ∧
      examplePolicy.shouldBlock Text.toAsciiLowercase (exampleAgain.enforceSizeLimits exampleHash) = false ∧
      ((exampleRun exampleDismissed).handleMessage exampleHash Text.toAsciiLowercase
        (.post exampleAgain)).2 = [] ∧
      ((exampleRun exampleDismissed).handleMessage exampleHash Text.toAsciiLowercase
        (.post exampleAgain)).1.activeNotifications exampleEntry.origin = [] := by
  obtain ⟨ring, bucket⟩ := exampleRun_dismissed
  have opened : exampleStart.guard.Refines .empty := NotificationGuard.refines_new
  obtain ⟨book, refines⟩ := refines_takeAll exampleHash Text.toAsciiLowercase opened
    [.message (.post exampleEntry)]
  have dismisses : (NotificationMessage.dismiss exampleEntry.origin exampleEntry.notificationId 2).Dismisses
      exampleAgain.key := rfl
  have marked := mark_handle_of_dismisses exampleHash Text.toAsciiLowercase book
    (exampleRun [.message (.post exampleEntry)]).policy dismisses
  have refines : (exampleRun exampleDismissed).guard.Refines _ :=
    refines_handleMessage exampleHash Text.toAsciiLowercase refines _
  have dismissed := marked
  have known : exampleAgain.key ∈ (exampleRun exampleDismissed).guard.evictionRing :=
    ring.symm ▸ List.mem_cons_self
  rw [refines.ring, Book.tracked, marked, Option.isSome_map] at known
  obtain ⟨mark, noted⟩ := Option.isSome_iff_exists.mp known
  rw [noted, Option.map_some] at dismissed
  have policy : (exampleRun exampleDismissed).policy = examplePolicy := policy_takeAll ..
  have silent := handlePost_of_declined refines (policy.symm ▸ exampleAgain_allowed)
    (not_takes_of_dismissed dismissed)
  refine ⟨by decide, by decide, exampleAgain_allowed, ?_, ?_⟩
  · rw [handleMessage, silent]
  · rw [handleMessage, silent, activeNotifications_eq, bucket]
    rfl

/-- Once the guard is full of the posts of another device, it is delivered. -/
theorem forgotten_id_is_reused :
    (exampleRun crowdedRun).Delivers exampleHash Text.toAsciiLowercase exampleAgain := by
  have shape : crowdedRun = [.message (.post exampleEntry)] ++
      .message (.dismiss exampleEntry.origin exampleEntry.notificationId 2) ::
        crowd.map fun p => .message (.post p) := by simp [crowdedRun, exampleDismissed]
  have dismisses : (NotificationMessage.dismiss exampleEntry.origin exampleEntry.notificationId 2).Dismisses
      exampleAgain.key := rfl
  have delivered := reused_id_delivered_iff exampleHash Text.toAsciiLowercase ⟨.fill 32 9⟩ examplePolicy
    [.message (.post exampleEntry)] (crowd.map fun p => .message (.post p)) _ exampleAgain dismisses
    (by
      intro entry received same
      obtain ⟨posted, member, rfl⟩ := posted_of_mem_events _ _ received
      obtain ⟨p, crowded, equal⟩ := List.mem_map.mp member
      cases equal
      rw [key_enforceSizeLimits] at same
      exact crowd_elsewhere posted crowded (NodeId.toHex_injective (Prod.mk.inj same).1))
    exampleAgain_allowed
  have start : new ⟨.fill 32 9⟩ examplePolicy = exampleStart := rfl
  have same : exampleAgain.key = exampleEntry.key := rfl
  have forgotten := exampleRun_crowded.1
  rw [exampleRun, ← same] at forgotten
  rw [← shape, start] at delivered
  rw [delivered]
  exact ⟨forgotten, rfl⟩

def examplePosted : List Input := [.message (.post exampleEntry)]

theorem exampleStart_posted (blake3 : Bytes → FixedBytes 32) :
    (exampleStart.takeAll blake3 Text.toAsciiLowercase examplePosted).guard.Refines
        (Book.empty.post exampleEntry.key (exampleEntry.computeHash blake3)) ∧
      lastReceived exampleEntry.key
          (exampleStart.events blake3 Text.toAsciiLowercase examplePosted) = some exampleEntry := by
  have opened : exampleStart.guard.Refines .empty := NotificationGuard.refines_new
  have takes : Book.empty.Takes blake3 Text.toAsciiLowercase exampleStart.policy
      (exampleEntry.enforceSizeLimits blake3) := Book.takes_of_unknown rfl rfl
  have announced : (exampleStart.take blake3 Text.toAsciiLowercase (.message (.post exampleEntry))).2 =
      [.received exampleEntry] := congrArg Prod.snd (handlePost_of_takes opened takes)
  have refines := refines_handleMessage blake3 Text.toAsciiLowercase opened (.post exampleEntry)
  rw [Book.handle, if_pos takes] at refines
  refine ⟨refines, ?_⟩
  rw [examplePosted, events, announced]
  simp [events, lastReceived, receivedUnder]

/-- Another text under the same id is delivered. -/
theorem other_text_is_delivered :
    let blake3 := singling exampleEntry.hashed
    .received exampleAgain ∈ ((exampleStart.takeAll blake3 Text.toAsciiLowercase examplePosted).handleMessage
      blake3 Text.toAsciiLowercase (.post exampleAgain)).2 := by
  obtain ⟨refines, latest⟩ := exampleStart_posted (singling exampleEntry.hashed)
  refine (update_delivered_iff (singling exampleEntry.hashed) Text.toAsciiLowercase
    ⟨.fill 32 9⟩ examplePolicy examplePosted exampleAgain rfl ?_ ?_).mpr (.inr ⟨exampleEntry, latest, ?_⟩)
  · have standing := (refines.isDismissed_iff exampleAgain.origin.toHex exampleAgain.notificationId).not
    rw [Bool.not_eq_true] at standing
    refine standing.mpr ?_
    have live := Book.post_mark_self Book.empty exampleEntry.key
      (exampleEntry.computeHash (singling exampleEntry.hashed))
    rw [show (exampleAgain.origin.toHex, exampleAgain.notificationId) = exampleEntry.key
      from rfl, live]
    simp
  · intro last found
    obtain rfl := Option.some.inj (latest.symm.trans found)
    exact singling_alone _ _
  · decide

/-- The same letters, otherwise divided between title and text. -/
def exampleShifted : NotificationEntry := { exampleEntry with sequence := 2, title := "Hithere", text := "" }

/-- Whatever the hash, the update is taken for a duplicate. -/
theorem shifted_update_is_dropped :
    exampleShifted.title ≠ exampleEntry.title ∧ exampleShifted.text ≠ exampleEntry.text ∧
      ∀ blake3 : Bytes → FixedBytes 32,
        examplePolicy.shouldBlock Text.toAsciiLowercase (exampleShifted.enforceSizeLimits blake3) = false ∧
        lastReceived exampleShifted.key
            (exampleStart.events blake3 Text.toAsciiLowercase examplePosted) = some exampleEntry ∧
        (exampleStart.takeAll blake3 Text.toAsciiLowercase examplePosted).guard.isDismissed
            exampleShifted.origin.toHex exampleShifted.notificationId = false ∧
        ((exampleStart.takeAll blake3 Text.toAsciiLowercase examplePosted).handleMessage
          blake3 Text.toAsciiLowercase (.post exampleShifted)).2 = [] := by
  refine ⟨by decide, by decide, fun blake3 => ?_⟩
  obtain ⟨refines, latest⟩ := exampleStart_posted blake3
  have allowed : examplePolicy.shouldBlock Text.toAsciiLowercase
      (exampleShifted.enforceSizeLimits blake3) = false := rfl
  have texts : exampleEntry.hashed = exampleShifted.hashed := by decide
  have live : (Book.empty.post exampleEntry.key (exampleEntry.computeHash blake3)).mark
      exampleShifted.key = some (.live (exampleShifted.computeHash blake3)) := by
    rw [NotificationEntry.computeHash, texts]
    exact Book.post_mark_self ..
  have standing := (refines.isDismissed_iff exampleShifted.origin.toHex exampleShifted.notificationId).not
  have declines : ¬ Book.Takes blake3 Text.toAsciiLowercase examplePolicy
      (Book.empty.post exampleEntry.key (exampleEntry.computeHash blake3))
      (exampleShifted.enforceSizeLimits blake3) := fun taken => taken.2.1 live
  have policy : (exampleStart.takeAll blake3 Text.toAsciiLowercase examplePosted).policy = examplePolicy :=
    policy_takeAll ..
  rw [Bool.not_eq_true, show (exampleShifted.origin.toHex, exampleShifted.notificationId) =
    exampleShifted.key from rfl, live] at standing
  refine ⟨allowed, latest, standing.mpr (by simp), ?_⟩
  rw [handleMessage]
  exact congrArg Prod.snd
    (handlePost_of_declined refines (policy.symm ▸ allowed) (policy.symm ▸ declines))

end Example

end BridgeOS.Notifications
