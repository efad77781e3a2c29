import BridgeOS.Notifications.Dismissal
import BridgeOS.Notifications.Guard

/-! # Posting a dismissed notification again

The ring of an origin goes on holding a notification that was dismissed, but it is
the guard that turns a repeated post down, and the guard forgets: its 256 places
are shared by all origins.
-/

namespace BridgeOS.Notifications

namespace ActiveRing

variable {active : ActiveRing} {originHex other : String} {entry e : NotificationEntry}

theorem bucket_store_ne (different : other ≠ originHex) :
    (active.store originHex entry).bucket other = active.bucket other := by
  rw [bucket, store, AList.lookup_insert_ne different, bucket]

/-- A stored entry goes to the end; the oldest may have to make room. -/
theorem bucket_store_sublist : ((active.store originHex entry).bucket originHex).Sublist
    (((active.bucket originHex).filter fun e => e.notificationId ≠ entry.notificationId) ++ [entry]) := by
  rw [bucket_store]
  dsimp only
  split
  · exact List.tail_sublist _
  · exact List.Sublist.refl _

theorem bucket_store_of_room (room : (active.bucket originHex).length < 256) :
    (active.store originHex entry).bucket originHex =
      ((active.bucket originHex).filter fun e => e.notificationId ≠ entry.notificationId) ++ [entry] := by
  have fits := List.length_filter_le (fun e => decide (e.notificationId ≠ entry.notificationId))
    (active.bucket originHex)
  have few : ¬ (((active.bucket originHex).filter fun e =>
      decide (e.notificationId ≠ entry.notificationId)) ++ [entry]).length > 256 := by
    rw [List.length_append, List.length_singleton]
    omega
  rw [bucket_store]
  exact if_neg few

theorem mem_of_mem_bucket_store (member : e ∈ (active.store originHex entry).bucket originHex) :
    e ∈ active.bucket originHex ∧ e.notificationId ≠ entry.notificationId ∨ e = entry := by
  have either := bucket_store_sublist.mem member
  simpa using either

theorem ids_dismissWhere (which : NotificationEntry → Bool) :
    ((active.dismissWhere originHex which).bucket originHex).map NotificationEntry.notificationId =
      (active.bucket originHex).map NotificationEntry.notificationId := by
  rw [bucket_dismissWhere, List.map_map]
  apply List.map_congr_left
  intro e _
  simp only [Function.comp]
  split <;> rfl

theorem nodup_replaced {bucket : List NotificationEntry}
    (distinct : (bucket.map NotificationEntry.notificationId).Nodup) (entry : NotificationEntry) :
    (((bucket.filter fun e => e.notificationId ≠ entry.notificationId) ++ [entry]).map
      NotificationEntry.notificationId).Nodup := by
  rw [List.map_append, List.nodup_append]
  refine ⟨distinct.sublist (List.filter_sublist.map _), List.nodup_singleton _, ?_⟩
  intro id old last single
  obtain ⟨e, kept, rfl⟩ := List.mem_map.mp old
  rw [List.map_singleton, List.mem_singleton] at single
  rw [single]
  simpa using (List.mem_filter.mp kept).2

theorem distinct_bucket_store
    (distinct : ((active.bucket originHex).map NotificationEntry.notificationId).Nodup) :
    (((active.store originHex entry).bucket originHex).map NotificationEntry.notificationId).Nodup :=
  (nodup_replaced distinct entry).sublist (bucket_store_sublist.map _)

end ActiveRing

namespace NotificationSyncEngine

section Run

variable (blake3 : Bytes → FixedBytes 32) (lowercase : String → String)

/-- What an engine is called for. -/
inductive Input where
  | message (message : NotificationMessage)
  | buildPost (postedAtMs : UInt64) (notificationId appId appName title text : String)
      (urgency : NotificationUrgency)
  | buildDismiss (notificationId : String)
  | buildClearAll
  | buildAction (notificationId : String) (action : NotificationAction)

def take (engine : NotificationSyncEngine) : Input → NotificationSyncEngine × List NotificationSyncEvent
  | .message message => engine.handleMessage blake3 lowercase message
  | .buildPost postedAtMs notificationId appId appName title text urgency =>
      ((engine.buildPost blake3 lowercase postedAtMs notificationId appId appName title text urgency).2, [])
  | .buildDismiss notificationId => ((engine.buildDismiss notificationId).2, [])
  | .buildClearAll => (engine.buildClearAll.2, [])
  | .buildAction notificationId action => ((engine.buildAction notificationId action).2, [])

def takeAll (engine : NotificationSyncEngine) (inputs : List Input) : NotificationSyncEngine :=
  inputs.foldl (fun engine input => (engine.take blake3 lowercase input).1) engine

theorem takeAll_append (engine : NotificationSyncEngine) (before after : List Input) :
    engine.takeAll blake3 lowercase (before ++ after) =
      (engine.takeAll blake3 lowercase before).takeAll blake3 lowercase after :=
  List.foldl_append ..

theorem buildPost_snd (engine : NotificationSyncEngine) (postedAtMs : UInt64)
    (notificationId appId appName title text : String) (urgency : NotificationUrgency) :
    (engine.buildPost blake3 lowercase postedAtMs notificationId appId appName title text urgency).2 =
      { engine with localSequence := engine.localSequence + 1 } := by
  unfold buildPost nextSequence
  dsimp only
  rw [apply_ite Prod.snd, ite_self]

theorem takeAll_snoc (engine : NotificationSyncEngine) (before : List Input) (last : Input) :
    engine.takeAll blake3 lowercase (before ++ [last]) =
      ((engine.takeAll blake3 lowercase before).take blake3 lowercase last).1 :=
  takeAll_append ..

/-- To build a message is to use up a sequence number. -/
theorem take_build (engine : NotificationSyncEngine) (input : Input) :
    (∃ message, input = .message message) ∨
      engine.take blake3 lowercase input =
        ({ engine with localSequence := engine.localSequence + 1 }, []) := by
  cases input with
  | message message => exact .inl ⟨message, rfl⟩
  | buildPost => exact .inr (Prod.ext (buildPost_snd ..) rfl)
  | buildDismiss => exact .inr rfl
  | buildClearAll => exact .inr rfl
  | buildAction => exact .inr rfl

theorem policy_take (engine : NotificationSyncEngine) (input : Input) :
    (engine.take blake3 lowercase input).1.policy = engine.policy := by
  rcases take_build blake3 lowercase engine input with ⟨message, rfl⟩ | built
  · exact policy_handleMessage ..
  · rw [built]

theorem policy_takeAll (engine : NotificationSyncEngine) (inputs : List Input) :
    (engine.takeAll blake3 lowercase inputs).policy = engine.policy := by
  induction inputs generalizing engine with
  | nil => rfl
  | cons input inputs ih => exact (ih _).trans (policy_take ..)

theorem activeNotifications_eq (engine : NotificationSyncEngine) (origin : NodeId) :
    engine.activeNotifications origin =
      (engine.active.bucket origin.toHex).filter fun e => e.state = .active := by
  rw [activeNotifications, ActiveRing.bucket]
  cases engine.active.lookup origin.toHex with
  | none => rfl
  | some bucket => rfl

end Run

section Kept

variable {blake3 : Bytes → FixedBytes 32} {lowercase : String → String}
  {engine : NotificationSyncEngine} {book : Book}

/-- How the ring of mirrored notifications stands to the book: an entry that the book
    still has is there as dismissed, or live with the hash of that very entry. -/
structure Kept (blake3 : Bytes → FixedBytes 32) (lowercase : String → String)
    (engine : NotificationSyncEngine) (book : Book) : Prop where
  refines : engine.guard.Refines book
  filed : ∀ originHex, ∀ e ∈ engine.active.bucket originHex, e.origin.toHex = originHex
  allowed : ∀ originHex, ∀ e ∈ engine.active.bucket originHex,
    engine.policy.shouldBlock lowercase e = false
  marked : ∀ originHex, ∀ e ∈ engine.active.bucket originHex, ∀ mark,
    book.mark e.key = some mark →
      mark = .dismissed ∨ mark = .live (e.computeHash blake3)
  distinct : ∀ originHex,
    ((engine.active.bucket originHex).map NotificationEntry.notificationId).Nodup

theorem kept_new (localNodeId : NodeId) (policy : NotificationPolicy) :
    Kept blake3 lowercase (new localNodeId policy) .empty where
  refines := NotificationGuard.refines_new
  filed _ _ member := absurd member List.not_mem_nil
  allowed _ _ member := absurd member List.not_mem_nil
  marked _ _ member := absurd member List.not_mem_nil
  distinct _ := List.nodup_nil

namespace Kept

variable (kept : Kept blake3 lowercase engine book)

include kept

/-- Whatever is dismissed in the ring, and whatever in the book. -/
theorem dismiss {guard : NotificationGuard}
    {which : NotificationKey → Bool} (refines : guard.Refines (book.dismiss which)) (originHex : String)
    (hit : NotificationEntry → Bool) :
    Kept blake3 lowercase
      { engine with guard, active := engine.active.dismissWhere originHex hit } (book.dismiss which) := by
  -- an entry of the changed ring is one of the old ring, but for its state
  have origins : ∀ o, ∀ e ∈ (engine.active.dismissWhere originHex hit).bucket o,
      ∃ old ∈ engine.active.bucket o, ∃ state, e = { old with state } := by
    intro o e member
    by_cases own : o = originHex
    · subst own
      rw [ActiveRing.bucket_dismissWhere] at member
      obtain ⟨old, stored, rfl⟩ := List.mem_map.mp member
      refine ⟨old, stored, if hit old then .dismissed else old.state, ?_⟩
      split <;> rfl
    · rw [ActiveRing.bucket_dismissWhere_ne _ _ own] at member
      exact ⟨e, member, e.state, rfl⟩
  refine ⟨refines, ?_, ?_, ?_, ?_⟩
  · intro o e member
    obtain ⟨old, stored, state, rfl⟩ := origins o e member
    exact kept.filed o old stored
  · intro o e member
    obtain ⟨old, stored, state, rfl⟩ := origins o e member
    exact kept.allowed o old stored
  · intro o e member mark marked
    obtain ⟨old, stored, state, rfl⟩ := origins o e member
    simp only [Book.dismiss] at marked
    split at marked
    · obtain ⟨before, -, rfl⟩ := Option.map_eq_some_iff.mp marked
      exact .inl rfl
    · exact kept.marked o old stored mark marked
  · intro o
    by_cases own : o = originHex
    · subst own
      exact (ActiveRing.ids_dismissWhere hit).symm ▸ kept.distinct o
    · exact (ActiveRing.bucket_dismissWhere_ne _ _ own).symm ▸ kept.distinct o

theorem post {entry : NotificationEntry} (takes : book.Takes blake3 lowercase engine.policy entry) :
    Kept blake3 lowercase
      { engine with
        guard := engine.guard.recordPosted blake3 entry
        active := engine.active.store entry.origin.toHex entry }
      (book.post entry.key (entry.computeHash blake3)) := by
  have origins : ∀ o, ∀ e ∈ (engine.active.store entry.origin.toHex entry).bucket o,
      e ∈ engine.active.bucket o ∧ e.key ≠ entry.key ∨
        e = entry ∧ entry.origin.toHex = o := by
    intro o e member
    by_cases own : o = entry.origin.toHex
    · subst own
      rcases ActiveRing.mem_of_mem_bucket_store member with ⟨old, apart⟩ | rfl
      · exact .inl ⟨old, fun same => apart (Prod.mk.inj same).2⟩
      · exact .inr ⟨rfl, rfl⟩
    · rw [ActiveRing.bucket_store_ne own] at member
      refine .inl ⟨member, fun same => own ?_⟩
      rw [← kept.filed o e member]
      exact (Prod.mk.inj same).1
  refine ⟨kept.refines.recordPosted takes.2.2, ?_, ?_, ?_, ?_⟩
  · intro o e member
    rcases origins o e member with ⟨old, -⟩ | ⟨rfl, here⟩
    · exact kept.filed o e old
    · exact here
  · intro o e member
    rcases origins o e member with ⟨old, -⟩ | ⟨rfl, -⟩
    · exact kept.allowed o e old
    · exact takes.1
  · intro o e member mark marked
    rcases origins o e member with ⟨old, apart⟩ | ⟨rfl, -⟩
    · -- the book has forgotten it or has it as before
      by_cases gone : book.forgotten entry.key = some e.key
      · rw [Book.post_mark_forgotten book _ _ apart gone] at marked
        cases marked
      · rw [Book.post_mark_ne book _ _ apart gone] at marked
        exact kept.marked o e old mark marked
    · rw [Book.post_mark_self] at marked
      exact .inr (Option.some.inj marked).symm
  · intro o
    by_cases own : o = entry.origin.toHex
    · subst own
      exact ActiveRing.distinct_bucket_store (kept.distinct _)
    · exact (ActiveRing.bucket_store_ne own).symm ▸ kept.distinct o

theorem handleMessage (message : NotificationMessage) :
    Kept blake3 lowercase (engine.handleMessage blake3 lowercase message).1
      (book.handle blake3 lowercase engine.policy message) := by
  have refines := refines_handleMessage blake3 lowercase kept.refines message
  cases message with
  | post posted =>
      rw [NotificationSyncEngine.handleMessage, Book.handle] at *
      by_cases takes : book.Takes blake3 lowercase engine.policy (posted.enforceSizeLimits blake3)
      · rw [handlePost_of_takes kept.refines takes, if_pos takes]
        exact kept.post takes
      · rw [handlePost_of_not_takes kept.refines takes, if_neg takes]
        exact kept
  | dismiss origin notificationId _ => exact kept.dismiss refines ..
  | clearAll origin _ => exact kept.dismiss refines ..
  | actionInvoked origin notificationId _ action =>
      rw [NotificationSyncEngine.handleMessage, Book.handle] at *
      split
      · rename_i dismisses
        rw [if_pos dismisses, if_pos dismisses] at refines
        exact kept.dismiss refines ..
      · exact kept

theorem take (input : Input) : ∃ book, Kept blake3 lowercase (engine.take blake3 lowercase input).1 book := by
  rcases take_build blake3 lowercase engine input with ⟨message, rfl⟩ | built
  · exact ⟨_, kept.handleMessage message⟩
  · rw [built]
    exact ⟨book, kept.refines, kept.filed, kept.allowed, kept.marked, kept.distinct⟩

theorem takeAll (inputs : List Input) :
    ∃ book, Kept blake3 lowercase (engine.takeAll blake3 lowercase inputs) book := by
  induction inputs generalizing engine book with
  | nil => exact ⟨book, kept⟩
  | cons input inputs ih =>
      obtain ⟨next, kept⟩ := kept.take input
      exact ih kept

end Kept

end Kept

section Repeat

variable {blake3 : Bytes → FixedBytes 32} {lowercase : String → String}
  {engine : NotificationSyncEngine} {book : Book} {held posted : NotificationEntry}

/-- A post that, cut to size, is the entry that is held, but for its state. -/
def Repeats (blake3 : Bytes → FixedBytes 32) (posted held : NotificationEntry) : Prop :=
  ∃ state, posted.enforceSizeLimits blake3 = { held with state }

/-- The post is not announced, and the notification is not active after it. -/
def StaysDismissed (blake3 : Bytes → FixedBytes 32) (lowercase : String → String)
    (engine : NotificationSyncEngine) (held posted : NotificationEntry) : Prop :=
  let (after, events) := engine.handleMessage blake3 lowercase (.post posted)
  (∀ entry, .received entry ∉ events) ∧ ¬ after.Shows held.origin held.notificationId

section Repeats

variable (kept : Kept blake3 lowercase engine book) (member : held ∈ engine.active.bucket held.origin.toHex)

include kept member

/-- The book takes a repeated post exactly if it has forgotten the notification. -/
theorem Kept.takes_repeat_iff (repeats : Repeats blake3 posted held) :
    book.Takes blake3 lowercase engine.policy (posted.enforceSizeLimits blake3) ↔
      held.key ∉ engine.guard.evictionRing := by
  obtain ⟨state, same⟩ := repeats
  rw [same, kept.refines.ring, ← Book.mark_eq_none]
  constructor
  · intro takes
    by_contra known
    obtain ⟨mark, marked⟩ := Option.ne_none_iff_exists'.mp known
    rcases kept.marked _ held member mark marked with rfl | rfl
    · exact takes.2.2 marked
    · exact takes.2.1 marked
  · intro unknown
    have missing : book.mark (NotificationGuard.key { held with state }) = none := unknown
    exact Book.takes_of_unknown (kept.allowed _ held member) missing

/-- For as long as the guard has its key, nothing comes of the post. -/
theorem Kept.handlePost_repeat (repeats : Repeats blake3 posted held)
    (known : held.key ∈ engine.guard.evictionRing) :
    engine.handlePost blake3 lowercase posted = (engine, []) := by
  have declines := (kept.takes_repeat_iff member repeats).not.mpr (not_not.mpr known)
  obtain ⟨state, same⟩ := repeats
  have allowed : engine.policy.shouldBlock lowercase (posted.enforceSizeLimits blake3) = false := by
    rw [same]
    exact kept.allowed _ held member
  rw [handlePost_of_not_takes kept.refines declines, allowed, if_neg Bool.false_ne_true]

/-- An origin's ring has one entry of an id. -/
theorem Kept.not_shows (dismissed : held.state = .dismissed) :
    ¬ engine.Shows held.origin held.notificationId := by
  rw [shows_iff]
  rintro ⟨e, stored, active, same⟩
  have equal : e = held := List.inj_on_of_nodup_map (kept.distinct _) stored member same
  rw [equal, dismissed] at active
  cases active

theorem Kept.staysDismissed_iff (dismissed : held.state = .dismissed) (repeats : Repeats blake3 posted held) :
    StaysDismissed blake3 lowercase engine held posted ↔
      held.key ∈ engine.guard.evictionRing := by
  rw [StaysDismissed, NotificationSyncEngine.handleMessage]
  by_cases known : held.key ∈ engine.guard.evictionRing
  · rw [kept.handlePost_repeat member repeats known]
    exact iff_of_true ⟨fun _ => List.not_mem_nil, kept.not_shows member dismissed⟩ known
  · rw [handlePost_of_takes kept.refines ((kept.takes_repeat_iff member repeats).mpr known)]
    refine iff_of_false (fun stays => ?_) known
    exact stays.1 _ List.mem_cons_self

end Repeats

/-- In every run, a repeated post of a notification that is held as dismissed is turned
    down exactly if the guard still has its key. -/
theorem stays_dismissed_iff (blake3 : Bytes → FixedBytes 32) (lowercase : String → String)
    (localNodeId : NodeId) (policy : NotificationPolicy) (inputs : List Input)
    (held posted : NotificationEntry)
    (member : held ∈ ((new localNodeId policy).takeAll blake3 lowercase inputs).active.bucket
      held.origin.toHex)
    (dismissed : held.state = .dismissed) (repeats : Repeats blake3 posted held) :
    StaysDismissed blake3 lowercase ((new localNodeId policy).takeAll blake3 lowercase inputs) held posted ↔
      held.key ∈
        ((new localNodeId policy).takeAll blake3 lowercase inputs).guard.evictionRing := by
  obtain ⟨book, kept⟩ := (kept_new localNodeId policy).takeAll inputs
  exact kept.staysDismissed_iff member dismissed repeats

end Repeat

section Crowd

variable {blake3 : Bytes → FixedBytes 32} {lowercase : String → String}
  {engine : NotificationSyncEngine} {book : Book} {posted : NotificationEntry}

variable (blake3) in
theorem key_enforceSizeLimits (posted : NotificationEntry) :
    (posted.enforceSizeLimits blake3).key = posted.key := by
  rw [NotificationEntry.enforceSizeLimits_eq]
  rfl

/-- A post that policy allows puts its key into the ring, if it is not there. -/
theorem evictionRing_handlePost (refines : engine.guard.Refines book)
    (allowed : engine.policy.shouldBlock lowercase (posted.enforceSizeLimits blake3) = false) :
    (engine.handlePost blake3 lowercase posted).1.guard.evictionRing =
      Recent.push ringCapacity engine.guard.evictionRing posted.key := by
  rw [refines.ring]
  by_cases takes : book.Takes blake3 lowercase engine.policy (posted.enforceSizeLimits blake3)
  · rw [handlePost_of_takes refines takes, ← key_enforceSizeLimits blake3 posted]
    exact (refines.recordPosted takes.2.2).ring
  · have known : posted.key ∈ book.ring := by
      by_contra unknown
      have missing := Book.mark_eq_none.mpr unknown
      rw [← key_enforceSizeLimits blake3 posted] at missing
      exact takes (Book.takes_of_unknown allowed missing)
    rw [handlePost_of_not_takes refines takes, Recent.push_of_mem known]
    exact refines.ring

/-- The posts of one origin leave the ring of another as it is. -/
theorem bucket_handlePost_ne {origin : NodeId} (refines : engine.guard.Refines book)
    (other : posted.origin ≠ origin) :
    (engine.handlePost blake3 lowercase posted).1.active.bucket origin.toHex =
      engine.active.bucket origin.toHex := by
  by_cases takes : book.Takes blake3 lowercase engine.policy (posted.enforceSizeLimits blake3)
  · rw [handlePost_of_takes refines takes]
    apply ActiveRing.bucket_store_ne
    rw [NotificationEntry.enforceSizeLimits_eq]
    exact fun same => other (NodeId.toHex_injective same).symm
  · rw [handlePost_of_not_takes refines takes]

/-- However many posts of other origins are allowed, their keys go through the guard's
    ring and the entries of an origin stay. -/
theorem takeAll_posts {origin : NodeId} (refines : engine.guard.Refines book)
    {posts : List NotificationEntry}
    (allowed : ∀ p ∈ posts, engine.policy.shouldBlock lowercase (p.enforceSizeLimits blake3) = false)
    (others : ∀ p ∈ posts, p.origin ≠ origin) :
    let after := engine.takeAll blake3 lowercase (posts.map fun p => .message (.post p))
    after.guard.evictionRing =
        Recent.pushAll ringCapacity engine.guard.evictionRing (posts.map NotificationGuard.key) ∧
      after.active.bucket origin.toHex = engine.active.bucket origin.toHex := by
  induction posts generalizing engine book with
  | nil => exact ⟨rfl, rfl⟩
  | cons p posts ih =>
      have same := policy_handleMessage blake3 lowercase engine (.post p)
      obtain ⟨ring, bucket⟩ := ih (refines_handleMessage blake3 lowercase refines (.post p))
        (fun q member => by rw [same]; exact allowed q (List.mem_cons_of_mem _ member))
        (fun q member => others q (List.mem_cons_of_mem _ member))
      refine ⟨ring.trans ?_, bucket.trans ?_⟩
      · rw [handleMessage, evictionRing_handlePost refines (allowed p List.mem_cons_self)]
        rfl
      · exact bucket_handlePost_ne refines (others p List.mem_cons_self)

end Crowd

end NotificationSyncEngine

section Example

open NotificationSyncEngine

def exampleStart : NotificationSyncEngine := .new ⟨.fill 32 9⟩ examplePolicy

/-- A notification is posted and dismissed. -/
def exampleDismissed : List Input :=
  [.message (.post exampleEntry), .message (.dismiss exampleEntry.origin exampleEntry.notificationId 2)]

/-- Another device posts as many notifications as the guard has places. -/
def crowd : List NotificationEntry :=
  (List.range ringCapacity).map fun i =>
    { exampleEntry with origin := ⟨.fill 32 2⟩, notificationId := String.ofList (List.replicate i 'n') }

def exampleHeld : NotificationEntry := { exampleEntry with state := .dismissed }

abbrev exampleRun (inputs : List Input) : NotificationSyncEngine :=
  exampleStart.takeAll exampleHash Text.toAsciiLowercase inputs

theorem exampleEntry_repeats : Repeats exampleHash exampleEntry exampleHeld := ⟨.active, rfl⟩

theorem exampleRun_dismissed :
    (exampleRun exampleDismissed).guard.evictionRing = [exampleEntry.key] ∧
      (exampleRun exampleDismissed).active.bucket exampleEntry.origin.toHex = [exampleHeld] := by
  have refines : exampleStart.guard.Refines .empty := NotificationGuard.refines_new
  have takes : Book.empty.Takes exampleHash Text.toAsciiLowercase exampleStart.policy
      (exampleEntry.enforceSizeLimits exampleHash) := Book.takes_of_unknown exampleEntry_allowed rfl
  constructor
  · exact (evictionRing_handlePost refines takes.1).trans (Recent.push_of_not_mem List.not_mem_nil)
  · have stored : (exampleStart.handlePost exampleHash Text.toAsciiLowercase
        exampleEntry).1.active.bucket exampleEntry.origin.toHex = [exampleEntry] := by
      rw [handlePost_of_takes refines takes, exampleEntry_limits]
      exact ActiveRing.bucket_store_of_room (by decide)
    calc (exampleRun exampleDismissed).active.bucket exampleEntry.origin.toHex
      _ = ((exampleStart.handlePost exampleHash Text.toAsciiLowercase
            exampleEntry).1.active.bucket exampleEntry.origin.toHex).map _ :=
          ActiveRing.bucket_dismissWhere ..
      _ = [exampleHeld] := by
          rw [stored]
          rfl

/-- A post is turned down after it was dismissed. -/
theorem dismissed_post_turned_down :
    StaysDismissed exampleHash Text.toAsciiLowercase (exampleRun exampleDismissed) exampleHeld
      exampleEntry := by
  obtain ⟨ring, bucket⟩ := exampleRun_dismissed
  refine (stays_dismissed_iff exampleHash Text.toAsciiLowercase ⟨.fill 32 9⟩ examplePolicy
    exampleDismissed exampleHeld exampleEntry ?_ rfl exampleEntry_repeats).mpr ?_
  · exact bucket.symm ▸ List.mem_cons_self
  · exact ring.symm ▸ List.mem_cons_self

theorem crowd_allowed : ∀ p ∈ crowd,
    examplePolicy.shouldBlock Text.toAsciiLowercase (p.enforceSizeLimits exampleHash) = false := by
  intro p member
  obtain ⟨i, -, rfl⟩ := List.mem_map.mp member
  exact exampleEntry_allowed

theorem crowd_elsewhere : ∀ p ∈ crowd, p.origin ≠ exampleEntry.origin := by
  intro p member
  obtain ⟨i, -, rfl⟩ := List.mem_map.mp member
  have apart : (⟨.fill 32 2⟩ : NodeId) ≠ exampleEntry.origin := by decide
  exact apart

theorem crowd_distinct : ([exampleEntry.key] ++ crowd.map NotificationGuard.key).Nodup := by
  rw [List.singleton_append, List.nodup_cons]
  constructor
  · intro member
    obtain ⟨p, crowded, same⟩ := List.mem_map.mp member
    exact crowd_elsewhere p crowded (NodeId.toHex_injective (Prod.mk.inj same).1)
  · rw [crowd, List.map_map]
    apply List.nodup_range.map
    intro i j same
    have ids : String.ofList (List.replicate i 'n') = String.ofList (List.replicate j 'n') :=
      (Prod.mk.inj same).2
    simpa using congrArg List.length (String.ofList_injective ids)

def crowdedRun : List Input := exampleDismissed ++ crowd.map fun p => .message (.post p)

theorem exampleRun_crowded :
    exampleEntry.key ∉ (exampleRun crowdedRun).guard.evictionRing ∧
      (exampleRun crowdedRun).active.bucket exampleEntry.origin.toHex = [exampleHeld] := by
  obtain ⟨ring, bucket⟩ := exampleRun_dismissed
  obtain ⟨book, kept⟩ : ∃ book, Kept exampleHash Text.toAsciiLowercase (exampleRun exampleDismissed) book :=
    (kept_new ..).takeAll exampleDismissed
  have policy : (exampleRun exampleDismissed).policy = examplePolicy := policy_takeAll ..
  obtain ⟨crowdedRing, crowdedBucket⟩ := takeAll_posts kept.refines (policy.symm ▸ crowd_allowed)
    crowd_elsewhere
  rw [exampleRun, crowdedRun, takeAll_append]
  rw [ring] at crowdedRing
  constructor
  · rw [crowdedRing]
    exact Recent.not_mem_pushAll_of_crowd (by decide) (by decide) crowd_distinct (by simp [crowd])
      List.mem_cons_self
  · exact crowdedBucket.trans bucket

/-- The post of the dismissed notification is taken for a new one. -/
theorem crowded_post :
    ((exampleRun crowdedRun).handleMessage exampleHash Text.toAsciiLowercase (.post exampleEntry)).2 =
        [.received exampleEntry] ∧
      ((exampleRun crowdedRun).handleMessage exampleHash Text.toAsciiLowercase
        (.post exampleEntry)).1.Shows exampleEntry.origin exampleEntry.notificationId := by
  obtain ⟨forgotten, bucket⟩ := exampleRun_crowded
  obtain ⟨book, kept⟩ : ∃ book, Kept exampleHash Text.toAsciiLowercase (exampleRun crowdedRun) book :=
    (kept_new ..).takeAll crowdedRun
  have member : exampleHeld ∈ (exampleRun crowdedRun).active.bucket exampleHeld.origin.toHex :=
    bucket.symm ▸ List.mem_cons_self
  have takes := (kept.takes_repeat_iff member exampleEntry_repeats).mpr forgotten
  rw [handleMessage, handlePost_of_takes kept.refines takes, exampleEntry_limits, shows_iff]
  exact ⟨rfl, exampleEntry, ActiveRing.mem_bucket_store .., rfl, rfl⟩

/-- Another device posts 256 notifications, and a post of the one that was dismissed,
    and that is still held so, is announced and makes it active. -/
theorem crowd_revives_dismissed :
    exampleHeld ∈ (exampleRun crowdedRun).active.bucket exampleHeld.origin.toHex ∧
      exampleHeld.state = .dismissed ∧
      ((exampleRun crowdedRun).handleMessage exampleHash Text.toAsciiLowercase (.post exampleEntry)).2 =
        [.received exampleEntry] ∧
      ((exampleRun crowdedRun).handleMessage exampleHash Text.toAsciiLowercase
        (.post exampleEntry)).1.Shows exampleEntry.origin exampleEntry.notificationId :=
  ⟨exampleRun_crowded.2.symm ▸ List.mem_cons_self, rfl, crowded_post⟩

end Example

end BridgeOS.Notifications
