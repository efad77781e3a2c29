import BridgeOS.Lib.Recent
import BridgeOS.Notifications.Engine

/-! # What the notification guard remembers

A ring of keys and two maps, kept in step by the engine. Together they are a book
of at most 256 notifications, all origins in one: the oldest is forgotten when a
new one comes, and each one that is remembered is live, with the hash of its
content, or dismissed.
-/

namespace BridgeOS.Notifications

inductive Mark where
  | live (hash : FixedBytes 32)
  | dismissed
  deriving DecidableEq

namespace Mark

def state : Mark → NotificationState
  | .live _ => .active
  | .dismissed => .dismissed

def hash? : Mark → Option (FixedBytes 32)
  | .live hash => some hash
  | .dismissed => none

end Mark

/-- The keys in the ring are those with a mark. -/
structure Book where
  ring : List NotificationKey
  mark : NotificationKey → Option Mark
  tracked : ∀ key, key ∈ ring ↔ (mark key).isSome
  distinct : ring.Nodup

namespace Book

variable (book : Book) (key : NotificationKey) (hash : FixedBytes 32)

def empty : Book := ⟨[], fun _ => none, by simp, List.nodup_nil⟩

theorem mark_eq_none {book : Book} {key : NotificationKey} : book.mark key = none ↔ key ∉ book.ring := by
  rw [book.tracked, Option.not_isSome_iff_eq_none]

/-- The notification whose place a new one takes. -/
def forgotten : Option NotificationKey := Recent.forgotten ringCapacity book.ring key

/-- A notification is noted as live. -/
def post : Book where
  ring := Recent.push ringCapacity book.ring key
  mark other :=
    if other = key then some (.live hash)
    else if book.forgotten key = some other then none
    else book.mark other
  tracked other := by
    by_cases own : other = key
    · subst own
      simp [Recent.mem_push_self]
    · rw [Recent.mem_push_iff book.distinct own, if_neg own, book.tracked]
      by_cases gone : book.forgotten key = some other
      · rw [if_pos gone]
        simp [show Recent.forgotten ringCapacity book.ring key = some other from gone]
      · rw [if_neg gone]
        exact and_iff_left gone
  distinct := Recent.nodup_push book.distinct

/-- The notifications of which this holds are dismissed. -/
def dismiss (which : NotificationKey → Bool) : Book where
  ring := book.ring
  mark key := if which key then (book.mark key).map fun _ => .dismissed else book.mark key
  tracked key := by
    rw [book.tracked]
    split <;> simp
  distinct := book.distinct

theorem post_mark_self : (book.post key hash).mark key = some (.live hash) := if_pos rfl

theorem post_mark_ne {other : NotificationKey} (apart : other ≠ key)
    (kept : book.forgotten key ≠ some other) : (book.post key hash).mark other = book.mark other :=
  (if_neg apart).trans (if_neg kept)

theorem post_mark_forgotten {other : NotificationKey} (apart : other ≠ key)
    (gone : book.forgotten key = some other) : (book.post key hash).mark other = none :=
  (if_neg apart).trans (if_pos gone)

theorem dismiss_mark_of_spared {which : NotificationKey → Bool} {key : NotificationKey}
    (spared : which key = false) : (book.dismiss which).mark key = book.mark key :=
  if_neg (by simp [spared])

end Book

namespace NotificationGuard

variable {blake3 : Bytes → FixedBytes 32} {guard : NotificationGuard} {book : Book}

section Effects

/-- The three ways in which a post is recorded. -/
theorem recordPosted_cases {motive : NotificationGuard → Prop} (entry : NotificationEntry)
    (update : key entry ∈ guard.seenHashes →
      motive
        { seenHashes := guard.seenHashes.insert (key entry) (entry.computeHash blake3)
          evictionRing := guard.evictionRing
          states := guard.states.insert (key entry) .active })
    (room : key entry ∉ guard.seenHashes → guard.evictionRing.length < ringCapacity →
      motive
        { seenHashes := guard.seenHashes.insert (key entry) (entry.computeHash blake3)
          evictionRing := guard.evictionRing ++ [key entry]
          states := guard.states.insert (key entry) .active })
    (evict : key entry ∉ guard.seenHashes → ∀ oldest rest, guard.evictionRing = oldest :: rest →
      ringCapacity ≤ guard.evictionRing.length →
      motive
        { seenHashes := (guard.seenHashes.erase oldest).insert (key entry) (entry.computeHash blake3)
          evictionRing := rest ++ [key entry]
          states := (guard.states.erase oldest).insert (key entry) .active }) :
    motive (guard.recordPosted blake3 entry) := by
  unfold recordPosted
  by_cases known : key entry ∈ guard.seenHashes
  · rw [if_pos known]
    exact update known
  · rw [if_neg known]
    by_cases full : ringCapacity ≤ guard.evictionRing.length
    · rcases ring : guard.evictionRing with _ | ⟨oldest, rest⟩
      · rw [ring] at full
        exact absurd full (by decide)
      · have evicted := evict known oldest rest ring full
        rw [ring] at full
        simp only [ge_iff_le, full, if_true]
        exact evicted
    · rw [if_neg full]
      exact room known (Nat.lt_of_not_le full)

/-- The notifications of which this holds are dismissed, and their hashes are gone. The
    ring has nothing to do with it. -/
structure Silenced (which : NotificationKey → Bool) (guard after : NotificationGuard) : Prop where
  ring : after.evictionRing = guard.evictionRing
  states : ∀ key, after.states.lookup key =
    if which key then (guard.states.lookup key).map fun _ => .dismissed else guard.states.lookup key
  seen : ∀ key, after.seenHashes.lookup key = if which key then none else guard.seenHashes.lookup key

theorem silenced_recordDismissed (guard : NotificationGuard) (originHex notificationId : String) :
    Silenced (fun key => key = (originHex, notificationId)) guard
      (guard.recordDismissed originHex notificationId) := by
  refine ⟨rfl, fun key => ?_, fun key => ?_⟩
  · by_cases own : key = (originHex, notificationId)
    · subst own
      simp [recordDismissed, AList.lookup_modify]
    · simp [recordDismissed, AList.lookup_modify_ne, own]
  · by_cases own : key = (originHex, notificationId)
    · subst own
      simp [recordDismissed]
    · simp [recordDismissed, own]

theorem silenced_recordClearAll (guard : NotificationGuard) (originHex : String) :
    Silenced (fun key => key.1 = originHex) guard (guard.recordClearAll originHex) := by
  refine ⟨rfl, fun key => ?_, fun key => ?_⟩
  · rw [recordClearAll, AList.lookup_mapValues]
    by_cases own : key.1 = originHex
    · simp [own]
    · simp [own]
  · rw [recordClearAll, AList.lookup_retain]
    by_cases own : key.1 = originHex
    · simp [own]
    · simp [own]

theorem isDismissed_eq_true {originHex notificationId : String} :
    guard.isDismissed originHex notificationId = true ↔
      guard.states.lookup (originHex, notificationId) = some .dismissed := by
  rw [isDismissed]
  cases guard.states.lookup (originHex, notificationId) <;> simp

end Effects

/-- The guard holds what is in the book. -/
structure Refines (guard : NotificationGuard) (book : Book) : Prop where
  ring : guard.evictionRing = book.ring
  seen : ∀ key, guard.seenHashes.lookup key = (book.mark key).bind Mark.hash?
  states : ∀ key, guard.states.lookup key = (book.mark key).map Mark.state

theorem refines_new : Refines new .empty := ⟨rfl, fun _ => rfl, fun _ => rfl⟩

namespace Refines

variable (refines : guard.Refines book)

include refines

theorem isDuplicate_iff (entry : NotificationEntry) :
    guard.isDuplicate blake3 entry = true ↔
      book.mark (key entry) = some (.live (entry.computeHash blake3)) := by
  rw [isDuplicate, refines.seen]
  rcases book.mark (key entry) with _ | hash | _
  · simp
  · simp [Mark.hash?]
  · simp [Mark.hash?]

theorem isDismissed_iff (originHex notificationId : String) :
    guard.isDismissed originHex notificationId = true ↔
      book.mark (originHex, notificationId) = some .dismissed := by
  rw [isDismissed_eq_true, refines.states]
  rcases book.mark (originHex, notificationId) with _ | hash | _
  · simp
  · simp [Mark.state]
  · simp [Mark.state]

theorem mem_seenHashes (key : NotificationKey) :
    key ∈ guard.seenHashes ↔ ∃ hash, book.mark key = some (.live hash) := by
  rw [← AList.lookup_isSome, refines.seen]
  rcases book.mark key with _ | hash | _
  · simp
  · simp [Mark.hash?]
  · simp [Mark.hash?]

variable (blake3) in
/-- Both maps lose what the book forgets and take in the new notification. -/
theorem insert (entry : NotificationEntry) (seen : AList fun _ : NotificationKey => FixedBytes 32)
    (states : AList fun _ : NotificationKey => NotificationState)
    (seenKept : ∀ key', seen.lookup key' =
      if book.forgotten (key entry) = some key' then none else guard.seenHashes.lookup key')
    (statesKept : ∀ key', states.lookup key' =
      if book.forgotten (key entry) = some key' then none else guard.states.lookup key') :
    Refines
      { seenHashes := seen.insert (key entry) (entry.computeHash blake3)
        evictionRing := Recent.push ringCapacity book.ring (key entry)
        states := states.insert (key entry) .active }
      (book.post (key entry) (entry.computeHash blake3)) := by
  refine ⟨rfl, fun other => ?_, fun other => ?_⟩
  · by_cases own : other = key entry
    · subst own
      rw [AList.lookup_insert, Book.post_mark_self]
      rfl
    · rw [AList.lookup_insert_ne own, seenKept, refines.seen, Book.post]
      dsimp only
      rw [if_neg own]
      split <;> rfl
  · by_cases own : other = key entry
    · subst own
      rw [AList.lookup_insert, Book.post_mark_self]
      rfl
    · rw [AList.lookup_insert_ne own, statesKept, refines.states, Book.post]
      dsimp only
      rw [if_neg own]
      split <;> rfl

/-- The engine never notes a post of a dismissed notification: its key would be put into
    the ring a second time. -/
theorem recordPosted {entry : NotificationEntry} (standing : book.mark (key entry) ≠ some .dismissed) :
    (guard.recordPosted blake3 entry).Refines
      (book.post (key entry) (entry.computeHash blake3)) := by
  have unknown (new : key entry ∉ guard.seenHashes) : key entry ∉ book.ring := by
    rw [book.tracked, refines.mem_seenHashes] at *
    rcases mark : book.mark (key entry) with _ | hash | _
    · simp
    · exact absurd ⟨hash, mark⟩ new
    · exact absurd mark standing
  refine recordPosted_cases (motive := fun after => after.Refines _) entry ?_ ?_ ?_
  · -- an update: the ring stays as it is
    intro known
    obtain ⟨old, live⟩ := (refines.mem_seenHashes _).mp known
    have inRing : key entry ∈ book.ring := (book.tracked _).mpr (by simp [live])
    have all : book.forgotten (key entry) = none := Recent.forgotten_of_mem inRing
    have inserted := refines.insert blake3 entry guard.seenHashes guard.states (by simp [all]) (by simp [all])
    rwa [Recent.push_of_mem inRing, ← refines.ring] at inserted
  · intro new room
    rw [refines.ring] at room
    have pushed : Recent.push ringCapacity book.ring (key entry) = _ := Recent.push_of_not_mem (unknown new)
    have all : book.forgotten (key entry) = none := Recent.forgotten_of_room room
    have inserted := refines.insert blake3 entry guard.seenHashes guard.states (by simp [all]) (by simp [all])
    rwa [pushed, if_neg (Nat.not_le_of_lt room), ← refines.ring] at inserted
  · intro new oldest rest ring full
    rw [refines.ring] at ring full
    have pushed : Recent.push ringCapacity book.ring (key entry) = _ := Recent.push_of_not_mem (unknown new)
    have gone : book.forgotten (key entry) = some oldest := by
      rw [Book.forgotten, Recent.forgotten, if_neg (unknown new), if_pos full, ring]
      rfl
    have inserted := refines.insert blake3 entry (guard.seenHashes.erase oldest)
      (guard.states.erase oldest) (erased gone) (erased gone)
    rwa [pushed, if_pos full, ring] at inserted
where
  erased {β : Type} {table : AList fun _ : NotificationKey => β} {k oldest : NotificationKey}
      (gone : book.forgotten k = some oldest) (key' : NotificationKey) :
      (table.erase oldest).lookup key' =
        if book.forgotten k = some key' then none else table.lookup key' := by
    rw [gone]
    by_cases same : oldest = key'
    · subst same
      simp
    · rw [if_neg (by simpa using same), AList.lookup_erase_ne (Ne.symm same)]

theorem silence {which : NotificationKey → Bool} {after : NotificationGuard}
    (silenced : Silenced which guard after) : after.Refines (book.dismiss which) := by
  refine ⟨silenced.ring.trans refines.ring, fun key => ?_, fun key => ?_⟩
  · rw [silenced.seen, refines.seen, Book.dismiss]
    dsimp only
    cases which key with
    | true => cases book.mark key <;> rfl
    | false => rfl
  · rw [silenced.states, refines.states, Book.dismiss]
    dsimp only
    cases which key with
    | true => cases book.mark key <;> rfl
    | false => rfl

theorem recordDismissed (originHex notificationId : String) :
    (guard.recordDismissed originHex notificationId).Refines
      (book.dismiss fun key => key = (originHex, notificationId)) :=
  refines.silence (silenced_recordDismissed guard originHex notificationId)

theorem recordClearAll (originHex : String) :
    (guard.recordClearAll originHex).Refines (book.dismiss fun key => key.1 = originHex) :=
  refines.silence (silenced_recordClearAll guard originHex)

end Refines

end NotificationGuard

section Messages

variable (blake3 : Bytes → FixedBytes 32) (lowercase : String → String) (policy : NotificationPolicy)

namespace Book

/-- A post is noted unless it is blocked or the book has it as dismissed. One that the
    book has with the same hash is not noted again, which would change nothing. -/
def Takes (book : Book) (entry : NotificationEntry) : Prop :=
  policy.shouldBlock lowercase entry = false ∧
    book.mark entry.key ≠ some (.live (entry.computeHash blake3)) ∧
    book.mark entry.key ≠ some .dismissed

instance (book : Book) (entry : NotificationEntry) : Decidable (book.Takes blake3 lowercase policy entry) :=
  inferInstanceAs (Decidable (_ ∧ _))

variable {blake3 lowercase policy} in
/-- What the book does not have, it takes if policy does. -/
theorem takes_of_unknown {book : Book} {entry : NotificationEntry}
    (allowed : policy.shouldBlock lowercase entry = false)
    (unknown : book.mark entry.key = none) :
    book.Takes blake3 lowercase policy entry := by
  rw [Takes, unknown]
  exact ⟨allowed, by simp, by simp⟩

/-- What is in the book after a message. -/
def handle (book : Book) : NotificationMessage → Book
  | .post posted =>
      let entry := posted.enforceSizeLimits blake3
      if book.Takes blake3 lowercase policy entry then
        book.post entry.key (entry.computeHash blake3)
      else book
  | .dismiss origin notificationId _ => book.dismiss fun key => key = (origin.toHex, notificationId)
  | .clearAll origin _ => book.dismiss fun key => key.1 = origin.toHex
  | .actionInvoked origin notificationId _ action =>
      if action = .dismiss then book.dismiss fun key => key = (origin.toHex, notificationId) else book

end Book

namespace NotificationSyncEngine

variable {blake3 lowercase} {engine : NotificationSyncEngine} {book : Book} {posted : NotificationEntry}

theorem handlePost_of_takes (refines : engine.guard.Refines book)
    (takes : book.Takes blake3 lowercase engine.policy (posted.enforceSizeLimits blake3)) :
    engine.handlePost blake3 lowercase posted =
      ({ engine with
        guard := engine.guard.recordPosted blake3 (posted.enforceSizeLimits blake3)
        active := engine.active.store (posted.enforceSizeLimits blake3).origin.toHex
          (posted.enforceSizeLimits blake3) }, [.received (posted.enforceSizeLimits blake3)]) := by
  obtain ⟨allowed, fresh, standing⟩ := takes
  rw [handlePost, if_neg (by simp [allowed]), if_neg (mt (refines.isDuplicate_iff _).mp fresh),
    if_neg (mt (refines.isDismissed_iff _ _).mp standing)]

/-- A post that is not taken changes nothing. -/
theorem handlePost_of_not_takes (refines : engine.guard.Refines book)
    (declines : ¬ book.Takes blake3 lowercase engine.policy (posted.enforceSizeLimits blake3)) :
    engine.handlePost blake3 lowercase posted =
      (engine, if engine.policy.shouldBlock lowercase (posted.enforceSizeLimits blake3) then
        [.policyBlocked (posted.enforceSizeLimits blake3).appId
          (posted.enforceSizeLimits blake3).notificationId] else []) := by
  rw [handlePost]
  by_cases blocked : engine.policy.shouldBlock lowercase (posted.enforceSizeLimits blake3) = true
  · rw [if_pos blocked, if_pos blocked]
  · rw [if_neg blocked, if_neg blocked]
    by_cases duplicate : engine.guard.isDuplicate blake3 (posted.enforceSizeLimits blake3) = true
    · rw [if_pos duplicate]
    · rw [if_neg duplicate]
      by_cases dismissed : engine.guard.isDismissed (posted.enforceSizeLimits blake3).origin.toHex
          (posted.enforceSizeLimits blake3).notificationId = true
      · rw [if_pos dismissed]
      · exact absurd ⟨Bool.not_eq_true _ ▸ blocked, mt (refines.isDuplicate_iff _).mpr duplicate,
          mt (refines.isDismissed_iff _ _).mpr dismissed⟩ declines

variable (blake3 lowercase) in
theorem policy_handleMessage (engine : NotificationSyncEngine) (message : NotificationMessage) :
    (engine.handleMessage blake3 lowercase message).1.policy = engine.policy := by
  cases message with
  | post posted =>
      rw [handleMessage, handlePost]
      split
      · rfl
      · split
        · rfl
        · split <;> rfl
  | dismiss => rfl
  | clearAll => rfl
  | actionInvoked =>
      rw [handleMessage]
      dsimp only
      split <;> rfl

variable (blake3 lowercase) in
/-- The engine keeps its guard by the book. -/
theorem refines_handleMessage (refines : engine.guard.Refines book) (message : NotificationMessage) :
    (engine.handleMessage blake3 lowercase message).1.guard.Refines
      (book.handle blake3 lowercase engine.policy message) := by
  cases message with
  | post posted =>
      rw [handleMessage, Book.handle]
      by_cases takes : book.Takes blake3 lowercase engine.policy (posted.enforceSizeLimits blake3)
      · rw [handlePost_of_takes refines takes, if_pos takes]
        exact refines.recordPosted takes.2.2
      · rw [handlePost_of_not_takes refines takes, if_neg takes]
        exact refines
  | dismiss origin notificationId _ => exact refines.recordDismissed ..
  | clearAll origin _ => exact refines.recordClearAll _
  | actionInvoked origin notificationId _ action =>
      rw [handleMessage, Book.handle]
      dsimp only
      split
      · exact refines.recordDismissed ..
      · exact refines

end NotificationSyncEngine

end Messages

end BridgeOS.Notifications
