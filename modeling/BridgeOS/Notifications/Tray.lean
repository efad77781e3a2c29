import BridgeOS.Notifications.Ceiling
import BridgeOS.Notifications.Mirror
import Mathlib.Data.Finset.Card
import Mathlib.Data.List.Induction

/-! # What a mirror shows

Devices forward what their users see, as far as policy lets it out: a notification is posted,
changed, taken away, and now and then all of them are. The tray of a device is what is left of
what it has forwarded. A mirror that gets the messages of all devices, those of each in order, has
these trays before it, as long as no device forwards a post of an id that it has taken away or
one that changes nothing that is hashed, and there have not been more than 256 notifications in all.
-/

namespace BridgeOS.Notifications

section Trays

/-- The latest post of each notification that has not been taken away, in the order of the posts. -/
def showing (tray : List NotificationEntry) : NotificationMessage → List NotificationEntry
  | .post entry => (tray.filter fun e => e.notificationId ≠ entry.notificationId) ++ [entry]
  | .dismiss _ notificationId _ => tray.filter fun e => e.notificationId ≠ notificationId
  | .clearAll _ _ => []
  | .actionInvoked .. => tray

def tray (messages : List NotificationMessage) : List NotificationEntry := messages.foldl showing []

theorem tray_snoc (messages : List NotificationMessage) (message : NotificationMessage) :
    tray (messages ++ [message]) = showing (tray messages) message := List.foldl_append

def postedKey? : NotificationMessage → Option NotificationKey
  | .post entry => some entry.key
  | _ => none

/-- The notifications that have been posted. -/
def keys (messages : List NotificationMessage) : Finset NotificationKey :=
  (messages.filterMap postedKey?).toFinset

theorem mem_keys {messages : List NotificationMessage} {key : NotificationKey} :
    key ∈ keys messages ↔ ∃ entry, .post entry ∈ messages ∧ entry.key = key := by
  simp only [keys, List.mem_toFinset, List.mem_filterMap]
  constructor
  · rintro ⟨message, listed, posted⟩
    cases message with
    | post entry => exact ⟨entry, listed, Option.some.inj posted⟩
    | _ => cases posted
  · rintro ⟨entry, listed, rfl⟩
    exact ⟨_, listed, rfl⟩

theorem keys_mono {messages more : List NotificationMessage} (inside : messages ⊆ more) :
    keys messages ⊆ keys more := by
  intro key known
  obtain ⟨entry, listed, same⟩ := mem_keys.mp known
  exact mem_keys.mpr ⟨entry, inside listed, same⟩

variable {entry : NotificationEntry} {device : NodeId} {message : NotificationMessage}

theorem mem_keys_post {messages : List NotificationMessage} {key : NotificationKey} :
    key ∈ keys (messages ++ [.post entry]) ↔ key ∈ keys messages ∨ key = entry.key := by
  simp [keys, List.filterMap_append, postedKey?, or_comm]

/-- The messages of one device. -/
def messagesOf (device : NodeId) (messages : List NotificationMessage) : List NotificationMessage :=
  messages.filter fun message => message.origin = device

theorem messagesOf_snoc_own (messages : List NotificationMessage) (message : NotificationMessage)
    (own : message.origin = device) :
    messagesOf device (messages ++ [message]) = messagesOf device messages ++ [message] := by
  simp [messagesOf, own]

theorem messagesOf_snoc_other (other : device ≠ message.origin) (messages : List NotificationMessage) :
    messagesOf device (messages ++ [message]) = messagesOf device messages := by
  simp [messagesOf, other.symm]

theorem mem_keys_messagesOf {messages : List NotificationMessage} {id : String} :
    (device.toHex, id) ∈ keys (messagesOf device messages) ↔ (device.toHex, id) ∈ keys messages := by
  simp only [mem_keys, messagesOf, List.mem_filter, decide_eq_true_eq]
  constructor
  · rintro ⟨entry, ⟨listed, -⟩, same⟩
    exact ⟨entry, listed, same⟩
  · rintro ⟨entry, listed, same⟩
    exact ⟨entry, ⟨listed, NodeId.toHex_injective (Prod.mk.inj same).1⟩, same⟩

/-- The device has never posted the id, or shows it with another hash. A title and a text that are
    only divided differently have the same one. -/
def Timely (blake3 : Bytes → FixedBytes 32) (before : List NotificationMessage) (entry : NotificationEntry) : Prop :=
  entry.key ∉ keys before ∨ ∃ old ∈ tray before, old.notificationId = entry.notificationId ∧
    old.computeHash blake3 ≠ entry.computeHash blake3

/-- No id is used again once it has been taken away, nor posted again with the hash that is shown. -/
def Proper (blake3 : Bytes → FixedBytes 32) (messages : List NotificationMessage) : Prop :=
  ∀ before entry after, messages = before ++ .post entry :: after → Timely blake3 before entry

theorem Proper.of_append {blake3 : Bytes → FixedBytes 32} {before after : List NotificationMessage}
    (proper : Proper blake3 (before ++ after)) : Proper blake3 before := by
  intro earlier entry later split
  exact proper earlier entry (later ++ after) (by simp [split])

end Trays

section Mirroring

variable {blake3 : Bytes → FixedBytes 32} {lowercase : String → String} {policy : NotificationPolicy}
  {engine : NotificationSyncEngine} {book : Book} {messages : List NotificationMessage}

open NotificationSyncEngine

/-- What is kept of a device after these messages of it: what is in its tray is live, what it has
    taken away is dismissed, and the bucket shows the tray. -/
structure Follows (blake3 : Bytes → FixedBytes 32) (hex : String) (mark : NotificationKey → Option Mark)
    (bucket : List NotificationEntry) (messages : List NotificationMessage) : Prop where
  live : ∀ e ∈ tray messages, mark (hex, e.notificationId) = some (.live (e.computeHash blake3))
  gone : ∀ id, (hex, id) ∈ keys messages → (∀ e ∈ tray messages, e.notificationId ≠ id) →
    mark (hex, id) = some .dismissed
  stored : ∀ e ∈ bucket, (hex, e.notificationId) ∈ keys messages
  shown : bucket.filter (fun e => e.state = .active) = tray messages

/-- After these messages, the engine follows every device, and its book has nothing but what was posted. -/
structure Mirrored (blake3 : Bytes → FixedBytes 32) (lowercase : String → String) (engine : NotificationSyncEngine)
    (book : Book) (messages : List NotificationMessage) : Prop where
  kept : Kept blake3 lowercase engine book
  ring : ∀ key ∈ book.ring, key ∈ keys messages
  follows : ∀ device : NodeId,
    Follows blake3 device.toHex book.mark (engine.active.bucket device.toHex) (messagesOf device messages)

theorem mirrored_new (localNodeId : NodeId) : Mirrored blake3 lowercase (new localNodeId policy) .empty [] where
  kept := kept_new localNodeId policy
  ring _ listed := absurd listed List.not_mem_nil
  follows _ := ⟨by simp [messagesOf, tray], by simp [messagesOf, keys], fun _ listed => absurd listed List.not_mem_nil,
    rfl⟩

/-- A message as `build_post`, `build_dismiss` and `build_clear_all` make it. -/
def Forwarded (blake3 : Bytes → FixedBytes 32) (lowercase : String → String) (policy : NotificationPolicy) :
    NotificationMessage → Prop
  | .post entry => policy.shouldBlock lowercase entry = false ∧ entry.enforceSizeLimits blake3 = entry ∧
      entry.state = .active
  | .dismiss .. => True
  | .clearAll .. => True
  | .actionInvoked .. => False

theorem filter_dismissed (hit : String → Bool) (bucket : List NotificationEntry) :
    (bucket.map fun e => if hit e.notificationId then { e with state := .dismissed } else e).filter
        (fun e => e.state = .active) =
      (bucket.filter fun e => e.state = .active).filter fun e => !hit e.notificationId := by
  induction bucket with
  | nil => rfl
  | cons e bucket ih =>
      by_cases struck : hit e.notificationId = true
      · by_cases active : e.state = .active <;> simp [struck, active, ih]
      · by_cases active : e.state = .active <;> simp [struck, active, ih]

namespace Follows

variable {hex : String} {mark mark' : NotificationKey → Option Mark} {bucket : List NotificationEntry}

/-- What happens to other devices does not matter. -/
theorem of_marks (follows : Follows blake3 hex mark bucket messages)
    (same : ∀ id, mark' (hex, id) = mark (hex, id)) : Follows blake3 hex mark' bucket messages where
  live e listed := (same _).trans (follows.live e listed)
  gone id known away := (same id).trans (follows.gone id known away)
  stored := follows.stored
  shown := follows.shown

/-- What is posted goes to the end of the tray. -/
theorem post (follows : Follows blake3 hex mark bucket messages)
    (named : entry.key = (hex, entry.notificationId)) (active : entry.state = .active)
    (posted : mark' (hex, entry.notificationId) = some (.live (entry.computeHash blake3)))
    (others : ∀ id, id ≠ entry.notificationId → mark' (hex, id) = mark (hex, id)) :
    Follows blake3 hex mark' ((bucket.filter fun e => e.notificationId ≠ entry.notificationId) ++ [entry])
      (messages ++ [.post entry]) where
  live e listed := by
    rw [tray_snoc] at listed
    rcases List.mem_append.mp listed with old | new
    · obtain ⟨old, apart⟩ := List.mem_filter.mp old
      rw [others _ (by simpa using apart)]
      exact follows.live e old
    · rw [List.mem_singleton.mp new]
      exact posted
  gone id known away := by
    rw [tray_snoc] at away
    have apart : id ≠ entry.notificationId := (away entry (by simp [showing])).symm
    rw [mem_keys_post, named] at known
    rw [others id apart]
    refine follows.gone id (known.resolve_right fun same => apart (Prod.mk.inj same).2) fun e listed same => ?_
    exact away e (by simp [showing, listed, same, apart]) same
  stored e listed := by
    rw [mem_keys_post, named]
    rcases List.mem_append.mp listed with old | new
    · exact .inl (follows.stored e (List.mem_filter.mp old).1)
    · rw [List.mem_singleton.mp new]
      exact .inr rfl
  shown := by
    rw [tray_snoc, showing, ← follows.shown, List.filter_append, List.filter_filter, List.filter_filter]
    simp [active, Bool.and_comm]

/-- What is taken away leaves the tray and is dismissed. -/
theorem dismiss (follows : Follows blake3 hex mark bucket messages) (hit : String → Bool)
    (silent : postedKey? message = none)
    (left : ∀ shown, showing shown message = shown.filter fun e => !hit e.notificationId)
    (struck : ∀ id, hit id = true → mark (hex, id) ≠ none → mark' (hex, id) = some .dismissed)
    (spared : ∀ id, hit id = false → mark' (hex, id) = mark (hex, id)) :
    Follows blake3 hex mark' (bucket.map fun e => if hit e.notificationId then { e with state := .dismissed } else e)
      (messages ++ [message]) := by
  have keys' : keys (messages ++ [message]) = keys messages := by simp [keys, List.filterMap_append, silent]
  refine ⟨fun e listed => ?_, fun id known away => ?_, fun e listed => ?_, ?_⟩
  · rw [tray_snoc, left] at listed
    obtain ⟨listed, passed⟩ := List.mem_filter.mp listed
    rw [spared _ (by simpa using passed)]
    exact follows.live e listed
  · rw [keys'] at known
    rw [tray_snoc, left] at away
    cases away' : hit id with
    | false =>
        rw [spared id away']
        refine follows.gone id known fun e listed named => ?_
        exact away e (List.mem_filter.mpr ⟨listed, by simp [named, away']⟩) named
    | true =>
        refine struck id away' fun unknown => ?_
        by_cases shown : ∃ e ∈ tray messages, e.notificationId = id
        · obtain ⟨e, listed, rfl⟩ := shown
          cases unknown.symm.trans (follows.live e listed)
        · cases unknown.symm.trans (follows.gone id known fun e listed named => shown ⟨e, listed, named⟩)
  · rw [keys']
    obtain ⟨old, stored, rfl⟩ := List.mem_map.mp listed
    split
    · exact follows.stored old stored
    · exact follows.stored old stored
  · rw [tray_snoc, left, ← follows.shown]
    exact filter_dismissed hit bucket

end Follows

namespace Mirrored

variable (mirrored : Mirrored blake3 lowercase engine book messages)

include mirrored

/-- A timely post is neither a duplicate nor dismissed. -/
theorem takes (allowed : engine.policy.shouldBlock lowercase entry = false)
    (timely : Timely blake3 (messagesOf entry.origin messages) entry) :
    book.Takes blake3 lowercase engine.policy entry := by
  rcases timely with unknown | ⟨old, listed, named, changed⟩
  · refine Book.takes_of_unknown allowed (Book.mark_eq_none.mpr fun known => unknown ?_)
    exact mem_keys_messagesOf.mpr (mirrored.ring _ known)
  · have marked := (mirrored.follows entry.origin).live old listed
    rw [named] at marked
    have found : book.mark entry.key = _ := marked
    refine ⟨allowed, ?_, ?_⟩
    · rw [found]
      simpa using changed
    · rw [found]
      simp

/-- Nothing is forgotten for a notification among the first 256. -/
theorem forgotten_eq_none (few : (keys (messages ++ [.post entry])).card ≤ ringCapacity) :
    book.forgotten entry.key = none := by
  by_cases known : entry.key ∈ book.ring
  · exact Recent.forgotten_of_mem known
  · apply Recent.forgotten_of_room
    have inside : (entry.key :: book.ring).toFinset ⊆ keys (messages ++ [.post entry]) := by
      intro key listed
      rw [mem_keys_post]
      rcases List.mem_cons.mp (List.mem_toFinset.mp listed) with same | old
      · exact .inr same
      · exact .inl (mirrored.ring key old)
    have count := Finset.card_le_card inside
    rw [List.toFinset_card_of_nodup (List.nodup_cons.mpr ⟨known, book.distinct⟩), List.length_cons] at count
    omega

/-- And the bucket of its device has room. -/
theorem bucket_store (few : (keys (messages ++ [.post entry])).card ≤ ringCapacity) :
    (engine.active.store entry.origin.toHex entry).bucket entry.origin.toHex =
      ((engine.active.bucket entry.origin.toHex).filter fun e => e.notificationId ≠ entry.notificationId) ++
        [entry] := by
  rw [ActiveRing.bucket_store]
  refine if_neg (Nat.not_lt_of_le ?_)
  have distinct := (ActiveRing.nodup_replaced (mirrored.kept.distinct entry.origin.toHex) entry).map
    (Prod.mk_right_injective entry.origin.toHex)
  have count := List.toFinset_card_of_nodup distinct
  rw [List.length_map, List.length_map] at count
  rw [← count]
  refine (Finset.card_le_card fun key listed => ?_).trans few
  obtain ⟨id, named, rfl⟩ := List.mem_map.mp (List.mem_toFinset.mp listed)
  obtain ⟨e, inside, rfl⟩ := List.mem_map.mp named
  rw [mem_keys_post]
  rcases List.mem_append.mp inside with old | new
  · exact .inl (mem_keys_messagesOf.mp ((mirrored.follows entry.origin).stored e (List.mem_filter.mp old).1))
  · rw [List.mem_singleton.mp new]
    exact .inr rfl

theorem post (ruled : engine.policy = policy) (forwarded : Forwarded blake3 lowercase policy (.post entry))
    (timely : Timely blake3 (messagesOf entry.origin messages) entry)
    (few : (keys (messages ++ [.post entry])).card ≤ ringCapacity) :
    Mirrored blake3 lowercase (engine.handleMessage blake3 lowercase (.post entry)).1
      (book.handle blake3 lowercase engine.policy (.post entry)) (messages ++ [.post entry]) := by
  obtain ⟨allowed, limited, active⟩ := forwarded
  rw [← ruled] at allowed
  have takes := mirrored.takes allowed timely
  have kept := mirrored.kept.handleMessage (.post entry)
  have room := mirrored.forgotten_eq_none few
  have handled : (engine.handleMessage blake3 lowercase (.post entry)).1.active =
      engine.active.store entry.origin.toHex entry := by
    rw [← limited] at takes
    rw [NotificationSyncEngine.handleMessage, handlePost_of_takes mirrored.kept.refines takes, limited]
  have marked : book.handle blake3 lowercase engine.policy (.post entry) =
      book.post entry.key (entry.computeHash blake3) := by
    simp only [Book.handle, limited, if_pos takes]
  have others : ∀ key, key ≠ entry.key →
      (book.post entry.key (entry.computeHash blake3)).mark key = book.mark key :=
    fun key apart => Book.post_mark_ne book _ _ apart (by simp [room])
  rw [marked] at kept ⊢
  refine ⟨kept, fun key listed => ?_, fun device => ?_⟩
  · rw [mem_keys_post]
    exact (Recent.mem_of_mem_push listed).imp_left (mirrored.ring key)
  · rw [handled]
    by_cases own : device = entry.origin
    · subst own
      have own : messagesOf entry.origin (messages ++ [.post entry]) = _ :=
        messagesOf_snoc_own messages (.post entry) rfl
      rw [mirrored.bucket_store few, own]
      refine (mirrored.follows entry.origin).post rfl active (Book.post_mark_self ..) fun id apart => others _ ?_
      exact fun same => apart (Prod.mk.inj same).2
    · rw [ActiveRing.bucket_store_ne fun same => own (NodeId.toHex_injective same), messagesOf_snoc_other own]
      refine (mirrored.follows device).of_marks fun id => others _ ?_
      exact fun same => own (NodeId.toHex_injective (Prod.mk.inj same).1)

theorem dismiss {guard : NotificationGuard}
    {which : NotificationKey → Bool} (hit : String → Bool) (refines : guard.Refines (book.dismiss which))
    (own : message.origin = device) (silent : postedKey? message = none)
    (left : ∀ shown, showing shown message = shown.filter fun e => !hit e.notificationId)
    (hits : ∀ id, which (device.toHex, id) = hit id)
    (spares : ∀ other : NodeId, other ≠ device → ∀ id, which (other.toHex, id) = false) :
    Mirrored blake3 lowercase
      { engine with guard, active := engine.active.dismissWhere device.toHex fun e => hit e.notificationId }
      (book.dismiss which) (messages ++ [message]) := by
  refine ⟨mirrored.kept.dismiss refines _ _, fun key listed => ?_, fun other => ?_⟩
  · exact keys_mono (List.subset_append_left ..) (mirrored.ring key listed)
  · by_cases same : other = device
    · subst same
      rw [messagesOf_snoc_own messages message own, ActiveRing.bucket_dismissWhere]
      refine (mirrored.follows other).dismiss hit silent left (fun id struck known => ?_) fun id spared => ?_
      · obtain ⟨mark, found⟩ := Option.ne_none_iff_exists'.mp known
        simp [Book.dismiss, hits, struck, found]
      · exact Book.dismiss_mark_of_spared book ((hits id).trans spared)
    · rw [messagesOf_snoc_other (own ▸ same),
        ActiveRing.bucket_dismissWhere_ne _ _ fun hex => same (NodeId.toHex_injective hex)]
      exact (mirrored.follows other).of_marks fun id => Book.dismiss_mark_of_spared book (spares other same id)

/-- One message of a device. -/
theorem handle (ruled : engine.policy = policy) (forwarded : Forwarded blake3 lowercase policy message)
    (proper : Proper blake3 (messagesOf message.origin (messages ++ [message])))
    (few : (keys (messages ++ [message])).card ≤ ringCapacity) :
    Mirrored blake3 lowercase (engine.handleMessage blake3 lowercase message).1
      (book.handle blake3 lowercase engine.policy message) (messages ++ [message]) := by
  have refines := refines_handleMessage blake3 lowercase mirrored.kept.refines message
  cases message with
  | post entry =>
      exact mirrored.post ruled forwarded (proper _ entry [] (messagesOf_snoc_own messages (.post entry) rfl)) few
  | dismiss origin id sequence =>
      refine mirrored.dismiss (fun other => other = id) refines rfl rfl (fun shown => ?_) ?_ ?_
      · simp [showing]
      · simp
      · intro other apart id'
        simpa using fun same => absurd (NodeId.toHex_injective same) apart
  | clearAll origin sequence =>
      refine mirrored.dismiss (fun _ => true) refines rfl rfl (fun shown => ?_) ?_ ?_
      · simp [showing]
      · simp
      · intro other apart id'
        simpa using fun same => absurd (NodeId.toHex_injective same) apart
  | actionInvoked origin id sequence action => exact forwarded.elim

end Mirrored

/-- A mirror that has handled proper messages of any devices, in any order between the devices. -/
theorem exists_mirrored (localNodeId : NodeId)
    (forwarded : ∀ message ∈ messages, Forwarded blake3 lowercase policy message)
    (proper : ∀ device, Proper blake3 (messagesOf device messages)) (few : (keys messages).card ≤ ringCapacity) :
    ((new localNodeId policy).handleAll blake3 lowercase messages).policy = policy ∧ ∃ book,
      Mirrored blake3 lowercase ((new localNodeId policy).handleAll blake3 lowercase messages) book messages := by
  induction messages using List.reverseRecOn with
  | nil => exact ⟨rfl, .empty, mirrored_new localNodeId⟩
  | append_singleton messages message ih =>
      have earlier : ∀ device, Proper blake3 (messagesOf device messages) := by
        intro device
        have whole := proper device
        rw [messagesOf, List.filter_append] at whole
        exact whole.of_append
      obtain ⟨ruled, book, mirrored⟩ := ih (fun m listed => forwarded m (List.mem_append_left _ listed)) earlier
        ((Finset.card_le_card (keys_mono (List.subset_append_left ..))).trans few)
      rw [handleAll, List.foldl_append]
      have next := mirrored.handle ruled (forwarded message (by simp)) (proper message.origin) few
      exact ⟨(policy_handleMessage ..).trans ruled, _, next⟩

end Mirroring

section Devices

variable (blake3 : Bytes → FixedBytes 32) (lowercase : String → String)

open NotificationSyncEngine

/-- What an operating system reports of its own notifications. -/
inductive Operation where
  | post (postedAtMs : UInt64) (notificationId appId appName title text : String) (urgency : NotificationUrgency)
  | dismiss (notificationId : String)
  | clearAll

namespace NotificationSyncEngine

/-- The message for it, if policy lets it out. -/
def forward (engine : NotificationSyncEngine) : Operation → Option NotificationMessage × NotificationSyncEngine
  | .post postedAtMs notificationId appId appName title text urgency =>
      engine.buildPost blake3 lowercase postedAtMs notificationId appId appName title text urgency
  | .dismiss notificationId => ((engine.buildDismiss notificationId).1, (engine.buildDismiss notificationId).2)
  | .clearAll => (engine.buildClearAll.1, engine.buildClearAll.2)

def forwardAll (engine : NotificationSyncEngine) : List Operation → List NotificationMessage
  | [] => []
  | operation :: rest =>
      (engine.forward blake3 lowercase operation).1.toList ++
        forwardAll (engine.forward blake3 lowercase operation).2 rest

end NotificationSyncEngine

/-- What a mirror gets from several devices. -/
def gathered (engines : NodeId → NotificationSyncEngine) : List (NodeId × Operation) → List NotificationMessage
  | [] => []
  | (device, operation) :: rest =>
      ((engines device).forward blake3 lowercase operation).1.toList ++
        gathered (Function.update engines device ((engines device).forward blake3 lowercase operation).2) rest

/-- The operations of one device. -/
def operationsOf (device : NodeId) (script : List (NodeId × Operation)) : List Operation :=
  script.filterMap fun step => if step.1 = device then some step.2 else none

variable {blake3 lowercase}

theorem forward_spec (engine : NotificationSyncEngine) (operation : Operation) :
    (engine.forward blake3 lowercase operation).2 = { engine with localSequence := engine.localSequence + 1 } ∧
      ∀ message ∈ (engine.forward blake3 lowercase operation).1,
        message.origin = engine.localNodeId ∧ Forwarded blake3 lowercase engine.policy message := by
  cases operation with
  | dismiss | clearAll =>
      refine ⟨rfl, ?_⟩
      rintro message ⟨⟩
      exact ⟨rfl, trivial⟩
  | post postedAtMs notificationId appId appName title text urgency =>
      refine ⟨buildPost_snd .., fun message built => ?_⟩
      rw [NotificationSyncEngine.forward, buildPost_fst] at built
      dsimp only at built
      split at built
      · cases built
      · rename_i passes
        cases built
        have limits := (NotificationEntry.new engine.localNodeId (engine.localSequence + 1) postedAtMs notificationId
          appId appName title text urgency).enforceSizeLimits_eq blake3
        exact ⟨congrArg (·.origin) limits, by simpa using passes,
          NotificationEntry.enforceSizeLimits_of_limited blake3 (NotificationEntry.limited_enforceSizeLimits blake3 _),
          congrArg (·.state) limits⟩

/-- What comes from one device is what its operations make of its own engine, whatever the others do. -/
theorem messagesOf_gathered (script : List (NodeId × Operation)) {engines : NodeId → NotificationSyncEngine}
    (named : ∀ device, (engines device).localNodeId = device) (device : NodeId) :
    messagesOf device (gathered blake3 lowercase engines script) =
      (engines device).forwardAll blake3 lowercase (operationsOf device script) := by
  induction script generalizing engines with
  | nil => rfl
  | cons step rest ih =>
      obtain ⟨actor, operation⟩ := step
      have spec : _ ∧ ∀ message ∈ ((engines actor).forward blake3 lowercase operation).1, _ :=
        forward_spec (engines actor) operation
      have origin : ∀ message ∈ ((engines actor).forward blake3 lowercase operation).1.toList,
          message.origin = actor :=
        fun message sent => (spec.2 message (Option.mem_toList.mp sent)).1.trans (named actor)
      have later := ih ((Function.forall_update_iff engines fun device engine => engine.localNodeId = device).mpr
        ⟨(congrArg (·.localNodeId) spec.1).trans (named actor), fun other _ => named other⟩)
      rw [messagesOf] at later
      rw [gathered, messagesOf, List.filter_append, later]
      by_cases same : actor = device
      · subst same
        rw [List.filter_eq_self.mpr fun message sent => by simpa using origin message sent, Function.update_self]
        simp [operationsOf, NotificationSyncEngine.forwardAll]
      · rw [Function.update_of_ne (Ne.symm same), List.filter_eq_nil_iff.mpr fun message sent => ?_]
        · simp [operationsOf, same]
        · simpa [origin message sent] using same

theorem forwarded_of_mem_gathered {policy : NotificationPolicy} (script : List (NodeId × Operation))
    {engines : NodeId → NotificationSyncEngine} (ruled : ∀ device, (engines device).policy = policy) :
    ∀ message ∈ gathered blake3 lowercase engines script, Forwarded blake3 lowercase policy message := by
  induction script generalizing engines with
  | nil => simp [gathered]
  | cons step rest ih =>
      obtain ⟨actor, operation⟩ := step
      have spec : _ ∧ ∀ message ∈ ((engines actor).forward blake3 lowercase operation).1, _ :=
        forward_spec (engines actor) operation
      intro message listed
      rcases List.mem_append.mp listed with now | later
      · exact ruled actor ▸ (spec.2 message (Option.mem_toList.mp now)).2
      · exact ih ((Function.forall_update_iff engines fun _ engine => engine.policy = policy).mpr
          ⟨(congrArg (·.policy) spec.1).trans (ruled actor), fun other _ => ruled other⟩) message later

/-- Any number of devices with one policy forward what happens to their notifications, and a mirror with that policy
    gets the messages of all of them, in any order between the devices. If no device forwards a post of an id that it
    has taken away, or one with the hash that it shows already, and there have been at most 256 notifications in all,
    then the mirror's list of each device is the tray of what that device has forwarded, in its order, whatever the
    others have done. -/
theorem mirror_shows_trays (policy : NotificationPolicy) (mirror : NodeId) (script : List (NodeId × Operation))
    (proper : ∀ device : NodeId, Proper blake3
      ((new device policy).forwardAll blake3 lowercase (operationsOf device script)))
    (few : (keys (gathered blake3 lowercase (fun device => new device policy) script)).card ≤ 256) (device : NodeId) :
    ((new mirror policy).handleAll blake3 lowercase
        (gathered blake3 lowercase (fun device => new device policy) script)).activeNotifications device =
      tray ((new device policy).forwardAll blake3 lowercase (operationsOf device script)) := by
  have own : ∀ device, messagesOf device (gathered blake3 lowercase (fun device => new device policy) script) = _ :=
    messagesOf_gathered script fun _ => rfl
  have forwarded : ∀ message ∈ gathered blake3 lowercase (fun device => new device policy) script,
      Forwarded blake3 lowercase policy message := forwarded_of_mem_gathered script fun _ => rfl
  obtain ⟨-, book, mirrored⟩ := exists_mirrored mirror forwarded (fun device => own device ▸ proper device) few
  rw [activeNotifications_eq, (mirrored.follows device).shown, own]

end Devices

section Example

open NotificationSyncEngine

/-- One device posts a notification, another takes away all its own. -/
def exampleScript : List (NodeId × Operation) :=
  [(⟨.fill 32 1⟩, .post 0 "7" "com.whatsapp" "WhatsApp" "Hi" "there" .normal), (⟨.fill 32 2⟩, .clearAll)]

theorem exampleScript_gathered :
    gathered exampleHash Text.toAsciiLowercase (fun device => new device examplePolicy) exampleScript =
      [.post exampleEntry, .clearAll ⟨.fill 32 2⟩ 1] := by
  have built : ((new ⟨.fill 32 1⟩ examplePolicy).forward exampleHash Text.toAsciiLowercase
      (.post 0 "7" "com.whatsapp" "WhatsApp" "Hi" "there" .normal)).1 = some (.post exampleEntry) :=
    congrArg Prod.fst examplePost_eq
  simp only [exampleScript, gathered, built]
  rfl

theorem exampleScript_messagesOf (device : NodeId) :
    messagesOf device [.post exampleEntry, .clearAll ⟨.fill 32 2⟩ 1] =
      (new device examplePolicy).forwardAll exampleHash Text.toAsciiLowercase (operationsOf device exampleScript) := by
  rw [← exampleScript_gathered]
  exact messagesOf_gathered exampleScript (fun _ => rfl) device

theorem exampleScript_proper (device : NodeId) : Proper exampleHash
    ((new device examplePolicy).forwardAll exampleHash Text.toAsciiLowercase (operationsOf device exampleScript)) := by
  rw [← exampleScript_messagesOf]
  intro before entry after split
  left
  -- there is only one post
  have posts := ((List.filter_sublist (p := fun message => decide (NotificationMessage.origin message = device))
    (l := [.post exampleEntry, .clearAll ⟨.fill 32 2⟩ 1])).filterMap postedKey?).length_le
  rw [← messagesOf, split, List.filterMap_append, List.length_append] at posts
  have none : before.filterMap postedKey? = [] := by
    refine List.length_eq_zero_iff.mp ?_
    simp [postedKey?, List.filterMap_cons] at posts
    omega
  simp [keys, none]

theorem mirror_shows_example : (exampleStart.handleAll exampleHash Text.toAsciiLowercase
    (gathered exampleHash Text.toAsciiLowercase (fun device => new device examplePolicy)
      exampleScript)).activeNotifications ⟨.fill 32 1⟩ = [exampleEntry] := by
  have few : (keys (gathered exampleHash Text.toAsciiLowercase (fun device => new device examplePolicy)
      exampleScript)).card ≤ 256 := by
    rw [exampleScript_gathered]
    decide
  rw [exampleStart, mirror_shows_trays examplePolicy ⟨.fill 32 9⟩ exampleScript exampleScript_proper few,
    ← exampleScript_messagesOf]
  rfl

end Example

end BridgeOS.Notifications
