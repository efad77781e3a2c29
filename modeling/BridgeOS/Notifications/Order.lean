import BridgeOS.Notifications.Redelivery
import Mathlib.Data.Finset.Card
import Mathlib.Data.List.Induction
import Mathlib.Data.List.Perm.Basic

/-! # Notifications in another order

The messages carry sequence numbers that nothing consults. What is left of one
notification is decided by the order in which its messages arrive: a dismissal
that comes before the post is lost, and one that comes after it holds for good.
-/

namespace BridgeOS.Notifications

open NotificationSyncEngine

namespace NotificationMessage

def sequence : NotificationMessage → UInt64
  | .post entry => entry.sequence
  | .dismiss _ _ sequence => sequence
  | .actionInvoked _ _ sequence _ => sequence
  | .clearAll _ sequence => sequence

def notificationId? : NotificationMessage → Option String
  | .post entry => some entry.notificationId
  | .dismiss _ notificationId _ => some notificationId
  | .actionInvoked _ notificationId _ _ => some notificationId
  | .clearAll _ _ => none

def names (id : String) (message : NotificationMessage) : Bool := message.notificationId? = some id

def isPost : NotificationMessage → Bool
  | .post _ => true
  | _ => false

end NotificationMessage

/-- One notification, as its posts and dismissals leave it. -/
inductive Slot where
  | unknown
  | live (entry : NotificationEntry)
  | dismissed
  deriving DecidableEq

variable {posted : NotificationEntry} {id : String}

section Slots

variable (blake3 : Bytes → FixedBytes 32)

namespace Slot

def mark : Slot → Option Mark
  | .unknown => none
  | .live entry => some (.live (entry.computeHash blake3))
  | .dismissed => some .dismissed

/-- A post with the hash of the one that is there is a duplicate. -/
def post (entry : NotificationEntry) : Slot → Slot
  | .unknown => .live entry
  | .live held => if held.computeHash blake3 = entry.computeHash blake3 then .live held else .live entry
  | .dismissed => .dismissed

def dismiss : Slot → Slot
  | .unknown => .unknown
  | .live _ => .dismissed
  | .dismissed => .dismissed

def take (slot : Slot) : NotificationMessage → Slot
  | .post posted => slot.post blake3 (posted.enforceSizeLimits blake3)
  | .dismiss _ _ _ => slot.dismiss
  | _ => slot

/-- The slot after messages about its notification. -/
def after (messages : List NotificationMessage) : Slot := messages.foldl (take blake3) .unknown

section

variable {blake3} {slot : Slot} {entry : NotificationEntry} {messages : List NotificationMessage}

theorem take_eq_live {message : NotificationMessage} (live : slot.take blake3 message = .live entry) :
    slot = .live entry ∨ ∃ posted, message = .post posted ∧ posted.enforceSizeLimits blake3 = entry := by
  cases message with
  | post posted =>
      cases slot with
      | unknown => exact .inr ⟨posted, rfl, Slot.live.inj live⟩
      | live held =>
          simp only [take, post] at live
          split at live
          · exact .inl live
          · exact .inr ⟨posted, rfl, Slot.live.inj live⟩
      | dismissed => cases live
  | dismiss => cases slot <;> cases live
  | actionInvoked => exact .inl live
  | clearAll => exact .inl live

/-- A live entry is one of those posted. -/
theorem posted_of_live (live : after blake3 messages = .live entry) :
    ∃ posted, .post posted ∈ messages ∧ posted.enforceSizeLimits blake3 = entry := by
  induction messages using List.reverseRecOn with
  | nil => cases live
  | append_singleton messages message ih =>
      rw [after, List.foldl_append] at live
      rcases take_eq_live live with before | ⟨posted, rfl, same⟩
      · obtain ⟨posted, member, same⟩ := ih before
        exact ⟨posted, List.mem_append_left _ member, same⟩
      · exact ⟨posted, List.mem_append_right _ List.mem_cons_self, same⟩

theorem foldl_dismissed : messages.foldl (take blake3) .dismissed = .dismissed := by
  induction messages with
  | nil => rfl
  | cons message messages ih =>
      rw [List.foldl_cons]
      cases message <;> exact ih

/-- Dismissals that come first are lost. -/
theorem foldl_of_no_post (dismissals : ∀ message ∈ messages, message.isPost = false) :
    messages.foldl (take blake3) .unknown = .unknown := by
  induction messages with
  | nil => rfl
  | cons message messages ih =>
      have rest := ih fun m member => dismissals m (List.mem_cons_of_mem _ member)
      rw [List.foldl_cons]
      cases message with
      | post posted => cases dismissals _ List.mem_cons_self
      | _ => exact rest

variable (blake3) in
/-- A post of this content. -/
def hashes (hash : FixedBytes 32) : NotificationMessage → Bool
  | .post posted => (posted.enforceSizeLimits blake3).computeHash blake3 = hash
  | _ => false

variable {hash : FixedBytes 32}

theorem foldl_of_hashes (content : entry.computeHash blake3 = hash)
    (same : ∀ message ∈ messages, hashes blake3 hash message = true) :
    messages.foldl (take blake3) (.live entry) = .live entry := by
  induction messages with
  | nil => rfl
  | cons message messages ih =>
      have rest := ih fun m member => same m (List.mem_cons_of_mem _ member)
      have first := same message List.mem_cons_self
      cases message with
      | post posted =>
          have equal : entry.computeHash blake3 = (posted.enforceSizeLimits blake3).computeHash blake3 :=
            content.trans (of_decide_eq_true first).symm
          rw [List.foldl_cons, take, post, if_pos equal]
          exact rest
      | _ => cases first

/-- Holds nothing, or something of another content. -/
def Open (blake3 : Bytes → FixedBytes 32) (hash : FixedBytes 32) (slot : Slot) : Prop :=
  slot = .unknown ∨ ∃ entry, slot = .live entry ∧ entry.computeHash blake3 ≠ hash

theorem Open.post_eq (isOpen : slot.Open blake3 (posted.computeHash blake3)) :
    slot.post blake3 posted = .live posted := by
  rcases isOpen with rfl | ⟨entry, rfl, other⟩
  · rfl
  · exact if_neg other

theorem Open.post (isOpen : slot.Open blake3 hash) (other : posted.computeHash blake3 ≠ hash) :
    (slot.post blake3 posted).Open blake3 hash := by
  rcases isOpen with rfl | ⟨entry, rfl, apart⟩
  · exact .inr ⟨posted, rfl, other⟩
  · rw [Slot.post]
    split
    · exact .inr ⟨entry, rfl, apart⟩
    · exact .inr ⟨posted, rfl, other⟩

theorem Open.foldl (isOpen : slot.Open blake3 hash) (posts : ∀ message ∈ messages, message.isPost = true)
    (others : ∀ message ∈ messages, hashes blake3 hash message = false) :
    (messages.foldl (take blake3) slot).Open blake3 hash := by
  induction messages generalizing slot with
  | nil => exact isOpen
  | cons message messages ih =>
      have first := others message List.mem_cons_self
      rw [List.foldl_cons]
      refine ih ?_ (fun m member => posts m (List.mem_cons_of_mem _ member))
        fun m member => others m (List.mem_cons_of_mem _ member)
      cases message with
      | post posted => exact isOpen.post (of_decide_eq_false first)
      | _ => cases posts _ List.mem_cons_self

end

variable {messages : List NotificationMessage}

/-- Any post can be the one that is left: dismissals first, then the posts of other
    content, then this one, and those of its content last. -/
theorem exists_perm_live (member : .post posted ∈ messages) :
    ∃ arranged : List NotificationMessage, arranged.Perm messages ∧
      after blake3 arranged = .live (posted.enforceSizeLimits blake3) := by
  let same := hashes blake3 ((posted.enforceSizeLimits blake3).computeHash blake3)
  let others := messages.filter fun m => !same m
  let equals := messages.filter same
  have found : .post posted ∈ equals := List.mem_filter.mpr ⟨member, decide_eq_true rfl⟩
  let dismissals := others.filter fun m => !m.isPost
  let posts := others.filter NotificationMessage.isPost
  refine ⟨(dismissals ++ posts) ++ .post posted :: equals.erase (.post posted), ?_, ?_⟩
  · have front : (dismissals ++ posts).Perm others :=
      List.perm_append_comm.trans (List.filter_append_perm _ _)
    have back : (.post posted :: equals.erase (.post posted)).Perm equals :=
      (List.perm_cons_erase found).symm
    exact (front.append back).trans (List.perm_append_comm.trans (List.filter_append_perm _ _))
  · have first : dismissals.foldl (take blake3) .unknown = .unknown := by
      apply foldl_of_no_post
      intro m inside
      simpa using (List.mem_filter.mp inside).2
    have second : (posts.foldl (take blake3) .unknown).Open blake3
        ((posted.enforceSizeLimits blake3).computeHash blake3) := by
      refine Open.foldl (.inl rfl) (fun m inside => (List.mem_filter.mp inside).2) fun m inside => ?_
      have apart := (List.mem_filter.mp (List.mem_filter.mp inside).1).2
      simpa using apart
    rw [after, List.foldl_append, List.foldl_append, first, List.foldl_cons, take, second.post_eq]
    refine foldl_of_hashes rfl fun m inside => ?_
    exact (List.mem_filter.mp (List.mem_of_mem_erase inside)).2

/-- A dismissal right after the first post holds for good. -/
theorem exists_perm_dismissed {origin : NodeId} {sequence : UInt64} (member : .post posted ∈ messages)
    (dismissal : .dismiss origin id sequence ∈ messages) :
    ∃ arranged : List NotificationMessage, arranged.Perm messages ∧ after blake3 arranged = .dismissed := by
  have rest : .dismiss origin id sequence ∈ messages.erase (.post posted) :=
    (List.mem_erase_of_ne (by simp)).mpr dismissal
  refine ⟨.post posted :: .dismiss origin id sequence ::
    (messages.erase (.post posted)).erase (.dismiss origin id sequence), ?_, ?_⟩
  · exact ((List.perm_cons_erase rest).symm.cons _).trans (List.perm_cons_erase member).symm
  · exact foldl_dismissed

end Slot

end Slots

section Tracking

variable {blake3 : Bytes → FixedBytes 32} {lowercase : String → String} {policy : NotificationPolicy}
  {origin : NodeId} {messages : List NotificationMessage}

/-- The slot of a notification after messages about any. -/
def slotOf (blake3 : Bytes → FixedBytes 32) (id : String) (messages : List NotificationMessage) : Slot :=
  .after blake3 (messages.filter (·.names id))

variable (blake3) in
/-- Some order of the messages brings a slot to what some order of its own brings it to. -/
theorem exists_perm_slotOf {arranged : List NotificationMessage}
    (perm : arranged.Perm (messages.filter (·.names id))) :
    ∃ order : List NotificationMessage, order.Perm messages ∧
      slotOf blake3 id order = .after blake3 arranged := by
  refine ⟨arranged ++ messages.filter fun m => !m.names id, ?_, ?_⟩
  · exact (perm.append_right _).trans (List.filter_append_perm _ _)
  · have own : arranged.filter (·.names id) = arranged := by
      rw [List.filter_eq_self]
      intro m member
      exact (List.mem_filter.mp (perm.mem_iff.mp member)).2
    have others : (messages.filter fun m => !m.names id).filter (·.names id) = [] := by
      rw [List.filter_eq_nil_iff]
      intro m member
      simpa using (List.mem_filter.mp member).2
    rw [slotOf, List.filter_append, own, others, List.append_nil]

theorem slotOf_snoc (id : String) (message : NotificationMessage) :
    slotOf blake3 id (messages ++ [message]) =
      if message.names id then (slotOf blake3 id messages).take blake3 message
      else slotOf blake3 id messages := by
  rw [slotOf, List.filter_append]
  split
  · rename_i named
    simp [slotOf, Slot.after, named]
  · rename_i other
    simp [slotOf, other]

def ids (messages : List NotificationMessage) : Finset String :=
  (messages.filterMap (·.notificationId?)).toFinset

theorem mem_ids : id ∈ ids messages ↔ ∃ m ∈ messages, m.names id = true := by
  simp [ids, NotificationMessage.names]

variable (blake3) in
theorem mem_ids_of_slotOf (known : slotOf blake3 id messages ≠ .unknown) :
    id ∈ ids messages := by
  rw [mem_ids]
  by_contra none
  have empty : messages.filter (·.names id) = [] := by
    rw [List.filter_eq_nil_iff]
    intro m member named
    exact none ⟨m, member, named⟩
  exact known (by rw [slotOf, empty]; rfl)

theorem posted_of_slotOf_live {entry : NotificationEntry} (live : slotOf blake3 id messages = .live entry) :
    ∃ posted, .post posted ∈ messages ∧ posted.enforceSizeLimits blake3 = entry ∧
      posted.notificationId = id := by
  obtain ⟨posted, member, same⟩ := Slot.posted_of_live live
  obtain ⟨inside, named⟩ := List.mem_filter.mp member
  exact ⟨posted, inside, same, Option.some.inj (of_decide_eq_true named)⟩

theorem id_of_slotOf_live {entry : NotificationEntry} (live : slotOf blake3 id messages = .live entry) :
    entry.notificationId = id := by
  obtain ⟨posted, -, rfl, same⟩ := posted_of_slotOf_live live
  rwa [NotificationEntry.enforceSizeLimits_eq]

/-- After these messages of one origin, which nothing has been forgotten of, the book has
    the marks of the slots, and the origin's ring the entries that are live. -/
structure Tracks (blake3 : Bytes → FixedBytes 32) (origin : NodeId) (engine : NotificationSyncEngine)
    (book : Book) (messages : List NotificationMessage) : Prop where
  refines : engine.guard.Refines book
  marks : ∀ id, book.mark (origin.toHex, id) = (slotOf blake3 id messages).mark blake3
  single : ∀ key ∈ book.ring, key.1 = origin.toHex
  sound : ∀ e ∈ engine.active.bucket origin.toHex,
    slotOf blake3 e.notificationId messages = .live e ∨
      slotOf blake3 e.notificationId messages = .dismissed ∧ e.state = .dismissed
  complete : ∀ id e, slotOf blake3 id messages = .live e → e ∈ engine.active.bucket origin.toHex
  distinct : ((engine.active.bucket origin.toHex).map NotificationEntry.notificationId).Nodup

theorem tracks_new (localNodeId : NodeId) :
    Tracks blake3 origin (.new localNodeId policy) .empty [] where
  refines := NotificationGuard.refines_new
  marks _ := rfl
  single _ member := absurd member List.not_mem_nil
  sound _ member := absurd member List.not_mem_nil
  complete _ _ live := by cases live
  distinct := List.nodup_nil

namespace Tracks

variable {engine : NotificationSyncEngine} {book : Book}

variable (tracks : Tracks blake3 origin engine book messages)

include tracks

theorem length_ring : book.ring.length ≤ (ids messages).card := by
  have apart : (book.ring.map Prod.snd).Nodup := by
    refine book.distinct.map_on fun a first b second same => ?_
    exact Prod.ext ((tracks.single a first).trans (tracks.single b second).symm) same
  have inside : (book.ring.map Prod.snd).toFinset ⊆ ids messages := by
    intro id member
    obtain ⟨key, kept, rfl⟩ := List.mem_map.mp (List.mem_toFinset.mp member)
    apply mem_ids_of_slotOf blake3
    intro unknown
    have missing := tracks.marks key.2
    rw [unknown, ← tracks.single key kept] at missing
    exact Book.mark_eq_none.mp missing kept
  have size := Finset.card_le_card inside
  rwa [List.toFinset_card_of_nodup apart, List.length_map] at size

theorem length_bucket : (engine.active.bucket origin.toHex).length ≤ (ids messages).card := by
  have inside : ((engine.active.bucket origin.toHex).map NotificationEntry.notificationId).toFinset ⊆
      ids messages := by
    intro id member
    obtain ⟨e, kept, rfl⟩ := List.mem_map.mp (List.mem_toFinset.mp member)
    apply mem_ids_of_slotOf blake3
    rcases tracks.sound e kept with live | ⟨dismissed, -⟩
    · rw [live]
      exact nofun
    · rw [dismissed]
      exact nofun
  have size := Finset.card_le_card inside
  rwa [List.toFinset_card_of_nodup tracks.distinct, List.length_map] at size

theorem mem_activeNotifications {entry : NotificationEntry} :
    entry ∈ engine.activeNotifications origin ↔
      entry.state = .active ∧ slotOf blake3 entry.notificationId messages = .live entry := by
  rw [NotificationSyncEngine.mem_activeNotifications]
  constructor
  · rintro ⟨member, active⟩
    rcases tracks.sound entry member with live | ⟨-, dismissed⟩
    · exact ⟨active, live⟩
    · rw [active] at dismissed
      cases dismissed
  · rintro ⟨active, live⟩
    exact ⟨tracks.complete _ _ live, active⟩

/-- A post that the slot takes is taken by the book, and any other changes neither. -/
theorem takes_or {entry : NotificationEntry} (own : entry.origin = origin)
    (allowed : engine.policy.shouldBlock lowercase entry = false) :
    let slot := slotOf blake3 entry.notificationId messages
    book.Takes blake3 lowercase engine.policy entry ∧ slot.post blake3 entry = .live entry ∨
      ¬ book.Takes blake3 lowercase engine.policy entry ∧ slot.post blake3 entry = slot := by
  have mark := tracks.marks entry.notificationId
  rw [← own] at mark
  rw [Book.Takes, NotificationGuard.key, mark]
  cases slotOf blake3 entry.notificationId messages with
  | unknown => exact .inl ⟨⟨allowed, by simp [Slot.mark], by simp [Slot.mark]⟩, rfl⟩
  | live held =>
      by_cases same : held.computeHash blake3 = entry.computeHash blake3
      · exact .inr ⟨fun takes => takes.2.1 (by rw [Slot.mark, same]), if_pos same⟩
      · refine .inl ⟨⟨allowed, fun equal => same ?_, by simp [Slot.mark]⟩, if_neg same⟩
        exact Mark.live.inj (Option.some.inj equal)
  | dismissed => exact .inr ⟨fun takes => takes.2.2 rfl, rfl⟩

theorem congr {later : List NotificationMessage} (same : ∀ id, slotOf blake3 id later = slotOf blake3 id messages) :
    Tracks blake3 origin engine book later where
  refines := tracks.refines
  marks id := by rw [same, tracks.marks]
  single := tracks.single
  sound e member := by rw [same]; exact tracks.sound e member
  complete id e live := tracks.complete id e ((same id).symm.trans live)
  distinct := tracks.distinct

theorem post (own : posted.origin = origin)
    (allowed : engine.policy.shouldBlock lowercase (posted.enforceSizeLimits blake3) = false)
    (few : (ids messages).card < 256) :
    ∃ book, Tracks blake3 origin (engine.handlePost blake3 lowercase posted).1 book
      (messages ++ [NotificationMessage.post posted]) := by
  have limits := posted.enforceSizeLimits_eq blake3
  have sameId : (posted.enforceSizeLimits blake3).notificationId = posted.notificationId :=
    congrArg (·.notificationId) limits
  have ours : (posted.enforceSizeLimits blake3).origin = origin := (congrArg (·.origin) limits).trans own
  generalize entry_eq : posted.enforceSizeLimits blake3 = entry at *
  have slots : ∀ id, slotOf blake3 id (messages ++ [NotificationMessage.post posted]) =
      if id = entry.notificationId then (slotOf blake3 entry.notificationId messages).post blake3 entry
      else slotOf blake3 id messages := by
    intro id
    rw [slotOf_snoc, NotificationMessage.names, NotificationMessage.notificationId?, ← sameId]
    by_cases here : id = entry.notificationId
    · subst here
      simp [Slot.take, entry_eq]
    · simp [here, Ne.symm here]
  rcases tracks.takes_or ours allowed with ⟨takes, live⟩ | ⟨declines, same⟩
  · rw [← entry_eq] at takes
    rw [handlePost_of_takes tracks.refines takes, entry_eq, ours]
    rw [entry_eq] at takes
    refine ⟨book.post entry.key (entry.computeHash blake3),
      tracks.refines.recordPosted takes.2.2, ?_, ?_, ?_, ?_, ?_⟩
    · have kept : book.forgotten entry.key = none :=
        Recent.forgotten_of_room (Nat.lt_of_le_of_lt tracks.length_ring few)
      intro id
      rw [slots]
      by_cases here : id = entry.notificationId
      · rw [if_pos here, live, here, ← ours]
        exact book.post_mark_self _ _
      · have apart : (origin.toHex, id) ≠ entry.key := fun equal =>
          here (Prod.mk.inj equal).2
        rw [if_neg here, book.post_mark_ne _ _ apart (by rw [kept]; exact nofun), tracks.marks]
    · intro key member
      rcases Recent.mem_of_mem_push member with old | rfl
      · exact tracks.single key old
      · rw [NotificationGuard.key, ours]
    · intro e member
      rcases ActiveRing.mem_of_mem_bucket_store member with ⟨old, apart⟩ | rfl
      · rw [slots, if_neg apart]
        exact tracks.sound e old
      · rw [slots, if_pos rfl]
        exact .inl live
    · intro id e isLive
      have room := Nat.lt_of_le_of_lt tracks.length_bucket few
      rw [slots] at isLive
      rw [ActiveRing.bucket_store_of_room room, List.mem_append, List.mem_filter]
      by_cases here : id = entry.notificationId
      · rw [if_pos here, live] at isLive
        exact .inr (List.mem_singleton.mpr (Slot.live.inj isLive).symm)
      · rw [if_neg here] at isLive
        refine .inl ⟨tracks.complete id e isLive, ?_⟩
        rw [id_of_slotOf_live isLive]
        exact decide_eq_true here
    · exact ActiveRing.distinct_bucket_store tracks.distinct
  · rw [← entry_eq] at declines
    rw [handlePost_of_not_takes tracks.refines declines]
    refine ⟨book, tracks.congr fun id => ?_⟩
    rw [slots, same]
    split
    · rename_i here
      rw [here]
    · rfl

theorem dismiss (id : String) (sequence : UInt64) :
    ∃ book, Tracks blake3 origin (engine.applyDismissal origin.toHex id) book
      (messages ++ [NotificationMessage.dismiss origin id sequence]) := by
  have slots : ∀ other, slotOf blake3 other (messages ++ [NotificationMessage.dismiss origin id sequence]) =
      if other = id then (slotOf blake3 other messages).dismiss else slotOf blake3 other messages := by
    intro other
    rw [slotOf_snoc, NotificationMessage.names, NotificationMessage.notificationId?]
    by_cases here : other = id
    · simp [here, Slot.take]
    · simp [here, Ne.symm here]
  refine ⟨book.dismiss fun key => key = (origin.toHex, id), tracks.refines.recordDismissed .., ?_,
    tracks.single, ?_, ?_, ?_⟩
  · intro other
    rw [slots, Book.dismiss]
    by_cases here : other = id
    · simp only [here, if_true, decide_true, tracks.marks]
      cases slotOf blake3 id messages <;> rfl
    · simp [here, tracks.marks]
  · intro e member
    rw [applyDismissal, ActiveRing.bucket_dismissWhere] at member
    obtain ⟨old, stored, rfl⟩ := List.mem_map.mp member
    rw [slots]
    by_cases here : old.notificationId = id
    · right
      simp only [here, decide_true, if_true]
      rcases tracks.sound old stored with live | ⟨dismissed, -⟩
      · rw [here] at live
        rw [live]
        exact ⟨rfl, trivial⟩
      · rw [here] at dismissed
        rw [dismissed]
        exact ⟨rfl, trivial⟩
    · simp only [here, decide_false, Bool.false_eq_true, if_false]
      exact tracks.sound old stored
  · intro other e live
    rw [slots] at live
    rw [applyDismissal, ActiveRing.bucket_dismissWhere, List.mem_map]
    by_cases here : other = id
    · rw [if_pos here] at live
      cases slot : slotOf blake3 other messages <;> rw [slot] at live <;> cases live
    · rw [if_neg here] at live
      refine ⟨e, tracks.complete other e live, ?_⟩
      simp [id_of_slotOf_live live, here]
  · exact (ActiveRing.ids_dismissWhere _).symm ▸ tracks.distinct

end Tracks

/-- Posts and dismissals of one origin, allowed and of fewer than 256 notifications. -/
structure Stream (blake3 : Bytes → FixedBytes 32) (lowercase : String → String) (policy : NotificationPolicy)
    (origin : NodeId) (messages : List NotificationMessage) : Prop where
  kinds : ∀ m ∈ messages, (∃ posted, m = .post posted ∧ posted.origin = origin) ∨
    ∃ id sequence, m = .dismiss origin id sequence
  allowed : ∀ posted, .post posted ∈ messages →
    policy.shouldBlock lowercase (posted.enforceSizeLimits blake3) = false
  few : (ids messages).card < 256

theorem Stream.perm {order : List NotificationMessage}
    (stream : Stream blake3 lowercase policy origin messages) (perm : order.Perm messages) :
    Stream blake3 lowercase policy origin order where
  kinds m member := stream.kinds m (perm.mem_iff.mp member)
  allowed posted member := stream.allowed posted (perm.mem_iff.mp member)
  few := by
    have same : ids order = ids messages := by
      ext id
      simp only [mem_ids, perm.mem_iff]
    rw [same]
    exact stream.few

theorem Stream.initial {message : NotificationMessage}
    (stream : Stream blake3 lowercase policy origin (messages ++ [message])) :
    Stream blake3 lowercase policy origin messages where
  kinds m member := stream.kinds m (List.mem_append_left _ member)
  allowed posted member := stream.allowed posted (List.mem_append_left _ member)
  few := by
    refine Nat.lt_of_le_of_lt (Finset.card_le_card fun id member => ?_) stream.few
    obtain ⟨m, inside, named⟩ := mem_ids.mp member
    exact mem_ids.mpr ⟨m, List.mem_append_left _ inside, named⟩

theorem policy_handleAll (engine : NotificationSyncEngine) :
    (engine.handleAll blake3 lowercase messages).policy = engine.policy := by
  induction messages using List.reverseRecOn with
  | nil => rfl
  | append_singleton messages message ih =>
      rw [handleAll, List.foldl_append]
      exact (policy_handleMessage ..).trans ih

section Active

variable (localNodeId : NodeId) (stream : Stream blake3 lowercase policy origin messages)

include localNodeId stream

theorem Stream.tracks :
    ∃ book, Tracks blake3 origin
      ((NotificationSyncEngine.new localNodeId policy).handleAll blake3 lowercase messages) book messages := by
  induction messages using List.reverseRecOn with
  | nil => exact ⟨_, tracks_new localNodeId⟩
  | append_singleton messages message ih =>
      obtain ⟨book, tracks⟩ := ih stream.initial
      rw [handleAll, List.foldl_append]
      rcases stream.kinds message (List.mem_append_right _ List.mem_cons_self) with
        ⟨posted, rfl, own⟩ | ⟨id, sequence, rfl⟩
      · apply tracks.post own _ stream.initial.few
        rw [policy_handleAll]
        exact stream.allowed posted (List.mem_append_right _ List.mem_cons_self)
      · exact tracks.dismiss id sequence

/-- The message with the highest sequence number about this notification is an active
    post of this content. -/
def Decided (blake3 : Bytes → FixedBytes 32) (messages : List NotificationMessage)
    (entry : NotificationEntry) : Prop :=
  ∃ posted, .post posted ∈ messages ∧ posted.enforceSizeLimits blake3 = entry ∧ posted.state = .active ∧
    ∀ m ∈ messages, m.names posted.notificationId = true → m.sequence ≤ posted.sequence

/-- What an origin's messages, handled in this order by a new engine, leave active. -/
def activeAfter (blake3 : Bytes → FixedBytes 32) (lowercase : String → String) (localNodeId : NodeId)
    (policy : NotificationPolicy) (origin : NodeId) (messages : List NotificationMessage) :
    List NotificationEntry :=
  ((NotificationSyncEngine.new localNodeId policy).handleAll blake3 lowercase messages).activeNotifications
    origin

/-- In every order the same notifications are active in the end as in the order of the
    sequence numbers, and the highest number decides. -/
def Confluent (blake3 : Bytes → FixedBytes 32) (lowercase : String → String) (localNodeId : NodeId)
    (policy : NotificationPolicy) (origin : NodeId) (messages : List NotificationMessage) : Prop :=
  ∀ order : List NotificationMessage, order.Perm messages →
    (activeAfter blake3 lowercase localNodeId policy origin order).Perm
        (activeAfter blake3 lowercase localNodeId policy origin messages) ∧
      ∀ entry, entry ∈ activeAfter blake3 lowercase localNodeId policy origin order ↔
        Decided blake3 messages entry

/-- Nothing else is said about a notification that is posted as active. -/
def Undisputed (messages : List NotificationMessage) : Prop :=
  ∀ posted, .post posted ∈ messages → posted.state = .active →
    ∀ m ∈ messages, m.names posted.notificationId = true → m = .post posted

theorem Stream.mem_activeAfter {entry : NotificationEntry} :
    entry ∈ activeAfter blake3 lowercase localNodeId policy origin messages ↔
      entry.state = .active ∧ slotOf blake3 entry.notificationId messages = .live entry := by
  obtain ⟨book, tracks⟩ := stream.tracks localNodeId
  exact tracks.mem_activeNotifications

theorem Stream.nodup_activeAfter :
    (activeAfter blake3 lowercase localNodeId policy origin messages).Nodup := by
  obtain ⟨book, tracks⟩ := stream.tracks localNodeId
  rw [activeAfter, activeNotifications_eq]
  exact tracks.distinct.of_map.filter _

end Active

section Increasing

variable (increasing : messages.Pairwise fun a b => a.sequence < b.sequence)

include increasing

theorem nodup_sequences : (messages.map NotificationMessage.sequence).Nodup :=
  List.pairwise_map.mpr (increasing.imp UInt64.ne_of_lt)

theorem eq_of_sequence {a b : NotificationMessage} (first : a ∈ messages) (second : b ∈ messages)
    (same : a.sequence = b.sequence) : a = b :=
  List.inj_on_of_nodup_map (nodup_sequences increasing) first second same

theorem slotOf_of_undisputed {order : List NotificationMessage} (perm : order.Perm messages)
    (undisputed : Undisputed messages) (member : .post posted ∈ messages) (active : posted.state = .active) :
    slotOf blake3 posted.notificationId order = .live (posted.enforceSizeLimits blake3) := by
  have apart : order.Nodup := perm.nodup_iff.mpr (nodup_sequences increasing).of_map
  have single : order.filter (·.names posted.notificationId) = [.post posted] := by
    rw [← List.perm_singleton, List.perm_ext_iff_of_nodup (apart.filter _) (List.nodup_singleton _)]
    intro m
    rw [List.mem_filter, List.mem_singleton]
    constructor
    · rintro ⟨inside, named⟩
      exact undisputed posted member active m (perm.mem_iff.mp inside) named
    · rintro rfl
      exact ⟨perm.mem_iff.mpr member, decide_eq_true rfl⟩
  rw [slotOf, single]
  rfl

end Increasing

theorem Stream.confluent (localNodeId : NodeId) (stream : Stream blake3 lowercase policy origin messages)
    (increasing : messages.Pairwise fun a b => a.sequence < b.sequence)
    (undisputed : Undisputed messages) :
    Confluent blake3 lowercase localNodeId policy origin messages := by
  have decided : ∀ order : List NotificationMessage, order.Perm messages → ∀ entry,
      entry ∈ activeAfter blake3 lowercase localNodeId policy origin order ↔
        Decided blake3 messages entry := by
    intro order perm entry
    rw [(stream.perm perm).mem_activeAfter]
    constructor
    · rintro ⟨active, live⟩
      obtain ⟨posted, inside, rfl, -⟩ := posted_of_slotOf_live live
      have member := perm.mem_iff.mp inside
      have isActive : posted.state = .active := by rwa [NotificationEntry.enforceSizeLimits_eq] at active
      refine ⟨posted, member, rfl, isActive, fun m other named => ?_⟩
      rw [undisputed posted member isActive m other named]
      exact UInt64.le_refl _
    · rintro ⟨posted, member, rfl, active, -⟩
      rw [show (posted.enforceSizeLimits blake3).notificationId = posted.notificationId from
        congrArg (·.notificationId) (posted.enforceSizeLimits_eq blake3)]
      exact ⟨(congrArg (·.state) (posted.enforceSizeLimits_eq blake3)).trans active,
        slotOf_of_undisputed increasing perm undisputed member active⟩
  intro order perm
  refine ⟨?_, decided order perm⟩
  rw [List.perm_ext_iff_of_nodup ((stream.perm perm).nodup_activeAfter localNodeId)
    (stream.nodup_activeAfter localNodeId)]
  intro entry
  rw [decided order perm, decided messages (List.Perm.refl _)]

theorem Stream.undisputed (localNodeId : NodeId) (stream : Stream blake3 lowercase policy origin messages)
    (increasing : messages.Pairwise fun a b => a.sequence < b.sequence)
    (confluent : Confluent blake3 lowercase localNodeId policy origin messages) :
    Undisputed messages := by
  intro posted member active m inside named
  have own : .post posted ∈ messages.filter (·.names posted.notificationId) :=
    List.mem_filter.mpr ⟨member, decide_eq_true rfl⟩
  have about : m ∈ messages.filter (·.names posted.notificationId) := List.mem_filter.mpr ⟨inside, named⟩
  have limits := posted.enforceSizeLimits_eq blake3
  have id : (posted.enforceSizeLimits blake3).notificationId = posted.notificationId :=
    congrArg (·.notificationId) limits
  -- whatever the order, the slot of a notification that is decided is live
  have live : ∀ order : List NotificationMessage, order.Perm messages →
      slotOf blake3 posted.notificationId order = .live (posted.enforceSizeLimits blake3) := by
    obtain ⟨arranged, perm, left⟩ := Slot.exists_perm_live blake3 own
    obtain ⟨settled, whole, slot⟩ := exists_perm_slotOf blake3 perm
    have shown : posted.enforceSizeLimits blake3 ∈
        activeAfter blake3 lowercase localNodeId policy origin settled := by
      rw [(stream.perm whole).mem_activeAfter, id]
      exact ⟨(congrArg (·.state) limits).trans active, slot.trans left⟩
    have decided := ((confluent settled whole).2 _).mp shown
    intro order perm
    have again := ((confluent order perm).2 _).mpr decided
    rw [(stream.perm perm).mem_activeAfter, id] at again
    exact again.2
  rcases stream.kinds m inside with ⟨other, rfl, -⟩ | ⟨name, sequence, rfl⟩
  · obtain ⟨arranged, perm, left⟩ := Slot.exists_perm_live blake3 about
    obtain ⟨order, whole, slot⟩ := exists_perm_slotOf blake3 perm
    have same := Slot.live.inj ((live order whole).symm.trans (slot.trans left))
    apply eq_of_sequence increasing inside member
    rw [other.enforceSizeLimits_eq, posted.enforceSizeLimits_eq] at same
    exact (congrArg (·.sequence) same).symm
  · obtain ⟨arranged, perm, left⟩ := Slot.exists_perm_dismissed blake3 own about
    obtain ⟨order, whole, slot⟩ := exists_perm_slotOf blake3 perm
    have same := (live order whole).symm.trans (slot.trans left)
    cases same

/-- For every stream in the order of its sequence numbers. -/
theorem confluent_iff (blake3 : Bytes → FixedBytes 32) (lowercase : String → String)
    (localNodeId : NodeId) (policy : NotificationPolicy) (origin : NodeId)
    (messages : List NotificationMessage) (stream : Stream blake3 lowercase policy origin messages)
    (increasing : messages.Pairwise fun a b => a.sequence < b.sequence) :
    Confluent blake3 lowercase localNodeId policy origin messages ↔ Undisputed messages :=
  ⟨stream.undisputed localNodeId increasing, stream.confluent localNodeId increasing⟩

end Tracking

section Example

def exampleDismissal (id : String) : NotificationMessage := .dismiss exampleEntry.origin id 2

theorem exampleStream (id : String) : Stream exampleHash Text.toAsciiLowercase examplePolicy
    exampleEntry.origin [.post exampleEntry, exampleDismissal id] where
  kinds m member := by
    rcases List.mem_pair.mp member with rfl | rfl
    · exact .inl ⟨exampleEntry, rfl, rfl⟩
    · exact .inr ⟨id, 2, rfl⟩
  allowed posted member := by
    rcases List.mem_pair.mp member with same | other
    · cases same
      exact exampleEntry_allowed
    · cases other
  few := Nat.lt_of_le_of_lt (List.toFinset_card_le _) (show 2 < 256 by decide)

theorem exampleStream_increasing (id : String) :
    [.post exampleEntry, exampleDismissal id].Pairwise
      (fun a b : NotificationMessage => a.sequence < b.sequence) := by
  have less : (NotificationMessage.post exampleEntry).sequence < (exampleDismissal id).sequence := by
    show (1 : UInt64) < 2
    decide
  simpa using less

/-- A post and the dismissal of another notification. -/
theorem unrelated_messages_confluent : Confluent exampleHash Text.toAsciiLowercase ⟨.fill 32 9⟩ examplePolicy
    exampleEntry.origin [.post exampleEntry, exampleDismissal "8"] := by
  refine (confluent_iff exampleHash Text.toAsciiLowercase ⟨.fill 32 9⟩ examplePolicy exampleEntry.origin _
    (exampleStream "8") (exampleStream_increasing "8")).mpr ?_
  intro posted member active m inside named
  rcases List.mem_pair.mp member with same | other
  · cases same
    rcases List.mem_pair.mp inside with rfl | rfl
    · rfl
    · revert named
      decide
  · cases other

/-- A dismissal that overtakes its post is lost. -/
theorem overtaken_post_stays_active :
    let messages := [.post exampleEntry, exampleDismissal "7"]
    Stream exampleHash Text.toAsciiLowercase examplePolicy exampleEntry.origin messages ∧
      messages.Pairwise (fun a b => a.sequence < b.sequence) ∧
      exampleEntry ∉ activeAfter exampleHash Text.toAsciiLowercase ⟨.fill 32 9⟩ examplePolicy
        exampleEntry.origin messages ∧
      exampleEntry ∈ activeAfter exampleHash Text.toAsciiLowercase ⟨.fill 32 9⟩ examplePolicy
        exampleEntry.origin messages.reverse := by
  have stream := exampleStream "7"
  refine ⟨stream, exampleStream_increasing "7", ?_, ?_⟩
  · rw [stream.mem_activeAfter]
    rintro ⟨-, live⟩
    have gone : slotOf exampleHash exampleEntry.notificationId
        [.post exampleEntry, exampleDismissal "7"] = .dismissed := rfl
    rw [gone] at live
    cases live
  · rw [(stream.perm (List.reverse_perm _)).mem_activeAfter]
    exact ⟨rfl, rfl⟩

end Example

end BridgeOS.Notifications
