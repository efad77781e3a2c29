import BridgeOS.Notifications.Engine

/-! # What an engine shows

A notification is shown while the ring of its origin has an active entry of it. A
post that passes the checks puts one there; a dismissal marks the entries of the
origin it names, and no others.
-/

namespace BridgeOS.Notifications

namespace ActiveRing

variable (active : ActiveRing) {originHex other : String} (which : NotificationEntry → Bool)

theorem bucket_dismissWhere : (active.dismissWhere originHex which).bucket originHex =
    (active.bucket originHex).map fun entry =>
      if which entry then { entry with state := .dismissed } else entry := by
  rw [bucket, dismissWhere, AList.lookup_modify, bucket]
  cases active.lookup originHex with
  | none => rfl
  | some bucket => rfl

theorem bucket_dismissWhere_ne (different : other ≠ originHex) :
    (active.dismissWhere originHex which).bucket other = active.bucket other := by
  rw [bucket, dismissWhere, AList.lookup_modify_ne active _ different, bucket]

theorem bucket_store (entry : NotificationEntry) :
    (active.store originHex entry).bucket originHex =
      let bucket := ((active.bucket originHex).filter fun e =>
        e.notificationId ≠ entry.notificationId) ++ [entry]
      if bucket.length > 256 then bucket.tail else bucket :=
  congrArg (·.getD []) (AList.lookup_insert active)

/-- The entry that comes last is never the one that has to make room. -/
theorem mem_bucket_store (entry : NotificationEntry) :
    entry ∈ (active.store originHex entry).bucket originHex := by
  rw [bucket_store]
  dsimp only
  split
  · rename_i full
    rw [List.tail_append_of_ne_nil]
    · exact List.mem_append_right _ List.mem_cons_self
    · intro empty
      rw [empty, List.nil_append, List.length_singleton] at full
      omega
  · exact List.mem_append_right _ List.mem_cons_self

end ActiveRing

namespace NotificationSyncEngine

variable {engine : NotificationSyncEngine} {origin : NodeId} {notificationId : String}

/-- The notification is among the active ones of its origin. -/
def Shows (engine : NotificationSyncEngine) (origin : NodeId) (notificationId : String) : Prop :=
  ∃ entry ∈ engine.activeNotifications origin, entry.notificationId = notificationId

instance (engine : NotificationSyncEngine) (origin : NodeId) (notificationId : String) :
    Decidable (engine.Shows origin notificationId) :=
  inferInstanceAs (Decidable (∃ entry ∈ engine.activeNotifications origin, _))

theorem mem_activeNotifications {entry : NotificationEntry} : entry ∈ engine.activeNotifications origin ↔
    entry ∈ engine.active.bucket origin.toHex ∧ entry.state = .active := by
  rw [activeNotifications, ActiveRing.bucket]
  cases engine.active.lookup origin.toHex with
  | none => simp
  | some bucket => simp

theorem shows_iff : engine.Shows origin notificationId ↔
    ∃ entry ∈ engine.active.bucket origin.toHex,
      entry.state = .active ∧ entry.notificationId = notificationId := by
  simp only [Shows, mem_activeNotifications, and_assoc]

/-- What is marked as dismissed on one origin's list is shown no more. -/
theorem shows_dismissWhere (named : NodeId) (hit : String → Bool) (guard : NotificationGuard) :
    { engine with
      guard
      active := engine.active.dismissWhere named.toHex fun entry => hit entry.notificationId }.Shows
        origin notificationId ↔
      engine.Shows origin notificationId ∧ ¬ (named = origin ∧ hit notificationId = true) := by
  rw [shows_iff, shows_iff]
  by_cases same : named = origin
  · subst same
    rw [ActiveRing.bucket_dismissWhere]
    constructor
    · rintro ⟨marked, member, active, rfl⟩
      obtain ⟨entry, stored, rfl⟩ := List.mem_map.mp member
      by_cases struck : hit entry.notificationId = true
      · simp [struck] at active
      · simp only [struck] at active ⊢
        exact ⟨⟨entry, stored, active, rfl⟩, fun both => struck both.2⟩
    · rintro ⟨⟨entry, stored, active, rfl⟩, apart⟩
      have miss : ¬ hit entry.notificationId = true := fun struck => apart ⟨rfl, struck⟩
      exact ⟨entry, List.mem_map.mpr ⟨entry, stored, if_neg miss⟩, active, rfl⟩
  · have different : origin.toHex ≠ named.toHex := fun equal => same (NodeId.toHex_injective equal).symm
    rw [ActiveRing.bucket_dismissWhere_ne _ _ different]
    simp [same]

section Post

variable {blake3 : Bytes → FixedBytes 32} {lowercase : String → String} {entry : NotificationEntry}

/-- A post that passes every check of `handle_message`. -/
structure Admits (engine : NotificationSyncEngine) (blake3 : Bytes → FixedBytes 32)
    (lowercase : String → String) (entry : NotificationEntry) : Prop where
  allowed : engine.policy.shouldBlock lowercase (entry.enforceSizeLimits blake3) = false
  fresh : engine.guard.isDuplicate blake3 (entry.enforceSizeLimits blake3) = false
  standing : engine.guard.isDismissed (entry.enforceSizeLimits blake3).origin.toHex
    (entry.enforceSizeLimits blake3).notificationId = false

/-- A new engine has neither seen nor dismissed anything. -/
theorem admits_new {localNodeId : NodeId} {policy : NotificationPolicy}
    (allowed : policy.shouldBlock lowercase (entry.enforceSizeLimits blake3) = false) :
    (new localNodeId policy).Admits blake3 lowercase entry :=
  ⟨allowed, rfl, rfl⟩

theorem handlePost_of_admits (admits : engine.Admits blake3 lowercase entry) :
    engine.handlePost blake3 lowercase entry = ({ engine with
      guard := engine.guard.recordPosted blake3 (entry.enforceSizeLimits blake3)
      active := engine.active.store (entry.enforceSizeLimits blake3).origin.toHex
        (entry.enforceSizeLimits blake3) }, [.received (entry.enforceSizeLimits blake3)]) := by
  rw [handlePost, admits.allowed, admits.fresh, admits.standing]
  rfl

theorem handlePost_of_not_admits (refused : ¬ engine.Admits blake3 lowercase entry) :
    (engine.handlePost blake3 lowercase entry).1 = engine ∧
      ∀ shown, .received shown ∉ (engine.handlePost blake3 lowercase entry).2 := by
  unfold handlePost
  dsimp only
  split
  · simp
  · rename_i allowed
    split
    · simp
    · rename_i fresh
      split
      · simp
      · rename_i standing
        exact (refused ⟨by simpa using allowed, by simpa using fresh, by simpa using standing⟩).elim

end Post

end NotificationSyncEngine

section Example

open NotificationSyncEngine

def exampleHash : Bytes → FixedBytes 32 := fun _ => .fill 32 0

def examplePolicy : NotificationPolicy := { NotificationPolicy.default with blockSensitive := false }

def exampleDevice (n : UInt8) : NotificationSyncEngine := .new ⟨.fill 32 n⟩ examplePolicy

def examplePost : Option NotificationMessage × NotificationSyncEngine :=
  (exampleDevice 1).buildPost exampleHash Text.toAsciiLowercase 0 "7" "com.whatsapp" "WhatsApp" "Hi"
    "there" .normal

def exampleEntry : NotificationEntry :=
  .new ⟨.fill 32 1⟩ 1 0 "7" "com.whatsapp" "WhatsApp" "Hi" "there" .normal

theorem exampleEntry_limits : exampleEntry.enforceSizeLimits exampleHash = exampleEntry := rfl

theorem exampleEntry_allowed :
    examplePolicy.shouldBlock Text.toAsciiLowercase exampleEntry = false := rfl

theorem examplePost_eq : examplePost =
    (some (.post exampleEntry), { exampleDevice 1 with localSequence := 1 }) := by
  have entry : (NotificationEntry.new ⟨.fill 32 1⟩ 1 0 "7" "com.whatsapp" "WhatsApp" "Hi" "there"
      .normal).enforceSizeLimits exampleHash = exampleEntry := exampleEntry_limits
  simp only [examplePost, buildPost, nextSequence, exampleDevice, new, UInt64.zero_add, entry,
    exampleEntry_allowed, Bool.false_eq_true, if_false]

end Example

end BridgeOS.Notifications
