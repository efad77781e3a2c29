import BridgeOS.Notifications.Limits
import BridgeOS.Notifications.Reposting

/-! # The mirrored notifications

The buckets of the active ring in any run: how many entries they have, what passed on
the way in, and what a delivered post does to the bucket of its origin.
-/

namespace BridgeOS.Notifications

namespace ActiveRing

variable {active : ActiveRing} {originHex : String} {entry : NotificationEntry}

/-- The previous entry of the id goes, the new one comes last, and the oldest goes if there
    would be more than 256. -/
def Replaces (before after : List NotificationEntry) (entry : NotificationEntry) : Prop :=
  ∃ dropped, dropped.length ≤ 1 ∧ (dropped ≠ [] → after.length = 256) ∧
    dropped ++ after = (before.filter fun e => e.notificationId ≠ entry.notificationId) ++ [entry]

/-- No bucket has more than 256 entries, and they are within the limits. -/
structure Sized (active : ActiveRing) : Prop where
  few : ∀ originHex, (active.bucket originHex).length ≤ 256
  limited : ∀ originHex, ∀ e ∈ active.bucket originHex, e.Limited

theorem replaces_store (few : (active.bucket originHex).length ≤ 256) :
    Replaces (active.bucket originHex) ((active.store originHex entry).bucket originHex) entry := by
  have fewer := List.length_filter_le (fun e => decide (e.notificationId ≠ entry.notificationId))
    (active.bucket originHex)
  rw [bucket_store]
  dsimp only
  split
  · rename_i full
    rcases shape : ((active.bucket originHex).filter fun e =>
        decide (e.notificationId ≠ entry.notificationId)) ++ [entry] with _ | ⟨oldest, rest⟩
    · rw [shape] at full
      cases full
    · refine ⟨[oldest], Nat.le_refl 1, fun _ => ?_, shape.symm⟩
      have length := congrArg List.length shape
      rw [List.length_append, List.length_singleton, List.length_cons] at length
      rw [shape, List.length_cons] at full
      rw [List.tail_cons]
      omega
  · exact ⟨[], Nat.zero_le 1, fun nothing => absurd rfl nothing, rfl⟩

theorem length_bucket_store_le (few : (active.bucket originHex).length ≤ 256) :
    ((active.store originHex entry).bucket originHex).length ≤ 256 := by
  have fewer := List.length_filter_le (fun e => decide (e.notificationId ≠ entry.notificationId))
    (active.bucket originHex)
  rw [bucket_store]
  dsimp only
  split
  · rw [List.length_tail, List.length_append, List.length_singleton]
    omega
  · rename_i fits
    exact Nat.le_of_not_lt fits

theorem sized_empty : Sized ∅ := ⟨fun _ => Nat.zero_le _, fun _ _ member => absurd member List.not_mem_nil⟩

namespace Sized

theorem store (sized : active.Sized) (limited : entry.Limited) : (active.store originHex entry).Sized := by
  refine ⟨fun other => ?_, fun other e member => ?_⟩
  · by_cases own : other = originHex
    · subst own
      exact length_bucket_store_le (sized.few other)
    · rw [bucket_store_ne own]
      exact sized.few other
  · by_cases own : other = originHex
    · subst own
      rcases mem_of_mem_bucket_store member with ⟨old, -⟩ | rfl
      · exact sized.limited other e old
      · exact limited
    · rw [bucket_store_ne own] at member
      exact sized.limited other e member

/-- No limit depends on the state. -/
theorem dismissWhere (sized : active.Sized) (which : NotificationEntry → Bool) :
    (active.dismissWhere originHex which).Sized := by
  refine ⟨fun other => ?_, fun other e member => ?_⟩
  · by_cases own : other = originHex
    · subst own
      rw [bucket_dismissWhere, List.length_map]
      exact sized.few other
    · rw [bucket_dismissWhere_ne _ _ own]
      exact sized.few other
  · by_cases own : other = originHex
    · subst own
      rw [bucket_dismissWhere] at member
      obtain ⟨old, stored, rfl⟩ := List.mem_map.mp member
      have limited := sized.limited other old stored
      split
      · exact ⟨limited.title, limited.text, limited.icon⟩
      · exact limited
    · rw [bucket_dismissWhere_ne _ _ own] at member
      exact sized.limited other e member

end Sized

end ActiveRing

namespace NotificationSyncEngine

section Run

variable {blake3 : Bytes → FixedBytes 32} {lowercase : String → String}
  {engine : NotificationSyncEngine}

theorem sized_take (sized : engine.active.Sized) (input : Input) :
    (engine.take blake3 lowercase input).1.active.Sized := by
  rcases take_build blake3 lowercase engine input with ⟨message, rfl⟩ | built
  · cases message with
    | post posted =>
        rw [take, handleMessage]
        rcases active_handlePost blake3 lowercase engine posted with ⟨same, -⟩ | stored
        · rw [same]
          exact sized
        · rw [stored]
          exact sized.store (posted.limited_enforceSizeLimits blake3)
    | dismiss => exact sized.dismissWhere _
    | clearAll => exact sized.dismissWhere _
    | actionInvoked =>
        rw [take, handleMessage]
        split
        · exact sized.dismissWhere _
        · exact sized
  · rw [built]
    exact sized

theorem sized_takeAll (sized : engine.active.Sized) (inputs : List Input) :
    (engine.takeAll blake3 lowercase inputs).active.Sized := by
  induction inputs generalizing engine with
  | nil => exact sized
  | cons input inputs ih => exact ih (sized_take sized input)

end Run

/-- In any run, the bucket of an origin has at most 256 entries with different ids, all of
    that origin, allowed by policy and within the limits; and a post that is delivered
    replaces the previous entry of its id, at the cost of the oldest entry at most, in the
    bucket of its origin and in no other. -/
theorem active_ring_well_formed (blake3 : Bytes → FixedBytes 32) (lowercase : String → String)
    (localNodeId : NodeId) (policy : NotificationPolicy) (inputs : List Input) (origin : NodeId) :
    let engine := (new localNodeId policy).takeAll blake3 lowercase inputs
    let bucket := engine.active.bucket origin.toHex
    bucket.length ≤ 256 ∧ (bucket.map NotificationEntry.notificationId).Nodup ∧
      (∀ e ∈ bucket, e.origin = origin ∧ engine.policy.shouldBlock lowercase e = false ∧
        (utf8 e.title).length ≤ 256 ∧ (utf8 e.text).length ≤ 4096) ∧
      ∀ posted entry, .received entry ∈ (engine.handleMessage blake3 lowercase (.post posted)).2 →
        let after := (engine.handleMessage blake3 lowercase (.post posted)).1
        if entry.origin = origin then ActiveRing.Replaces bucket (after.active.bucket origin.toHex) entry
        else after.active.bucket origin.toHex = bucket := by
  intro engine bucket
  have empty : (new localNodeId policy).active.Sized := ActiveRing.sized_empty
  have sized : engine.active.Sized := sized_takeAll empty inputs
  obtain ⟨book, kept⟩ : ∃ book, Kept blake3 lowercase engine book := (kept_new ..).takeAll inputs
  refine ⟨sized.few _, kept.distinct _, fun e member => ?_, fun posted entry received => ?_⟩
  · have limited := sized.limited _ e member
    exact ⟨NodeId.toHex_injective (kept.filed _ e member), kept.allowed _ e member, limited.title,
      limited.text⟩
  · rw [handleMessage] at received ⊢
    rcases active_handlePost blake3 lowercase engine posted with ⟨-, silent⟩ | stored
    · exact absurd received (silent entry)
    · rw [stored] at received ⊢
      obtain rfl : entry = posted.enforceSizeLimits blake3 := by simpa using received
      dsimp only
      split
      · rename_i own
        subst own
        exact ActiveRing.replaces_store (sized.few _)
      · rename_i other
        exact ActiveRing.bucket_store_ne fun same => other (NodeId.toHex_injective same).symm

end NotificationSyncEngine

end BridgeOS.Notifications
