import BridgeOS.Notifications.Dismissal
import BridgeOS.Notifications.Guard

/-! # The guard on its own

Its three operations in any order, not only as the engine calls them. The maps never
get ahead of the ring, but the ring gets ahead of the maps when a notification that is
dismissed is posted: its hash is gone, so its key is put into the ring again.
-/

namespace BridgeOS.Notifications

inductive Record where
  | posted (entry : NotificationEntry)
  | dismissed (originHex notificationId : String)
  | clearAll (originHex : String)

namespace NotificationGuard

section Recording

variable (blake3 : Bytes → FixedBytes 32)

def record (guard : NotificationGuard) : Record → NotificationGuard
  | .posted entry => guard.recordPosted blake3 entry
  | .dismissed originHex notificationId => guard.recordDismissed originHex notificationId
  | .clearAll originHex => guard.recordClearAll originHex

def recordAll (guard : NotificationGuard) (records : List Record) : NotificationGuard :=
  records.foldl (record blake3) guard

/-- The key that comes into the guard: a post is new if there is no hash of its key. -/
def inserted (guard : NotificationGuard) : Record → List NotificationKey
  | .posted entry => if key entry ∈ guard.seenHashes then [] else [key entry]
  | .dismissed .. => []
  | .clearAll _ => []

/-- The keys in the order in which they came. -/
def insertedAll (guard : NotificationGuard) : List Record → List NotificationKey
  | [] => []
  | record :: rest => guard.inserted record ++ (guard.record blake3 record).insertedAll rest

theorem recordAll_snoc (guard : NotificationGuard) (records : List Record) (record : Record) :
    guard.recordAll blake3 (records ++ [record]) = (guard.recordAll blake3 records).record blake3 record :=
  List.foldl_append

theorem insertedAll_snoc (guard : NotificationGuard) (records : List Record) (record : Record) :
    guard.insertedAll blake3 (records ++ [record]) =
      guard.insertedAll blake3 records ++ (guard.recordAll blake3 records).inserted record := by
  induction records generalizing guard with
  | nil => simp [insertedAll, recordAll]
  | cons first records ih => simp [insertedAll, ih, recordAll]

end Recording

section Always

variable {blake3 : Bytes → FixedBytes 32} {guard after : NotificationGuard} {log : List NotificationKey}

/-- What holds in any order of the operations. -/
structure Backed (guard : NotificationGuard) (log : List NotificationKey) : Prop where
  seen : ∀ key, key ∈ guard.seenHashes ↔ ∃ state ∈ guard.states.lookup key, state ≠ .dismissed
  known : ∀ key ∈ guard.states, key ∈ guard.evictionRing
  short : guard.evictionRing.length ≤ ringCapacity
  latest : guard.evictionRing <:+ log

theorem backed_new : Backed new [] where
  seen key := by simp [new, AList.lookup_empty]
  known key member := by simp [new] at member
  short := Nat.zero_le _
  latest := List.suffix_refl _

theorem backed_insert (entry : NotificationEntry)
    {seen : AList fun _ : NotificationKey => FixedBytes 32}
    {states : AList fun _ : NotificationKey => NotificationState}
    {ring : List NotificationKey} {log' : List NotificationKey}
    (same : ∀ other ≠ key entry, (other ∈ seen ↔ ∃ state ∈ states.lookup other, state ≠ .dismissed))
    (known : ∀ other ∈ states, other ∈ ring) (own : key entry ∈ ring)
    (short : ring.length ≤ ringCapacity) (latest : ring <:+ log') :
    Backed
      { seenHashes := seen.insert (key entry) (entry.computeHash blake3)
        evictionRing := ring
        states := states.insert (key entry) .active } log' where
  seen other := by
    by_cases itself : other = key entry
    · subst itself
      simp
    · rw [AList.lookup_insert_ne itself]
      simpa [itself] using same other itself
  known other member := by
    rcases (AList.mem_insert _).mp member with rfl | member
    · exact own
    · exact known other member
  short := short
  latest := latest

namespace Silenced

variable {which : NotificationKey → Bool}

theorem mem_states (silenced : Silenced which guard after) (key : NotificationKey) :
    key ∈ after.states ↔ key ∈ guard.states := by
  rw [← AList.lookup_isSome, silenced.states, ← AList.lookup_isSome]
  split <;> simp

theorem backed (silenced : Silenced which guard after) (backed : Backed guard log) : Backed after log where
  seen key := by
    rw [← AList.lookup_isSome, silenced.seen, silenced.states]
    cases which key with
    | true => simp
    | false => simpa [AList.lookup_isSome] using backed.seen key
  known key member := silenced.ring ▸ backed.known key ((silenced.mem_states key).mp member)
  short := silenced.ring ▸ backed.short
  latest := silenced.ring ▸ backed.latest

end Silenced

namespace Backed

theorem mem_states_of_seen (backed : Backed guard log) (key : NotificationKey)
    (seen : key ∈ guard.seenHashes) : key ∈ guard.states := by
  obtain ⟨state, found, -⟩ := (backed.seen key).mp seen
  exact AList.lookup_isSome.mp (Option.isSome_of_mem found)

theorem len_le (backed : Backed guard log) : guard.len ≤ ringCapacity := by
  have covered : guard.states.keys ⊆ guard.evictionRing := fun key member => backed.known key member
  have fewer := (List.subperm_of_subset guard.states.keys_nodup covered).length_le
  rw [AList.keys, List.keys, List.length_map] at fewer
  exact fewer.trans backed.short

theorem recordPosted (backed : Backed guard log) (entry : NotificationEntry) :
    Backed (guard.recordPosted blake3 entry) (log ++ guard.inserted (.posted entry)) := by
  rw [inserted]
  refine recordPosted_cases (motive := fun after => Backed after _) entry ?_ ?_ ?_
  · intro known
    rw [if_pos known, List.append_nil]
    exact backed_insert entry (fun other _ => backed.seen other) backed.known
      (backed.known _ (backed.mem_states_of_seen _ known)) backed.short backed.latest
  · intro new room
    rw [if_neg new]
    refine backed_insert entry (fun other _ => backed.seen other)
      (fun other member => List.mem_append_left _ (backed.known other member))
      (List.mem_append_right _ List.mem_cons_self) ?_ ?_
    · rw [List.length_append, List.length_singleton]
      exact room
    · obtain ⟨dropped, rfl⟩ := backed.latest
      exact ⟨dropped, (List.append_assoc ..).symm⟩
  · intro new oldest rest ring full
    rw [if_neg new]
    have short := backed.short
    have known := backed.known
    obtain ⟨dropped, rfl⟩ := backed.latest
    rw [ring] at short known ⊢
    refine backed_insert entry (fun other _ => ?_) (fun other member => ?_)
      (List.mem_append_right _ List.mem_cons_self) (by simpa using short) ⟨dropped ++ [oldest], by simp⟩
    · by_cases gone : other = oldest
      · subst gone
        simp
      · rw [AList.mem_erase, AList.lookup_erase_ne gone, and_iff_right gone]
        exact backed.seen other
    · obtain ⟨kept, member⟩ := AList.mem_erase.mp member
      exact List.mem_append_left _ ((List.mem_cons.mp (known other member)).resolve_left kept)

theorem record (backed : Backed guard log) (record : Record) :
    Backed (guard.record blake3 record) (log ++ guard.inserted record) := by
  cases record with
  | posted entry => exact backed.recordPosted entry
  | dismissed originHex notificationId =>
      rw [inserted, List.append_nil]
      exact (silenced_recordDismissed guard originHex notificationId).backed backed
  | clearAll originHex =>
      rw [inserted, List.append_nil]
      exact (silenced_recordClearAll guard originHex).backed backed

end Backed

variable (blake3) in
theorem backed_recordAll (records : List Record) :
    Backed (new.recordAll blake3 records) (new.insertedAll blake3 records) := by
  induction records using List.reverseRecOn with
  | nil => exact backed_new
  | append_singleton records record ih =>
      rw [recordAll_snoc, insertedAll_snoc]
      exact ih.record record

end Always

section InStep

variable {blake3 : Bytes → FixedBytes 32} {guard : NotificationGuard} {log : List NotificationKey}

structure InStep (guard : NotificationGuard) : Prop where
  distinct : guard.evictionRing.Nodup
  tracked : ∀ key, key ∈ guard.evictionRing ↔ key ∈ guard.states
  seen : ∀ key ∈ guard.seenHashes, key ∈ guard.states
  bounded : guard.len ≤ ringCapacity

/-- The other key has come in since this one last did. -/
def Since (log : List NotificationKey) (this other : NotificationKey) : Prop :=
  ∃ older newer, log = older ++ this :: newer ∧ this ∉ newer ∧ other ∈ newer

/-- A post of a notification that is dismissed, and that is not the one to be evicted for it. -/
def Doubles (guard : NotificationGuard) : Record → Prop
  | .posted entry =>
      guard.isDismissed entry.origin.toHex entry.notificationId = true ∧
        ¬ (ringCapacity ≤ guard.evictionRing.length ∧ guard.evictionRing.head? = some (key entry))
  | .dismissed .. => False
  | .clearAll _ => False

theorem inStep_new : InStep new where
  distinct := List.nodup_nil
  tracked key := by simp [new]
  seen key member := by simp [new] at member
  bounded := Nat.zero_le _

/-- A key without a hash that is in the guard belongs to a notification that is dismissed. -/
theorem Backed.dismissed_of_unseen (backed : Backed guard log) {entry : NotificationEntry}
    (new : key entry ∉ guard.seenHashes) (member : key entry ∈ guard.states) :
    guard.isDismissed entry.origin.toHex entry.notificationId = true := by
  rw [isDismissed_eq_true]
  obtain ⟨state, found⟩ := Option.isSome_iff_exists.mp (AList.lookup_isSome.mpr member)
  by_contra standing
  refine new ((backed.seen _).mpr ⟨state, found, ?_⟩)
  rintro rfl
  exact standing found

namespace InStep

theorem silence {which : NotificationKey → Bool} {after : NotificationGuard} (inStep : InStep guard)
    (silenced : Silenced which guard after) (backed : Backed after log) : InStep after where
  distinct := silenced.ring ▸ inStep.distinct
  tracked key := by rw [silenced.ring, inStep.tracked, silenced.mem_states]
  seen := backed.mem_states_of_seen
  bounded := backed.len_le

theorem recordPosted (inStep : InStep guard) (backed : Backed guard log) {entry : NotificationEntry}
    (single : ¬ guard.Doubles (.posted entry)) : InStep (guard.recordPosted blake3 entry) := by
  have backed' : Backed (guard.recordPosted blake3 entry) _ := backed.recordPosted entry
  suffices shape : (guard.recordPosted blake3 entry).evictionRing.Nodup ∧
      ∀ key, key ∈ (guard.recordPosted blake3 entry).evictionRing ↔
        key ∈ (guard.recordPosted blake3 entry).states from
    ⟨shape.1, shape.2, backed'.mem_states_of_seen, backed'.len_le⟩
  refine recordPosted_cases (motive := fun after => after.evictionRing.Nodup ∧
    ∀ key, key ∈ after.evictionRing ↔ key ∈ after.states) entry ?_ ?_ ?_
  · intro known
    refine ⟨inStep.distinct, fun other => ?_⟩
    rw [inStep.tracked, AList.mem_insert]
    refine ⟨.inr, ?_⟩
    rintro (rfl | member)
    · exact backed.mem_states_of_seen _ known
    · exact member
  · intro new room
    have absent : key entry ∉ guard.evictionRing := by
      intro member
      refine single ⟨backed.dismissed_of_unseen new ((inStep.tracked _).mp member), ?_⟩
      exact fun full => Nat.not_le_of_lt room full.1
    refine ⟨List.concat_eq_append ▸ inStep.distinct.concat absent, fun other => ?_⟩
    rw [List.mem_append, List.mem_singleton, inStep.tracked, AList.mem_insert, or_comm]
  · intro new oldest rest ring full
    have distinct := inStep.distinct
    have tracked := inStep.tracked
    rw [ring] at distinct tracked
    obtain ⟨fresh, distinct⟩ := List.nodup_cons.mp distinct
    have absent : key entry ∉ rest := by
      intro member
      refine single ⟨backed.dismissed_of_unseen new ((tracked _).mp (List.mem_cons_of_mem _ member)), ?_⟩
      rintro ⟨-, head⟩
      rw [ring] at head
      exact fresh (Option.some.inj head ▸ member)
    refine ⟨List.concat_eq_append ▸ distinct.concat absent, fun other => ?_⟩
    rw [List.mem_append, List.mem_singleton, AList.mem_insert, AList.mem_erase, ← tracked, List.mem_cons,
      or_comm]
    refine or_congr_right ⟨fun member => ⟨?_, .inr member⟩, fun kept => kept.2.resolve_left kept.1⟩
    rintro rfl
    exact fresh member

theorem record (inStep : InStep guard) (backed : Backed guard log) {record : Record}
    (single : ¬ guard.Doubles record) : InStep (guard.record blake3 record) := by
  have backed' : Backed (guard.record blake3 record) _ := backed.record record
  cases record with
  | posted entry => exact inStep.recordPosted backed single
  | dismissed originHex notificationId =>
      exact inStep.silence (silenced_recordDismissed guard originHex notificationId) backed'
  | clearAll originHex => exact inStep.silence (silenced_recordClearAll guard originHex) backed'

/-- Only an eviction takes a key out of the guard, and it takes the one that is longest in it. -/
theorem since_of_gone (inStep : InStep guard) (backed : Backed guard log) {record : Record}
    {gone other : NotificationKey} (member : gone ∈ guard.states)
    (absent : gone ∉ (guard.record blake3 record).states) (present : other ∈ guard.states)
    (apart : other ≠ gone) : Since log gone other := by
  cases record with
  | dismissed originHex notificationId =>
      exact absurd (((silenced_recordDismissed guard originHex notificationId).mem_states gone).mpr member)
        absent
  | clearAll originHex =>
      exact absurd (((silenced_recordClearAll guard originHex).mem_states gone).mpr member) absent
  | posted entry =>
      revert absent
      refine recordPosted_cases (motive := fun after => gone ∉ after.states → Since log gone other) entry
        ?_ ?_ ?_
      · exact fun _ absent => absurd ((AList.mem_insert _).mpr (.inr member)) absent
      · exact fun _ _ absent => absurd ((AList.mem_insert _).mpr (.inr member)) absent
      · intro _ oldest rest ring _ absent
        have first : gone = oldest := by
          by_contra kept
          exact absent ((AList.mem_insert _).mpr (.inr (AList.mem_erase.mpr ⟨kept, member⟩)))
        subst first
        have distinct := inStep.distinct
        have younger := (inStep.tracked other).mpr present
        obtain ⟨dropped, rfl⟩ := backed.latest
        rw [ring] at distinct younger ⊢
        exact ⟨dropped, rest, rfl, (List.nodup_cons.mp distinct).1,
          (List.mem_cons.mp younger).resolve_left apart⟩

end InStep

/-- The key of a dismissed notification is in the ring already. -/
theorem Backed.not_nodup_of_doubles (backed : Backed guard log) {record : Record}
    (doubles : guard.Doubles record) : ¬ (guard.record blake3 record).evictionRing.Nodup := by
  cases record with
  | dismissed => exact doubles.elim
  | clearAll => exact doubles.elim
  | posted entry =>
      obtain ⟨dismissed, stays⟩ := doubles
      rw [isDismissed_eq_true] at dismissed
      have member : key entry ∈ guard.evictionRing :=
        backed.known _ (AList.lookup_isSome.mp (Option.isSome_of_mem dismissed))
      have twice (ring : List NotificationKey) (member : key entry ∈ ring) :
          ¬ (ring ++ [key entry]).Nodup :=
        fun distinct => (List.nodup_append.mp distinct).2.2 _ member _ List.mem_cons_self rfl
      refine recordPosted_cases (motive := fun after => ¬ after.evictionRing.Nodup) entry ?_ ?_ ?_
      · intro seen
        obtain ⟨state, found, standing⟩ := (backed.seen _).mp seen
        exact absurd (Option.some.inj (found.symm.trans dismissed)) standing
      · exact fun _ _ => twice _ member
      · intro _ oldest rest ring full
        refine twice rest ((List.mem_cons.mp (ring ▸ member)).resolve_left ?_)
        rintro rfl
        exact stays ⟨full, by rw [ring]; rfl⟩

/-- In step after each record, and no key leaves before one that came earlier. -/
structure Orderly (blake3 : Bytes → FixedBytes 32) (records : List Record) : Prop where
  inStep : ∀ before, before <+: records → InStep (new.recordAll blake3 before)
  oldest : ∀ before record, before ++ [record] <+: records →
    ∀ gone ∈ (new.recordAll blake3 before).states,
      gone ∉ (new.recordAll blake3 (before ++ [record])).states →
        ∀ other ∈ (new.recordAll blake3 before).states, other ≠ gone →
          Since (new.insertedAll blake3 before) gone other

theorem inStep_recordAll {records : List Record}
    (single : ∀ before record, before ++ [record] <+: records →
      ¬ (new.recordAll blake3 before).Doubles record) :
    InStep (new.recordAll blake3 records) := by
  induction records using List.reverseRecOn with
  | nil => exact inStep_new
  | append_singleton records record ih =>
      have earlier := ih fun before next begins => single before next (begins.trans (List.prefix_append ..))
      rw [recordAll_snoc]
      exact earlier.record (backed_recordAll blake3 records) (single records record (List.prefix_refl _))

/-- In any order of the operations the hashes are of keys that have a state, the keys with
    a state are in the ring, and there are at most 256 of them. The ring has nothing else,
    and nothing twice, and the oldest goes first, exactly if no notification is posted while
    it is dismissed, unless the ring is full and it is the one to go. -/
theorem orderly_iff (blake3 : Bytes → FixedBytes 32) (records : List Record) :
    ((∀ key ∈ (new.recordAll blake3 records).seenHashes, key ∈ (new.recordAll blake3 records).states) ∧
      (∀ key ∈ (new.recordAll blake3 records).states, key ∈ (new.recordAll blake3 records).evictionRing) ∧
      (new.recordAll blake3 records).len ≤ 256) ∧
    (Orderly blake3 records ↔
      ∀ before record, before ++ [record] <+: records → ¬ (new.recordAll blake3 before).Doubles record) := by
  have backed := backed_recordAll blake3 records
  refine ⟨⟨backed.mem_states_of_seen, backed.known, backed.len_le⟩, ?_, ?_⟩
  · intro orderly before record begins doubles
    have distinct := (orderly.inStep _ begins).distinct
    rw [recordAll_snoc] at distinct
    exact (backed_recordAll blake3 before).not_nodup_of_doubles doubles distinct
  · intro single
    have inStep (before : List Record) (begins : before <+: records) :
        InStep (new.recordAll blake3 before) :=
      inStep_recordAll fun earlier record starts => single earlier record (starts.trans begins)
    refine ⟨inStep, ?_⟩
    intro before record begins gone member absent other present apart
    rw [recordAll_snoc] at absent
    exact (inStep before ((List.prefix_append ..).trans begins)).since_of_gone
      (backed_recordAll blake3 before) member absent present apart

end InStep

/-- A notification is posted, dismissed and posted again, and is in the ring twice. -/
theorem dismissed_post_is_doubled :
    let guard := new.recordAll exampleHash
      [.posted exampleEntry, .dismissed exampleEntry.origin.toHex exampleEntry.notificationId,
        .posted exampleEntry]
    guard.evictionRing = [key exampleEntry, key exampleEntry] ∧ ¬ guard.InStep := by
  refine ⟨rfl, fun inStep => ?_⟩
  have distinct : [key exampleEntry, key exampleEntry].Nodup := inStep.distinct
  simp at distinct

end NotificationGuard

end BridgeOS.Notifications
