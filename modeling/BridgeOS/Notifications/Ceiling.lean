import BridgeOS.Lib.WireSize
import BridgeOS.Notifications.Limits
import BridgeOS.Notifications.Reposting

/-! # The payload ceiling

A policy has a ceiling for the encoded message that the gate does not consult. What
passes the gate is below it exactly if the lengths of the fields it was given add up
to no more, where title, text and icon count up to their limits; the other fields are
as long as they like.
-/

namespace BridgeOS.Notifications

open Codec

namespace NotificationEntry

variable (blake3 : Bytes → FixedBytes 32)

/-- The fields that are not limited. -/
def openSize (entry : NotificationEntry) : Nat :=
  textSize entry.notificationId + textSize entry.appId + textSize entry.appName +
    optionSize textSize entry.subText

/-- The numbers, and 36 bytes: 32 of the origin, the variant of the message, the urgency,
    the state and the flag. -/
def fixedSize (entry : NotificationEntry) : Nat :=
  36 + varintSize entry.sequence.toNat + varintSize entry.postedAtMs.toNat

def wireSize (entry : NotificationEntry) : Nat :=
  entry.fixedSize + entry.openSize + textSize entry.title + textSize entry.text +
    optionSize (fun _ => 32) entry.iconHash + optionSize bytesSize entry.iconData

/-- What is left of a text takes up: it ends at the last character boundary within the limit. -/
def cutSize (text : String) (limit : Nat) : Nat :=
  lengthSize (Nat.findGreatest (fun position => Text.isCharBoundary text.toList position = true) limit)

/-- The size after the limits, from the fields as they are given. An icon that is cut has a hash. -/
def limitedSize (entry : NotificationEntry) : Nat :=
  entry.fixedSize + entry.openSize + cutSize entry.title 256 + cutSize entry.text 4096 +
    (if ∃ icon ∈ entry.iconData, 65536 < icon.length then 33 else optionSize (fun _ => 32) entry.iconHash) +
    optionSize (fun icon => lengthSize (min 65536 icon.length)) entry.iconData

theorem length_urgency (urgency : NotificationUrgency) : (NotificationUrgency.codec.encode urgency).length = 1 := by
  cases urgency <;> rfl

theorem length_state (state : NotificationState) : (NotificationState.codec.encode state).length = 1 := by
  cases state <;> rfl

theorem length_codec (entry : NotificationEntry) : (codec.encode entry).length + 1 = entry.wireSize := by
  have origin : (NodeId.codec.encode entry.origin).length = 32 := entry.origin.bytes.size
  have hash := length_option (c := fixed 32) length_fixed entry.iconHash
  rw [codec, Codec.map]
  simp only [length_pair, length_u64, length_string, length_bool, length_urgency, length_state,
    length_option length_string, length_option length_bytes, hash, origin, wireSize, fixedSize, openSize]
  omega

theorem textSize_truncateStrBytes (text : String) (limit : Nat) :
    textSize (truncateStrBytes text limit) = cutSize text limit := by
  rw [textSize, bytesSize, truncateStrBytes_eq, Text.length_utf8_ofList, (Text.cut_spec text.toList limit).2]
  rfl

theorem optionSize_limitedIconHash (entry : NotificationEntry) :
    optionSize (fun _ => 32) (entry.limitedIconHash blake3) =
      if ∃ icon ∈ entry.iconData, 65536 < icon.length then 33 else optionSize (fun _ => 32) entry.iconHash := by
  unfold limitedIconHash
  cases entry.iconData with
  | none => simp
  | some icon =>
      by_cases long : icon.length > 65536
      · simp [long, optionSize]
      · simp [long]

theorem wireSize_enforceSizeLimits (entry : NotificationEntry) :
    (entry.enforceSizeLimits blake3).wireSize = entry.limitedSize := by
  have icon : optionSize bytesSize (entry.iconData.map (List.take 65536)) =
      optionSize (fun icon => lengthSize (min 65536 icon.length)) entry.iconData := by
    cases entry.iconData with
    | none => rfl
    | some icon => simp [optionSize, bytesSize, lengthSize]
  rw [enforceSizeLimits_eq, wireSize, limitedSize, icon, optionSize_limitedIconHash, textSize_truncateStrBytes,
    textSize_truncateStrBytes]
  rfl

end NotificationEntry

theorem NotificationMessage.length_post (entry : NotificationEntry) :
    (NotificationMessage.codec.encode (.post entry)).length = entry.wireSize := by
  rw [← entry.length_codec]
  exact Variants.length_codec _ (by decide) (Sum.inl entry)

namespace NotificationSyncEngine

variable {blake3 : Bytes → FixedBytes 32} {lowercase : String → String}

theorem buildPost_fst (engine : NotificationSyncEngine) (postedAtMs : UInt64)
    (notificationId appId appName title text : String) (urgency : NotificationUrgency) :
    (engine.buildPost blake3 lowercase postedAtMs notificationId appId appName title text urgency).1 =
      let entry := (NotificationEntry.new engine.localNodeId (engine.localSequence + 1) postedAtMs
        notificationId appId appName title text urgency).enforceSizeLimits blake3
      if engine.policy.shouldBlock lowercase entry then none else some (.post entry) := by
  unfold buildPost nextSequence
  dsimp only
  rw [apply_ite Prod.fst]

/-- What passes the gate is within the ceiling exactly if the fields it was given add up to
    no more after the limits, on its way out and on its way in. As a post came in it is
    within the ceiling exactly if the fields add up to no more as they are. -/
theorem within_ceiling_iff (blake3 : Bytes → FixedBytes 32) (lowercase : String → String)
    (engine : NotificationSyncEngine) :
    (∀ postedAtMs notificationId appId appName title text urgency,
      let given := NotificationEntry.new engine.localNodeId (engine.localSequence + 1) postedAtMs notificationId
        appId appName title text urgency
      (∀ message, (engine.buildPost blake3 lowercase postedAtMs notificationId appId appName title text
          urgency).1 = some message →
        (NotificationMessage.codec.encode message).length ≤ engine.policy.maxPayloadBytes) ↔
        engine.policy.shouldBlock lowercase (given.enforceSizeLimits blake3) = true ∨
          given.limitedSize ≤ engine.policy.maxPayloadBytes) ∧
    ∀ given, let events := (engine.handleMessage blake3 lowercase (.post given)).2
      ((∀ entry, .received entry ∈ events →
        (NotificationMessage.codec.encode (.post entry)).length ≤ engine.policy.maxPayloadBytes) ↔
        ¬ engine.Admits blake3 lowercase given ∨ given.limitedSize ≤ engine.policy.maxPayloadBytes) ∧
      ((∀ entry, .received entry ∈ events →
        (NotificationMessage.codec.encode (.post given)).length ≤ engine.policy.maxPayloadBytes) ↔
        ¬ engine.Admits blake3 lowercase given ∨ given.wireSize ≤ engine.policy.maxPayloadBytes) := by
  constructor
  · intro postedAtMs notificationId appId appName title text urgency given
    rw [buildPost_fst, ← given.wireSize_enforceSizeLimits blake3, ← NotificationMessage.length_post]
    by_cases blocked : engine.policy.shouldBlock lowercase (given.enforceSizeLimits blake3) = true
    · simp [given, blocked]
    · simp [given, blocked]
  · intro given events
    rw [← given.wireSize_enforceSizeLimits blake3, ← NotificationMessage.length_post,
      ← NotificationMessage.length_post]
    by_cases admits : engine.Admits blake3 lowercase given
    · have received : events = [.received (given.enforceSizeLimits blake3)] :=
        congrArg Prod.snd (handlePost_of_admits admits)
      simp [received, admits]
    · have nothing : ∀ entry, .received entry ∉ events := (handlePost_of_not_admits admits).2
      simp [nothing, admits]

end NotificationSyncEngine

section Example

open NotificationSyncEngine

/-- From an application with a long name. -/
def longNamed (name : String) : NotificationEntry := .new ⟨.fill 32 9⟩ 1 0 "1" "" name "" "" .critical

theorem contains_empty {word : String} (nonempty : word ≠ "") : Text.contains "" word = false := by
  rw [Text.contains, decide_eq_false_iff_not, String.toList_empty, List.infix_nil, String.toList_eq_nil_iff]
  exact nonempty

theorem longNamed_allowed (policy : NotificationPolicy) (name : String) :
    policy.shouldBlock Text.toAsciiLowercase (longNamed name) = false := by
  have blank : Text.toAsciiLowercase "" = "" := rfl
  have app : NotificationPolicy.isSensitiveApp Text.toAsciiLowercase "" = false := by
    rw [NotificationPolicy.isSensitiveApp, blank, List.any_eq_false]
    intro id listed
    have some : id ≠ "" := fun none => absurd (none ▸ listed) (by simp [sensitiveAppIds])
    simp [contains_empty some]
  have words : NotificationPolicy.hasSensitiveKeywords Text.toAsciiLowercase (longNamed name) = false := by
    rw [NotificationPolicy.hasSensitiveKeywords, List.any_eq_false]
    intro word listed
    have some : word ≠ "" := fun none => absurd (none ▸ listed) (by simp [sensitiveTitleKeywords])
    simp [longNamed, NotificationEntry.new, blank, contains_empty some]
  have urgent : ¬ NotificationUrgency.critical.rank < policy.minUrgency.rank := by
    cases policy.minUrgency <;> decide
  rw [NotificationPolicy.shouldBlock, words]
  simp [longNamed, NotificationEntry.new, urgent, app]

theorem utf8Len_replicate (n : Nat) : String.utf8Len (List.replicate n 'n') = n := by
  induction n with
  | zero => rfl
  | succ n ih =>
      rw [List.replicate_succ, String.utf8Len_cons, ih]
      rfl

/-- Whatever the ceiling, there is a message above it that is sent and received. -/
theorem exists_above_ceiling (policy : NotificationPolicy) : ∃ name : String,
    ((new ⟨.fill 32 9⟩ policy).buildPost exampleHash Text.toAsciiLowercase 0 "1" "" name "" "" .critical).1 =
        some (.post (longNamed name)) ∧
      ((new ⟨.fill 32 8⟩ policy).handleMessage exampleHash Text.toAsciiLowercase
        (.post (longNamed name))).2 = [.received (longNamed name)] ∧
      policy.maxPayloadBytes < (NotificationMessage.codec.encode (.post (longNamed name))).length := by
  refine ⟨String.ofList (List.replicate policy.maxPayloadBytes 'n'), ?_⟩
  generalize length : String.ofList (List.replicate policy.maxPayloadBytes 'n') = name
  have allowed := longNamed_allowed policy name
  have limits : (longNamed name).enforceSizeLimits exampleHash = longNamed name := rfl
  refine ⟨?_, ?_, ?_⟩
  · rw [buildPost_fst]
    exact if_neg (Bool.eq_false_iff.mp allowed)
  · have opened : (new ⟨.fill 32 8⟩ policy).guard.Refines .empty := NotificationGuard.refines_new
    have takes : Book.empty.Takes exampleHash Text.toAsciiLowercase (new ⟨.fill 32 8⟩ policy).policy
        ((longNamed name).enforceSizeLimits exampleHash) :=
      Book.takes_of_unknown allowed rfl
    rw [handleMessage, handlePost_of_takes opened takes, limits]
  · have long : (utf8 name).length = policy.maxPayloadBytes := by
      rw [← length, Text.length_utf8_ofList, utf8Len_replicate]
    have part : bytesSize (utf8 name) ≤ (longNamed name).openSize := by
      rw [NotificationEntry.openSize]
      exact Nat.le_trans (Nat.le_add_left ..) (Nat.le_add_right ..)
    rw [NotificationMessage.length_post, NotificationEntry.wireSize, NotificationEntry.fixedSize]
    rw [bytesSize, lengthSize, long] at part
    omega

/-- The ceiling of 128 KiB that is the default is not kept. -/
theorem ceiling_is_not_consulted :
    NotificationPolicy.default.maxPayloadBytes = 131072 ∧ ∃ name : String,
      ((new ⟨.fill 32 9⟩ .default).buildPost exampleHash Text.toAsciiLowercase 0 "1" "" name "" ""
        .critical).1 = some (.post (longNamed name)) ∧
      ((new ⟨.fill 32 8⟩ .default).handleMessage exampleHash Text.toAsciiLowercase
        (.post (longNamed name))).2 = [.received (longNamed name)] ∧
      131072 < (NotificationMessage.codec.encode (.post (longNamed name))).length :=
  ⟨rfl, exists_above_ceiling .default⟩

end Example

end BridgeOS.Notifications
