import BridgeOS.Lib.Past
import BridgeOS.Notifications.Redelivery
import Mathlib.Logic.Function.Basic

/-! # When a mirrored notification is gone

A mirror that dismisses a notification builds its message under its own name and
keeps its own ring as it is. The ring of another mirror has the entry under the
name of the device that posted it, so the message finds nothing there. Only what
comes in the name of that device takes the notification away.
-/

namespace BridgeOS.Notifications

namespace NotificationSyncEngine

variable {blake3 : Bytes → FixedBytes 32} {lowercase : String → String} {engine : NotificationSyncEngine}
  {origin : NodeId} {notificationId : String}

section Step

variable (blake3 lowercase) (engine : NotificationSyncEngine) (origin : NodeId) (notificationId : String)

/-- A post of the notification that is taken. -/
def Lists : Input → Prop
  | .message (.post entry) => entry.origin = origin ∧ entry.notificationId = notificationId ∧
      entry.state = .active ∧ engine.Admits blake3 lowercase entry
  | _ => False

/-- The entries of an origin beside those that a post replaces. -/
def others (entry : NotificationEntry) : List NotificationEntry :=
  (engine.active.bucket entry.origin.toHex).filter fun e => e.notificationId ≠ entry.notificationId

/-- The ring of the origin is full, and the notification is the oldest in it. -/
def Crowded (entry : NotificationEntry) : Prop :=
  256 ≤ (engine.others entry).length ∧
    ∀ e ∈ (engine.others entry).tail, e.state = .active → e.notificationId ≠ notificationId

/-- What takes the notification away: a dismissal, an action that dismisses or a clearing in the
    name of its origin; or a post of its origin that is taken and comes as a dismissed one, or
    pushes it out of the ring. -/
def Drops : Input → Prop
  | .message (.dismiss named id _) => named = origin ∧ id = notificationId
  | .message (.actionInvoked named id _ action) => named = origin ∧ id = notificationId ∧ action = .dismiss
  | .message (.clearAll named _) => named = origin
  | .message (.post entry) => entry.origin = origin ∧ engine.Admits blake3 lowercase entry ∧
      if entry.notificationId = notificationId then entry.state ≠ .active
      else engine.Crowded notificationId entry
  | _ => False

end Step

/-- What a post leaves of the entries beside it: the oldest may have to make room. -/
def remaining (engine : NotificationSyncEngine) (entry : NotificationEntry) : List NotificationEntry :=
  if 256 ≤ (engine.others entry).length then (engine.others entry).tail else engine.others entry

variable {entry : NotificationEntry}

theorem others_of_mem_remaining {e : NotificationEntry} (member : e ∈ engine.remaining entry) :
    e ∈ engine.others entry := by
  unfold remaining at member
  split at member
  · exact List.mem_of_mem_tail member
  · exact member

/-- The ring of its origin after a post that is taken. -/
theorem bucket_handlePost (admits : engine.Admits blake3 lowercase entry) :
    (engine.handlePost blake3 lowercase entry).1.active.bucket entry.origin.toHex =
      engine.remaining entry ++ [entry.enforceSizeLimits blake3] := by
  have origin : (entry.enforceSizeLimits blake3).origin = entry.origin :=
    congrArg (·.origin) (entry.enforceSizeLimits_eq blake3)
  have id : (entry.enforceSizeLimits blake3).notificationId = entry.notificationId :=
    congrArg (·.notificationId) (entry.enforceSizeLimits_eq blake3)
  rw [handlePost_of_admits admits]
  dsimp only
  rw [origin, ActiveRing.bucket_store, id, ← others, remaining]
  dsimp only
  rw [List.length_append, List.length_singleton]
  split
  · rename_i full
    rw [if_pos (by omega), List.tail_append_of_ne_nil]
    rintro none
    rw [none, List.length_nil] at full
    omega
  · rw [if_neg (by omega)]

theorem shows_iff_others (own : entry.origin = origin) (apart : entry.notificationId ≠ notificationId) :
    engine.Shows origin notificationId ↔
      ∃ e ∈ engine.others entry, e.state = .active ∧ e.notificationId = notificationId := by
  rw [shows_iff, ← own]
  constructor
  · rintro ⟨e, stored, active, rfl⟩
    exact ⟨e, List.mem_filter.mpr ⟨stored, decide_eq_true apart.symm⟩, active, rfl⟩
  · rintro ⟨e, stored, found⟩
    exact ⟨e, (List.mem_filter.mp stored).1, found⟩

/-- The notification stays in the ring unless it is the one that makes room. -/
theorem exists_remaining_iff (own : entry.origin = origin) (apart : entry.notificationId ≠ notificationId) :
    (∃ e ∈ engine.remaining entry, e.state = .active ∧ e.notificationId = notificationId) ↔
      engine.Shows origin notificationId ∧ ¬ engine.Crowded notificationId entry := by
  rw [shows_iff_others own apart, remaining, Crowded]
  split
  · rename_i full
    constructor
    · rintro ⟨e, kept, active, named⟩
      exact ⟨⟨e, List.mem_of_mem_tail kept, active, named⟩, fun crowded => crowded.2 e kept active named⟩
    · rintro ⟨-, room⟩
      by_contra gone
      exact room ⟨full, fun e kept active named => gone ⟨e, kept, active, named⟩⟩
  · rename_i room
    exact ⟨fun shown => ⟨shown, fun crowded => room crowded.1⟩, fun shown => shown.1⟩

theorem shows_handlePost (own : entry.origin = origin) (admits : engine.Admits blake3 lowercase entry) :
    (engine.handlePost blake3 lowercase entry).1.Shows origin notificationId ↔
      if entry.notificationId = notificationId then entry.state = .active
      else engine.Shows origin notificationId ∧ ¬ engine.Crowded notificationId entry := by
  have limits := entry.enforceSizeLimits_eq blake3
  have id : (entry.enforceSizeLimits blake3).notificationId = entry.notificationId :=
    congrArg (·.notificationId) limits
  have state : (entry.enforceSizeLimits blake3).state = entry.state := congrArg (·.state) limits
  rw [shows_iff, ← own, bucket_handlePost admits]
  by_cases here : entry.notificationId = notificationId
  · rw [if_pos here]
    constructor
    · rintro ⟨e, stored, active, named⟩
      rcases List.mem_append.mp stored with kept | last
      · have apart := of_decide_eq_true (List.mem_filter.mp (others_of_mem_remaining kept)).2
        exact absurd (named.trans here.symm) apart
      · rw [List.mem_singleton.mp last, state] at active
        exact active
    · intro active
      exact ⟨_, List.mem_append_right _ List.mem_cons_self, state.trans active, id.trans here⟩
  · rw [if_neg here, ← exists_remaining_iff rfl here]
    simp [List.mem_append, or_and_right, exists_or, id, here]

theorem shows_handlePost_ne (other : entry.origin ≠ origin) (admits : engine.Admits blake3 lowercase entry) :
    (engine.handlePost blake3 lowercase entry).1.Shows origin notificationId ↔
      engine.Shows origin notificationId := by
  have different : origin.toHex ≠ (entry.enforceSizeLimits blake3).origin.toHex := by
    rw [NotificationEntry.enforceSizeLimits_eq]
    exact fun same => other (NodeId.toHex_injective same).symm
  rw [handlePost_of_admits admits, shows_iff, shows_iff, ActiveRing.bucket_store_ne different]

/-- The notification is shown after a step that lists it, and while nothing drops it. -/
theorem shows_take {input : Input} : (engine.take blake3 lowercase input).1.Shows origin notificationId ↔
    engine.Lists blake3 lowercase origin notificationId input ∨
      engine.Shows origin notificationId ∧ ¬ engine.Drops blake3 lowercase origin notificationId input := by
  cases input with
  | message message =>
      cases message with
      | dismiss named id sequence =>
          refine (shows_dismissWhere named (fun other => other = id) _).trans ?_
          simp [Lists, Drops, eq_comm]
      | clearAll named sequence =>
          refine (shows_dismissWhere named (fun _ => true) _).trans ?_
          simp [Lists, Drops]
      | actionInvoked named id sequence action =>
          by_cases dismisses : action = .dismiss
          · subst dismisses
            refine (shows_dismissWhere named (fun other => other = id) _).trans ?_
            simp [Lists, Drops, eq_comm]
          · simp [take, handleMessage, Lists, Drops, dismisses]
      | post entry =>
          by_cases admits : engine.Admits blake3 lowercase entry
          · by_cases own : entry.origin = origin
            · refine (shows_handlePost own admits).trans ?_
              by_cases here : entry.notificationId = notificationId <;>
                simp [Lists, Drops, own, admits, here]
            · rw [show (engine.take blake3 lowercase (.message (.post entry))).1.Shows origin notificationId ↔
                engine.Shows origin notificationId from shows_handlePost_ne own admits]
              simp [Lists, Drops, own]
          · have same : (engine.take blake3 lowercase (.message (.post entry))).1 = engine :=
              (handlePost_of_not_admits admits).1
            rw [same]
            simp [Lists, Drops, admits]
  | _ =>
      rw [(take_build blake3 lowercase engine _).resolve_left (by simp)]
      simp [Lists, Drops, Shows, activeNotifications]

theorem localNodeId_take (engine : NotificationSyncEngine) (input : Input) :
    (engine.take blake3 lowercase input).1.localNodeId = engine.localNodeId := by
  rcases take_build blake3 lowercase engine input with ⟨message, rfl⟩ | built
  · cases message with
    | post entry =>
        rw [take, handleMessage]
        by_cases admits : engine.Admits blake3 lowercase entry
        · rw [handlePost_of_admits admits]
        · rw [(handlePost_of_not_admits admits).1]
    | actionInvoked named id sequence action =>
        rw [take, handleMessage]
        dsimp only
        split <;> rfl
    | _ => rfl
  · rw [built]

/-- Some post of the notification has been taken, and nothing has taken it away since. -/
def Standing (blake3 : Bytes → FixedBytes 32) (lowercase : String → String) (engine : NotificationSyncEngine)
    (origin : NodeId) (notificationId : String) : List Input → Prop :=
  Past.Since
    (fun before => (engine.takeAll blake3 lowercase before).Lists blake3 lowercase origin notificationId)
    (fun before input =>
      ¬ (engine.takeAll blake3 lowercase before).Drops blake3 lowercase origin notificationId input)

theorem shows_takeAll_iff (localNodeId : NodeId) (policy : NotificationPolicy) (inputs : List Input) :
    ((new localNodeId policy).takeAll blake3 lowercase inputs).Shows origin notificationId ↔
      Standing blake3 lowercase (new localNodeId policy) origin notificationId inputs := by
  refine Past.iff_since (fun inputs => ((new localNodeId policy).takeAll blake3 lowercase inputs).Shows origin
    notificationId) ?_ (fun before last => ?_) inputs
  · rintro ⟨entry, listed, -⟩
    cases listed
  · rw [takeAll_snoc]
    exact shows_take

end NotificationSyncEngine

open NotificationSyncEngine

/-- The two ways in which an engine tells of a dismissal. -/
inductive Dismissal where
  | action
  | dismiss
  deriving DecidableEq

namespace Dismissal

def build (kind : Dismissal) (engine : NotificationSyncEngine) (notificationId : String) :
    NotificationMessage × NotificationSyncEngine :=
  match kind with
  | .action => engine.buildAction notificationId .dismiss
  | .dismiss => engine.buildDismiss notificationId

def input (notificationId : String) : Dismissal → Input
  | .action => .buildAction notificationId .dismiss
  | .dismiss => .buildDismiss notificationId

/-- It is in the name of the engine that built it. -/
theorem not_drops (kind : Dismissal) {builder : NotificationSyncEngine} {origin : NodeId}
    (mirrors : builder.localNodeId ≠ origin) (engine : NotificationSyncEngine) {blake3 : Bytes → FixedBytes 32}
    {lowercase : String → String} {notificationId id : String} :
    ¬ engine.Drops blake3 lowercase origin notificationId (.message (kind.build builder id).1) := by
  cases kind <;> exact fun drops => mirrors drops.1

end Dismissal

/-- The device that posts, and two that mirror what it posts. -/
inductive Device where
  | poster | mirror | other
  deriving DecidableEq

structure Trio where
  nodeId : Device → NodeId
  policy : Device → NotificationPolicy
  distinct : ∀ device, device ≠ .poster → nodeId device ≠ nodeId .poster

namespace Trio

variable (blake3 : Bytes → FixedBytes 32) (lowercase : String → String) (trio : Trio)

def start (device : Device) : NotificationSyncEngine := .new (trio.nodeId device) (trio.policy device)

/-- What has been asked of one of the devices. -/
def inputsOf (device : Device) (history : List (Device × Input)) : List Input :=
  history.filterMap fun step => if step.1 = device then some step.2 else none

/-- The devices after each has done what it was asked in this order. -/
def after (history : List (Device × Input)) : Device → NotificationSyncEngine :=
  history.foldl (fun devices step => Function.update devices step.1
    ((devices step.1).take blake3 lowercase step.2).1) trio.start

/-- No device sees what another does, unless it is told. -/
theorem after_eq (history : List (Device × Input)) (device : Device) :
    trio.after blake3 lowercase history device =
      (trio.start device).takeAll blake3 lowercase (inputsOf device history) := by
  induction history using List.reverseRecOn with
  | nil => rfl
  | append_singleton history step ih =>
      obtain ⟨actor, input⟩ := step
      rw [after, List.foldl_append, ← after, List.foldl_cons, List.foldl_nil, inputsOf, List.filterMap_append,
        ← inputsOf]
      by_cases here : actor = device
      · subst here
        rw [Function.update_self, ih]
        simp [takeAll_snoc]
      · rw [Function.update_of_ne (Ne.symm here), ih]
        simp [here]

theorem localNodeId_after (history : List (Device × Input)) (device : Device) :
    (trio.after blake3 lowercase history device).localNodeId = trio.nodeId device := by
  rw [after_eq]
  generalize inputsOf device history = inputs
  induction inputs using List.reverseRecOn with
  | nil => rfl
  | append_singleton inputs input ih => rw [takeAll_snoc, localNodeId_take, ih]

/-- In every run, whatever the devices do and handle in whatever order: the notification is on
    neither mirror's list exactly if, on each of them, the last post of it that was taken has been
    followed by something of its origin that takes it away. What a mirror builds to dismiss it
    never does. -/
theorem gone_iff (notificationId : String) (history : List (Device × Input)) :
    (¬ (trio.after blake3 lowercase history .other).Shows (trio.nodeId .poster) notificationId ∧
      ¬ (trio.after blake3 lowercase history .mirror).Shows (trio.nodeId .poster) notificationId ↔
      ∀ device, device ≠ .poster → ¬ Standing blake3 lowercase (trio.start device) (trio.nodeId .poster)
        notificationId (inputsOf device history)) ∧
    ∀ kind engine before, ¬ Drops blake3 lowercase engine (trio.nodeId .poster) notificationId
      (.message (Dismissal.build kind (trio.after blake3 lowercase before .mirror) notificationId).1) := by
  constructor
  · rw [after_eq, after_eq, start, start, shows_takeAll_iff, shows_takeAll_iff]
    constructor
    · rintro ⟨other, mirror⟩ device mirrors
      cases device with
      | poster => exact absurd rfl mirrors
      | mirror => exact mirror
      | other => exact other
    · exact fun gone => ⟨gone .other (by decide), gone .mirror (by decide)⟩
  · intro kind engine before
    apply Dismissal.not_drops
    rw [localNodeId_after]
    exact trio.distinct .mirror (by decide)

end Trio

section Example

def exampleTrio : Trio where
  nodeId
    | .poster => ⟨.fill 32 1⟩
    | .mirror => ⟨.fill 32 2⟩
    | .other => ⟨.fill 32 3⟩
  policy _ := examplePolicy
  distinct device mirrors := by
    cases device with
    | poster => exact absurd rfl mirrors
    | mirror => decide
    | other => decide

theorem exampleTrio_lists (device : Device) : (exampleTrio.start device).Lists exampleHash Text.toAsciiLowercase
    exampleEntry.origin exampleEntry.notificationId (.message (.post exampleEntry)) := by
  refine ⟨rfl, rfl, rfl, admits_new ?_⟩
  rw [exampleEntry_limits]
  exact exampleEntry_allowed

/-- The poster's post is shown on both mirrors; one dismisses it, and the poster and the
    other mirror are told: it is still shown on both. -/
theorem dismissal_reaches_no_mirror : examplePost.1 = some (.post exampleEntry) ∧
    ∀ kind : Dismissal,
      let posted : List (Device × Input) := [
        (.poster, .buildPost 0 "7" "com.whatsapp" "WhatsApp" "Hi" "there" .normal),
        (.mirror, .message (.post exampleEntry)), (.other, .message (.post exampleEntry))]
      let mirror := exampleTrio.after exampleHash Text.toAsciiLowercase posted .mirror
      let message := (kind.build mirror exampleEntry.notificationId).1
      let reached := exampleTrio.after exampleHash Text.toAsciiLowercase (posted ++
        [(.mirror, kind.input exampleEntry.notificationId), (.poster, .message message), (.other, .message message)])
      (reached .mirror).Shows exampleEntry.origin exampleEntry.notificationId ∧
        (reached .other).Shows exampleEntry.origin exampleEntry.notificationId := by
  constructor
  · rw [examplePost_eq]
  · intro kind posted mirror message reached
    have shown (device : Device) := shows_take.mpr (.inl (exampleTrio_lists device))
    constructor
    · rw [show reached .mirror = _ from exampleTrio.after_eq ..]
      refine shows_take.mpr (.inr ⟨shown .mirror, ?_⟩)
      cases kind <;> exact id
    · rw [show reached .other = _ from exampleTrio.after_eq ..]
      refine shows_take.mpr (.inr ⟨shown .other, Dismissal.not_drops kind ?_ _⟩)
      rw [show mirror.localNodeId = _ from exampleTrio.localNodeId_after ..]
      decide

end Example

end BridgeOS.Notifications
