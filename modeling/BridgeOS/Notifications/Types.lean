import BridgeOS.Protocol
import BridgeOS.Lib.Text

/-! # Notifications and their messages

The types of `bridge-notifications` and their wire form. Blake3 is a parameter.
-/

namespace BridgeOS.Notifications

inductive NotificationUrgency where
  | low | normal | high | critical
  deriving DecidableEq

/-- Urgencies are ordered as they are declared. -/
def NotificationUrgency.rank : NotificationUrgency → Nat
  | .low => 0
  | .normal => 1
  | .high => 2
  | .critical => 3

inductive NotificationAction where
  | dismiss
  | openApp
  | reply (text : String)
  | custom (label key : String)
  deriving DecidableEq

inductive NotificationState where
  | active | dismissed | expired
  deriving DecidableEq

structure NotificationEntry where
  origin : NodeId
  sequence : UInt64
  postedAtMs : UInt64
  notificationId : String
  appId : String
  appName : String
  title : String
  text : String
  subText : Option String
  urgency : NotificationUrgency
  state : NotificationState
  iconHash : Option (FixedBytes 32)
  iconData : Option Bytes
  isOngoing : Bool
  deriving DecidableEq

inductive NotificationError where
  | deserialization
  | channelMismatch (expected actual : UInt16)
  deriving DecidableEq

/-- The last character boundary at or before a position; the search goes down one byte at a time. -/
def walkBack (text : List Char) : Nat → Nat
  | 0 => 0
  | boundary + 1 =>
      if Text.isCharBoundary text (boundary + 1) then boundary + 1 else walkBack text boundary

def truncateStrBytes (text : String) (maxBytes : Nat) : String :=
  if (utf8 text).length ≤ maxBytes then text
  else String.ofList (Text.truncate text.toList (walkBack text.toList maxBytes))

namespace NotificationEntry

/-- The clock is read by the caller. -/
def new (origin : NodeId) (sequence postedAtMs : UInt64)
    (notificationId appId appName title text : String) (urgency : NotificationUrgency) :
    NotificationEntry :=
  { origin, sequence, postedAtMs, notificationId, appId, appName, title, text, subText := none, urgency
    state := .active, iconHash := none, iconData := none, isOngoing := false }

/-- The text that is hashed: no field is set off from the next. -/
def hashed (entry : NotificationEntry) : Bytes :=
  entry.origin.bytes.bytes ++ utf8 entry.notificationId ++ utf8 entry.appId ++ utf8 entry.title ++
    utf8 entry.text

variable (blake3 : Bytes → FixedBytes 32)

def computeHash (entry : NotificationEntry) : FixedBytes 32 := blake3 entry.hashed

def enforceSizeLimits (entry : NotificationEntry) : NotificationEntry :=
  let entry := { entry with title := truncateStrBytes entry.title 256 }
  let entry := { entry with text := truncateStrBytes entry.text 4096 }
  match entry.iconData with
  | none => entry
  | some icon =>
      if icon.length > 65536 then
        { entry with iconData := some (icon.take 65536), iconHash := some (blake3 (icon.take 65536)) }
      else entry

/-- The hash that goes with the icon: a new one if the icon is cut. -/
def limitedIconHash (entry : NotificationEntry) : Option (FixedBytes 32) :=
  match entry.iconData with
  | none => entry.iconHash
  | some icon => if icon.length > 65536 then some (blake3 (icon.take 65536)) else entry.iconHash

/-- Title and text are cut, and the icon with its hash; every other field is as it was. -/
theorem enforceSizeLimits_eq (entry : NotificationEntry) : entry.enforceSizeLimits blake3 =
    { entry with
      title := truncateStrBytes entry.title 256
      text := truncateStrBytes entry.text 4096
      iconHash := entry.limitedIconHash blake3
      iconData := entry.iconData.map (List.take 65536) } := by
  unfold enforceSizeLimits limitedIconHash
  cases icon : entry.iconData with
  | none => simp
  | some data =>
      simp only [Option.map_some]
      split
      · rfl
      · rename_i small
        rw [List.take_of_length_le (Nat.le_of_not_gt small)]

end NotificationEntry

inductive NotificationMessage where
  | post (entry : NotificationEntry)
  | dismiss (origin : NodeId) (notificationId : String) (sequence : UInt64)
  | actionInvoked (origin : NodeId) (notificationId : String) (sequence : UInt64)
      (action : NotificationAction)
  | clearAll (origin : NodeId) (sequence : UInt64)
  deriving DecidableEq

section Codecs

open Codec

def NotificationUrgency.codec : Codec NotificationUrgency :=
  ((Variants.cons unit (.cons unit (.cons unit (.single unit)))).codec Variants.few_four_units).map
    (fun
      | .inl _ => .low
      | .inr (.inl _) => .normal
      | .inr (.inr (.inl _)) => .high
      | .inr (.inr (.inr _)) => .critical)
    (fun
      | .low => .inl ()
      | .normal => .inr (.inl ())
      | .high => .inr (.inr (.inl ()))
      | .critical => .inr (.inr (.inr ())))
    (by
      intro urgency
      cases urgency <;> rfl)

def NotificationAction.codec : Codec NotificationAction :=
  ((Variants.cons unit (.cons unit (.cons string (.single (pair string string))))).codec (by decide)).map
    (fun
      | .inl _ => .dismiss
      | .inr (.inl _) => .openApp
      | .inr (.inr (.inl text)) => .reply text
      | .inr (.inr (.inr (label, key))) => .custom label key)
    (fun
      | .dismiss => .inl ()
      | .openApp => .inr (.inl ())
      | .reply text => .inr (.inr (.inl text))
      | .custom label key => .inr (.inr (.inr (label, key))))
    (by
      intro action
      cases action <;> rfl)

def NotificationState.codec : Codec NotificationState :=
  ((Variants.cons unit (.cons unit (.single unit))).codec (by decide)).map
    (fun
      | .inl _ => .active
      | .inr (.inl _) => .dismissed
      | .inr (.inr _) => .expired)
    (fun
      | .active => .inl ()
      | .dismissed => .inr (.inl ())
      | .expired => .inr (.inr ()))
    (by
      intro state
      cases state <;> rfl)

def NotificationEntry.codec : Codec NotificationEntry :=
  (pair NodeId.codec (pair u64 (pair u64 (pair string (pair string (pair string (pair string
    (pair string (pair (option string) (pair NotificationUrgency.codec (pair NotificationState.codec
      (pair (option (fixed 32)) (pair (option bytes) bool))))))))))))).map
    (fun ⟨origin, sequence, postedAtMs, notificationId, appId, appName, title, text, subText, urgency,
        state, iconHash, iconData, isOngoing⟩ =>
      ⟨origin, sequence, postedAtMs, notificationId, appId, appName, title, text, subText, urgency,
        state, iconHash, iconData, isOngoing⟩)
    (fun e => (e.origin, e.sequence, e.postedAtMs, e.notificationId, e.appId, e.appName, e.title, e.text,
      e.subText, e.urgency, e.state, e.iconHash, e.iconData, e.isOngoing))
    (fun _ => rfl)

def NotificationMessage.codec : Codec NotificationMessage :=
  ((Variants.cons NotificationEntry.codec (.cons (pair NodeId.codec (pair string u64))
    (.cons (pair NodeId.codec (pair string (pair u64 NotificationAction.codec)))
      (.single (pair NodeId.codec u64))))).codec (by decide)).map
    (fun
      | .inl entry => .post entry
      | .inr (.inl (origin, notificationId, sequence)) => .dismiss origin notificationId sequence
      | .inr (.inr (.inl (origin, notificationId, sequence, action))) =>
          .actionInvoked origin notificationId sequence action
      | .inr (.inr (.inr (origin, sequence))) => .clearAll origin sequence)
    (fun
      | .post entry => .inl entry
      | .dismiss origin notificationId sequence => .inr (.inl (origin, notificationId, sequence))
      | .actionInvoked origin notificationId sequence action =>
          .inr (.inr (.inl (origin, notificationId, sequence, action)))
      | .clearAll origin sequence => .inr (.inr (.inr (origin, sequence))))
    (by
      intro message
      cases message <;> rfl)

end Codecs

namespace NotificationMessage

def toDataFrame (message : NotificationMessage) : DataFrame :=
  ⟨DataFrame.channelNotifications, codec.encode message⟩

def fromDataFrame (frame : DataFrame) : Except NotificationError NotificationMessage :=
  if frame.channel ≠ DataFrame.channelNotifications then
    .error (.channelMismatch DataFrame.channelNotifications frame.channel)
  else match codec.decode frame.payload with
    | none => .error .deserialization
    | some (message, _) => .ok message

def origin : NotificationMessage → NodeId
  | .post entry => entry.origin
  | .dismiss origin _ _ => origin
  | .actionInvoked origin _ _ _ => origin
  | .clearAll origin _ => origin

end NotificationMessage

end BridgeOS.Notifications
