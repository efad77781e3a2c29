import BridgeOS.Notifications.Policy
import BridgeOS.Lib.Table

/-! # The notification engine

The guard that recognises repeated posts, and the engine that mirrors a peer's
notifications and builds messages about the local ones. What an operation puts on
the event channel is part of its result.
-/

namespace BridgeOS.Notifications

def ringCapacity : Nat := 256

/-- Notifications are told apart by their origin, in hexadecimal, and their id. -/
abbrev NotificationKey := String × String

structure NotificationGuard where
  seenHashes : AList (fun _ : NotificationKey => FixedBytes 32)
  evictionRing : List NotificationKey
  states : AList (fun _ : NotificationKey => NotificationState)

namespace NotificationGuard

variable (blake3 : Bytes → FixedBytes 32)

def new : NotificationGuard := ⟨∅, [], ∅⟩

def key (entry : NotificationEntry) : NotificationKey := (entry.origin.toHex, entry.notificationId)

def isDuplicate (guard : NotificationGuard) (entry : NotificationEntry) : Bool :=
  (guard.seenHashes.lookup (key entry)).any fun hash => hash = entry.computeHash blake3

def isDismissed (guard : NotificationGuard) (originHex notificationId : String) : Bool :=
  (guard.states.lookup (originHex, notificationId)).any fun state => state = .dismissed

def recordPosted (guard : NotificationGuard) (entry : NotificationEntry) : NotificationGuard :=
  let guard :=
    if key entry ∈ guard.seenHashes then guard
    else
      let room :=
        if guard.evictionRing.length ≥ ringCapacity then
          match guard.evictionRing with
          | [] => guard
          | oldest :: rest =>
              { seenHashes := guard.seenHashes.erase oldest
                evictionRing := rest
                states := guard.states.erase oldest }
        else guard
      { room with evictionRing := room.evictionRing ++ [key entry] }
  { guard with
    seenHashes := guard.seenHashes.insert (key entry) (entry.computeHash blake3)
    states := guard.states.insert (key entry) .active }

/-- The hash goes too, but the key stays in the ring. -/
def recordDismissed (guard : NotificationGuard) (originHex notificationId : String) :
    NotificationGuard :=
  { guard with
    states := guard.states.modify (originHex, notificationId) fun _ => .dismissed
    seenHashes := guard.seenHashes.erase (originHex, notificationId) }

def recordClearAll (guard : NotificationGuard) (originHex : String) : NotificationGuard :=
  { guard with
    states := guard.states.mapValues fun key state => if key.1 = originHex then .dismissed else state
    seenHashes := guard.seenHashes.retain fun key => key.1 ≠ originHex }

def len (guard : NotificationGuard) : Nat := guard.states.entries.length

def isEmpty (guard : NotificationGuard) : Bool := guard.states.entries.isEmpty

end NotificationGuard

namespace NotificationEntry

export NotificationGuard (key)

end NotificationEntry

inductive NotificationSyncEvent where
  | received (entry : NotificationEntry)
  | dismissed (originHex notificationId : String)
  | clearedAll (originHex : String)
  | actionInvoked (originHex notificationId : String) (action : NotificationAction)
  | policyBlocked (appId notificationId : String)
  deriving DecidableEq

/-- The mirrored notifications of each origin, oldest first. -/
abbrev ActiveRing := AList (fun _ : String => List NotificationEntry)

namespace ActiveRing

def bucket (active : ActiveRing) (originHex : String) : List NotificationEntry :=
  (active.lookup originHex).getD []

/-- The latest entry of an id replaces the one before it. -/
def store (active : ActiveRing) (originHex : String) (entry : NotificationEntry) : ActiveRing :=
  let bucket := (active.bucket originHex).filter fun e => e.notificationId ≠ entry.notificationId
  let bucket := bucket ++ [entry]
  active.insert originHex (if bucket.length > 256 then bucket.tail else bucket)

def dismissWhere (active : ActiveRing) (originHex : String) (which : NotificationEntry → Bool) :
    ActiveRing :=
  active.modify originHex fun bucket =>
    bucket.map fun entry => if which entry then { entry with state := .dismissed } else entry

end ActiveRing

structure NotificationSyncEngine where
  localNodeId : NodeId
  guard : NotificationGuard
  policy : NotificationPolicy
  active : ActiveRing
  localSequence : UInt64

namespace NotificationSyncEngine

variable (blake3 : Bytes → FixedBytes 32) (lowercase : String → String)

def new (localNodeId : NodeId) (policy : NotificationPolicy) : NotificationSyncEngine :=
  ⟨localNodeId, .new, policy, ∅, 0⟩

section Inbound

def handlePost (engine : NotificationSyncEngine) (posted : NotificationEntry) :
    NotificationSyncEngine × List NotificationSyncEvent :=
  let entry := posted.enforceSizeLimits blake3
  if engine.policy.shouldBlock lowercase entry then
    (engine, [.policyBlocked entry.appId entry.notificationId])
  else if engine.guard.isDuplicate blake3 entry then (engine, [])
  else if engine.guard.isDismissed entry.origin.toHex entry.notificationId then (engine, [])
  else
    ({ engine with
      guard := engine.guard.recordPosted blake3 entry
      active := engine.active.store entry.origin.toHex entry }, [.received entry])

def applyDismissal (engine : NotificationSyncEngine) (originHex notificationId : String) :
    NotificationSyncEngine :=
  { engine with
    guard := engine.guard.recordDismissed originHex notificationId
    active := engine.active.dismissWhere originHex fun entry => entry.notificationId = notificationId }

/-- Handling a message cannot fail. -/
def handleMessage (engine : NotificationSyncEngine) :
    NotificationMessage → NotificationSyncEngine × List NotificationSyncEvent
  | .post entry => engine.handlePost blake3 lowercase entry
  | .dismiss origin notificationId _ =>
      (engine.applyDismissal origin.toHex notificationId, [.dismissed origin.toHex notificationId])
  | .clearAll origin _ =>
      ({ engine with
        guard := engine.guard.recordClearAll origin.toHex
        active := engine.active.dismissWhere origin.toHex fun _ => true }, [.clearedAll origin.toHex])
  | .actionInvoked origin notificationId _ action =>
      (if action = .dismiss then engine.applyDismissal origin.toHex notificationId else engine,
        [.actionInvoked origin.toHex notificationId action])

def handleIncomingFrame (engine : NotificationSyncEngine) (frame : DataFrame) :
    Except NotificationError Unit × NotificationSyncEngine × List NotificationSyncEvent :=
  match NotificationMessage.fromDataFrame frame with
  | .error e => (.error e, engine, [])
  | .ok message => (.ok (), engine.handleMessage blake3 lowercase message)

/-- The engine after further messages. -/
def handleAll (engine : NotificationSyncEngine) (messages : List NotificationMessage) :
    NotificationSyncEngine :=
  messages.foldl (fun engine message => (engine.handleMessage blake3 lowercase message).1) engine

end Inbound

section Outbound

def nextSequence (engine : NotificationSyncEngine) : UInt64 × NotificationSyncEngine :=
  (engine.localSequence + 1, { engine with localSequence := engine.localSequence + 1 })

/-- Nothing is kept of a message that is built, not even of a post. -/
def buildPost (engine : NotificationSyncEngine) (postedAtMs : UInt64)
    (notificationId appId appName title text : String) (urgency : NotificationUrgency) :
    Option NotificationMessage × NotificationSyncEngine :=
  let (sequence, engine) := engine.nextSequence
  let entry := (NotificationEntry.new engine.localNodeId sequence postedAtMs notificationId appId appName
    title text urgency).enforceSizeLimits blake3
  if engine.policy.shouldBlock lowercase entry then (none, engine) else (some (.post entry), engine)

def buildDismiss (engine : NotificationSyncEngine) (notificationId : String) :
    NotificationMessage × NotificationSyncEngine :=
  let (sequence, engine) := engine.nextSequence
  (.dismiss engine.localNodeId notificationId sequence, engine)

def buildClearAll (engine : NotificationSyncEngine) : NotificationMessage × NotificationSyncEngine :=
  let (sequence, engine) := engine.nextSequence
  (.clearAll engine.localNodeId sequence, engine)

def buildAction (engine : NotificationSyncEngine) (notificationId : String)
    (action : NotificationAction) : NotificationMessage × NotificationSyncEngine :=
  let (sequence, engine) := engine.nextSequence
  (.actionInvoked engine.localNodeId notificationId sequence action, engine)

end Outbound

def activeNotifications (engine : NotificationSyncEngine) (origin : NodeId) : List NotificationEntry :=
  ((engine.active.lookup origin.toHex).map fun bucket => bucket.filter fun e => e.state = .active).getD []

end NotificationSyncEngine

end BridgeOS.Notifications
