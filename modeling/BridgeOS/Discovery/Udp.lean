import BridgeOS.Discovery.Beacon

/-! # The worker of the UDP channel

One round of `UdpDiscovery`'s loop for each thing it may wake up for. The
sequence number of a beacon is sent and never read.
-/

namespace BridgeOS.Discovery

structure UdpConfig where
  broadcastTargets : List SocketAddr
  ttl : Nat
  goodbyeOnShutdown : Bool

structure LocalAdvertisement where
  nodeId : NodeId
  deviceName : String
  deviceType : DeviceType
  port : UInt16
  capabilities : Capabilities
  seq : UInt64
  deriving DecidableEq

namespace LocalAdvertisement

def announcement (adv : LocalAdvertisement) : BeaconMessage :=
  .announcement .current adv.nodeId adv.deviceName adv.deviceType adv.port adv.capabilities adv.seq

def goodbye (adv : LocalAdvertisement) : BeaconMessage := .goodbye adv.nodeId (adv.seq + 1)

end LocalAdvertisement

/-- A datagram and where it is sent. -/
abbrev Outgoing := SocketAddr × Bytes

/-- A beacon that cannot be encoded is not sent. -/
def sendTo (targets : List SocketAddr) (message : BeaconMessage) : List Outgoing :=
  match encodeBeacon message with
  | .error _ => []
  | .ok bytes => targets.map fun target => (target, bytes)

structure UdpWorker where
  localNodeId : Option NodeId
  advertising : Option LocalAdvertisement

inductive UdpInput where
  | prune (now : Nat)
  | beaconTick
  | datagram (bytes : Bytes) (src : SocketAddr) (now : Nat)

/-- The reading of the clock that goes with an input. -/
def UdpInput.time? : UdpInput → Option Nat
  | .prune now => some now
  | .beaconTick => none
  | .datagram _ _ now => some now

/-- The peer that a worker makes of an announcement from this address. -/
def BeaconMessage.peer? (now : Nat) (src : SocketAddr) : BeaconMessage → Option DiscoveredPeer
  | .announcement _ nodeId deviceName deviceType port capabilities _ =>
      some (.new now nodeId deviceName deviceType [⟨src.ip, port⟩] capabilities)
  | _ => none

namespace UdpWorker

def advertise (worker : UdpWorker) (nodeId : NodeId) (deviceName : String) (deviceType : DeviceType)
    (port : UInt16) (capabilities : Capabilities) : UdpWorker :=
  { worker with
    localNodeId := some nodeId
    advertising := some ⟨nodeId, deviceName, deviceType, port, capabilities, 1⟩ }

def stopAdvertising (worker : UdpWorker) : UdpWorker := { worker with advertising := none }

/-- The receive buffer has 2048 bytes. -/
def hear (bytes : Bytes) : Except DiscoveryError BeaconMessage := decodeBeacon (bytes.take 2048)

def handleBeacon (worker : UdpWorker) (beacon : BeaconMessage) (src : SocketAddr) (now : Nat) :
    Option Operation × List Outgoing :=
  if worker.localNodeId = some beacon.nodeId then (none, [])
  else match beacon with
    | .announcement _ nodeId deviceName deviceType port capabilities _ =>
        (some (.insert now (.new now nodeId deviceName deviceType [⟨src.ip, port⟩] capabilities)), [])
    | .goodbye nodeId _ => (some (.dismiss nodeId), [])
    | .query _ _ =>
        match worker.advertising with
        | none => (none, [])
        | some adv => (none, sendTo [src] adv.announcement)

/-- The worker after a round, what the round does to the directory and what it sends. -/
def step (config : UdpConfig) (worker : UdpWorker) :
    UdpInput → UdpWorker × Option Operation × List Outgoing
  | .prune now => (worker, some (.prune now config.ttl), [])
  | .beaconTick =>
      match worker.advertising with
      | none => (worker, none, [])
      | some adv =>
          let adv := { adv with seq := adv.seq + 1 }
          ({ worker with advertising := some adv }, none, sendTo config.broadcastTargets adv.announcement)
  | .datagram bytes src now =>
      match hear bytes with
      | .error _ => (worker, none, [])
      | .ok beacon => (worker, worker.handleBeacon beacon src now)

/-- What is broadcast on the way out. -/
def shutdown (config : UdpConfig) (worker : UdpWorker) : List Outgoing :=
  if config.goodbyeOnShutdown then
    match worker.advertising with
    | none => []
    | some adv => sendTo config.broadcastTargets adv.goodbye
  else []

/-- A round of a worker with the directory, and the events it publishes. -/
def round (config : UdpConfig) (state : UdpWorker × PeerDirectory) (input : UdpInput) :
    (UdpWorker × PeerDirectory) × List DiscoveryEvent :=
  let step := state.1.step config input
  let carried := state.2.carryOut step.2.1
  ((step.1, carried.1), carried.2)

def rounds (config : UdpConfig) (state : UdpWorker × PeerDirectory) (inputs : List UdpInput) :
    UdpWorker × PeerDirectory :=
  inputs.foldl (fun state input => (round config state input).1) state

variable {config : UdpConfig} {worker : UdpWorker} {directory : PeerDirectory}

theorem localNodeId_step (input : UdpInput) : (worker.step config input).1.localNodeId = worker.localNodeId := by
  cases input with
  | prune now => rfl
  | beaconTick =>
      rw [step]
      split <;> rfl
  | datagram bytes src now =>
      rw [step]
      split <;> rfl

/-- A peer is inserted as a datagram announces it, unless it is the node itself. -/
theorem insert_cases {input : UdpInput} {now : Nat} {peer : DiscoveredPeer}
    (admits : (worker.step config input).2.1 = some (.insert now peer)) :
    ∃ bytes src beacon, input = .datagram bytes src now ∧ hear bytes = .ok beacon ∧
      beacon.peer? now src = some peer ∧ worker.localNodeId ≠ some peer.nodeId := by
  cases input with
  | prune => simp [step] at admits
  | beaconTick => cases advertised : worker.advertising <;> simp [step, advertised] at admits
  | datagram bytes src time =>
      cases heard : hear bytes with
      | error => simp [step, heard] at admits
      | ok beacon =>
          rw [step, heard] at admits
          unfold handleBeacon at admits
          dsimp only at admits
          split at admits
          · simp at admits
          · rename_i foreign
            cases beacon with
            | announcement =>
                cases admits
                exact ⟨bytes, src, _, rfl, heard, rfl, foreign⟩
            | goodbye => simp at admits
            | query => cases advertised : worker.advertising <;> simp [advertised] at admits

theorem time_of_insert {input : UdpInput} {now : Nat} {peer : DiscoveredPeer}
    (admits : (worker.step config input).2.1 = some (.insert now peer)) : input.time? = some now := by
  obtain ⟨bytes, src, beacon, rfl, -⟩ := insert_cases admits
  rfl

end UdpWorker

end BridgeOS.Discovery
