import BridgeOS.Discovery.Beacon
import BridgeOS.Identity.Trust

/-! # The worker of the mDNS channel

One round of `MdnsDiscovery`'s loop for each thing it may wake up for. The mDNS
daemon is not modelled: a resolved service is what the loop reads of it.
-/

namespace BridgeOS.Discovery

/-- `u32::from_str_radix` to base 16. -/
def u32FromHex (text : String) : Option UInt32 :=
  let digits := match text.toList with
    | '+' :: rest => rest
    | chars => chars
  if digits.isEmpty then none
  else
    (digits.foldlM (fun value c => do
      let digit ← Hex.value? c
      if 16 * value + digit < 2 ^ 32 then some (16 * value + digit) else none) 0).map UInt32.ofNat

structure ResolvedService where
  fullname : String
  port : UInt16
  addresses : List IpAddr
  nodeId : Option String
  name : Option String
  deviceType : Option String
  caps : Option String

def parseDiscoveredPeer (now : Nat) (nodeIdHex deviceName deviceTypeStr capabilitiesStr : Option String)
    (addresses : List SocketAddr) (fallbackName : String) : Except DiscoveryError DiscoveredPeer :=
  match nodeIdHex with
  | none => .error (.invalidTxtRecord "missing 'node_id' in TXT")
  | some hex =>
      match NodeId.fromHex hex with
      | none => .error (.invalidNodeId "invalid hex in 'node_id'")
      | some nodeId =>
          let deviceType := (deviceTypeStr.map DeviceType.fromStr).getD .unknown
          let capabilities := ((capabilitiesStr.bind u32FromHex).map Capabilities.mk).getD ⟨0⟩
          .ok (.new now nodeId (deviceName.getD fallbackName) deviceType addresses capabilities)

def parseResolvedService (now : Nat) (info : ResolvedService) : Except DiscoveryError DiscoveredPeer :=
  parseDiscoveredPeer now info.nodeId info.name info.deviceType info.caps
    (info.addresses.map fun ip => ⟨ip, info.port⟩) info.fullname

theorem addresses_of_parsed {now : Nat} {info : ResolvedService} {peer : DiscoveredPeer}
    (parsed : parseResolvedService now info = .ok peer) :
    peer.addresses = info.addresses.map fun ip => ⟨ip, info.port⟩ := by
  unfold parseResolvedService parseDiscoveredPeer at parsed
  split at parsed
  · cases parsed
  · split at parsed <;> cases parsed
    rfl

structure MdnsWorker where
  localNodeId : Option NodeId
  fullnameToNode : AList (fun _ : String => NodeId)

/-- Other service events are ignored. -/
inductive MdnsInput where
  | prune (now : Nat)
  | serviceResolved (info : ResolvedService) (now : Nat)
  | serviceRemoved (fullname : String)
  | otherEvent

namespace MdnsWorker

/-- The worker after a round, and what the round does to the directory. -/
def step (ttl : Nat) (worker : MdnsWorker) : MdnsInput → MdnsWorker × Option Operation
  | .prune now => (worker, some (.prune now ttl))
  | .serviceResolved info now =>
      match parseResolvedService now info with
      | .error _ => (worker, none)
      | .ok peer =>
          if worker.localNodeId = some peer.nodeId then (worker, none)
          else
            ({ worker with fullnameToNode := worker.fullnameToNode.insert info.fullname peer.nodeId },
              some (.insert now peer))
  | .serviceRemoved fullname =>
      ({ worker with fullnameToNode := worker.fullnameToNode.erase fullname },
        (worker.fullnameToNode.lookup fullname).map .dismiss)
  | .otherEvent => (worker, none)

def round (ttl : Nat) (state : MdnsWorker × PeerDirectory) (input : MdnsInput) :
    (MdnsWorker × PeerDirectory) × List DiscoveryEvent :=
  let step := state.1.step ttl input
  let carried := state.2.carryOut step.2
  ((step.1, carried.1), carried.2)

def rounds (ttl : Nat) (state : MdnsWorker × PeerDirectory) (inputs : List MdnsInput) :
    MdnsWorker × PeerDirectory :=
  inputs.foldl (fun state input => (round ttl state input).1) state

/-- A peer is inserted as its service is parsed, unless it is the node itself. -/
theorem insert_cases {worker : MdnsWorker} {ttl : Nat} {input : MdnsInput} {now : Nat}
    {peer : DiscoveredPeer} (admits : (worker.step ttl input).2 = some (.insert now peer)) :
    ∃ info, input = .serviceResolved info now ∧ parseResolvedService now info = .ok peer ∧
      worker.localNodeId ≠ some peer.nodeId := by
  cases input with
  | prune => simp [step] at admits
  | serviceRemoved fullname =>
      cases named : worker.fullnameToNode.lookup fullname <;> simp [step, named] at admits
  | otherEvent => simp [step] at admits
  | serviceResolved info time =>
      cases parsed : parseResolvedService time info with
      | error => simp [step, parsed] at admits
      | ok resolved =>
          simp only [step, parsed] at admits
          split at admits
          · simp at admits
          · rename_i foreign
            cases admits
            exact ⟨info, rfl, parsed, foreign⟩

end MdnsWorker

end BridgeOS.Discovery
