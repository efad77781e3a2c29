import BridgeOS.Core
import BridgeOS.Lib.Table

/-! # The directory of discovered peers

`bridge-discovery` keeps one directory for all its channels. Times are readings
of the system clock, which the caller passes in; an operation that reads it twice
gets one reading.
-/

namespace BridgeOS.Discovery

inductive IpAddr where
  | v4 (octets : FixedBytes 4)
  | v6 (octets : FixedBytes 16)
  deriving DecidableEq

structure SocketAddr where
  ip : IpAddr
  port : UInt16
  deriving DecidableEq

structure DiscoveredPeer where
  nodeId : NodeId
  deviceName : String
  deviceType : DeviceType
  addresses : List SocketAddr
  capabilities : Capabilities
  lastSeen : Nat
  deriving DecidableEq

namespace DiscoveredPeer

def new (now : Nat) (nodeId : NodeId) (deviceName : String) (deviceType : DeviceType)
    (addresses : List SocketAddr) (capabilities : Capabilities) : DiscoveredPeer :=
  ⟨nodeId, deviceName, deviceType, addresses, capabilities, now⟩

/-- A clock that has gone back expires nothing. -/
def isExpired (peer : DiscoveredPeer) (now maxAge : Nat) : Bool :=
  peer.lastSeen ≤ now && now - peer.lastSeen > maxAge

theorem isExpired_of_le {peer : DiscoveredPeer} {now maxAge : Nat} (fresh : now ≤ peer.lastSeen + maxAge) :
    peer.isExpired now maxAge = false := by
  rw [isExpired]
  simp only [Bool.and_eq_false_iff, decide_eq_false_iff_not]
  omega

/-- What a later announcement changes. -/
def refresh (existing peer : DiscoveredPeer) (now : Nat) : DiscoveredPeer :=
  { existing with
    deviceName := peer.deviceName
    deviceType := peer.deviceType
    capabilities := peer.capabilities
    addresses := peer.addresses.foldl
      (fun known address => if address ∈ known then known else known ++ [address]) existing.addresses
    lastSeen := now }

end DiscoveredPeer

/-- A peer is filed under its own identity. -/
structure PeerDirectory where
  peers : AList (fun _ : NodeId => DiscoveredPeer)
  filed : ∀ n, ∀ peer ∈ peers.lookup n, peer.nodeId = n

namespace PeerDirectory

def empty : PeerDirectory := ⟨∅, fun _ _ found => by cases found⟩

def get (directory : PeerDirectory) (nodeId : NodeId) : Option DiscoveredPeer :=
  directory.peers.lookup nodeId

def contains (directory : PeerDirectory) (nodeId : NodeId) : Bool := nodeId ∈ directory.peers

instance : Membership NodeId PeerDirectory := ⟨fun directory nodeId => nodeId ∈ directory.peers⟩

instance (nodeId : NodeId) (directory : PeerDirectory) : Decidable (nodeId ∈ directory) :=
  inferInstanceAs (Decidable (nodeId ∈ directory.peers))

def put (directory : PeerDirectory) (peer : DiscoveredPeer) : PeerDirectory where
  peers := directory.peers.insert peer.nodeId peer
  filed n other found := by
    by_cases own : n = peer.nodeId
    · subst own
      rw [AList.lookup_insert] at found
      cases found
      rfl
    · rw [AList.lookup_insert_ne own] at found
      exact directory.filed n other found

/-- The peer as it is in the directory from now on, and whether it is new. -/
def insertOrUpdate (directory : PeerDirectory) (now : Nat) (peer : DiscoveredPeer) :
    (DiscoveredPeer × Bool) × PeerDirectory :=
  match directory.get peer.nodeId with
  | some existing => ((existing.refresh peer now, false), directory.put (existing.refresh peer now))
  | none => (({ peer with lastSeen := now }, true), directory.put { peer with lastSeen := now })

def remove (directory : PeerDirectory) (nodeId : NodeId) : Option DiscoveredPeer × PeerDirectory :=
  (directory.get nodeId, {
    peers := directory.peers.erase nodeId
    filed n peer found := by
      by_cases own : n = nodeId
      · subst own
        rw [AList.lookup_erase] at found
        cases found
      · rw [AList.lookup_erase_ne own] at found
        exact directory.filed n peer found })

/-- The expired peers in the order in which the map is visited. -/
def pruneExpired (directory : PeerDirectory) (now maxAge : Nat) : List DiscoveredPeer × PeerDirectory :=
  ((directory.peers.entries.map Sigma.snd).filter fun peer => peer.isExpired now maxAge, {
    peers := directory.peers.filterValues fun _ peer => !peer.isExpired now maxAge
    filed n peer found := directory.filed n peer (AList.mem_lookup_filterValues.mp found).1 })

variable {directory : PeerDirectory} {now maxAge : Nat} {n : NodeId} {peer : DiscoveredPeer}

theorem mem_iff : n ∈ directory ↔ ∃ peer, directory.get n = some peer := by
  rw [get, ← Option.isSome_iff_exists, AList.lookup_isSome]
  rfl

theorem not_mem_empty : n ∉ empty := by
  rw [mem_iff]
  rintro ⟨peer, found⟩
  cases found

theorem get_put : (directory.put peer).get peer.nodeId = some peer := AList.lookup_insert _

theorem get_put_ne (other : n ≠ peer.nodeId) : (directory.put peer).get n = directory.get n :=
  AList.lookup_insert_ne other

theorem mem_put : n ∈ directory.put peer ↔ n = peer.nodeId ∨ n ∈ directory := AList.mem_insert _

variable (directory now peer) in
/-- What is handed back is what is stored, under the identity of the peer. -/
theorem insertOrUpdate_eq : ∃ stored : DiscoveredPeer, stored.nodeId = peer.nodeId ∧ stored.lastSeen = now ∧
    directory.insertOrUpdate now peer = ((stored, decide (peer.nodeId ∉ directory)), directory.put stored) := by
  rw [insertOrUpdate]
  cases found : directory.get peer.nodeId with
  | none =>
      have new : peer.nodeId ∉ directory := by
        rw [mem_iff, found]
        rintro ⟨_, impossible⟩
        cases impossible
      exact ⟨{ peer with lastSeen := now }, rfl, rfl, by rw [decide_eq_true new]⟩
  | some existing =>
      have known : ¬ peer.nodeId ∉ directory := not_not.mpr (mem_iff.mpr ⟨existing, found⟩)
      exact ⟨existing.refresh peer now, directory.filed _ existing found, rfl, by
        rw [decide_eq_false known]⟩

theorem mem_insertOrUpdate : n ∈ (directory.insertOrUpdate now peer).2 ↔ n = peer.nodeId ∨ n ∈ directory := by
  obtain ⟨stored, same, -, inserted⟩ := insertOrUpdate_eq directory now peer
  rw [inserted, mem_put, same]

theorem mem_remove {gone : NodeId} : n ∈ (directory.remove gone).2 ↔ n ≠ gone ∧ n ∈ directory :=
  AList.mem_erase

theorem get_pruneExpired : (directory.pruneExpired now maxAge).2.get n = some peer ↔
    directory.get n = some peer ∧ peer.isExpired now maxAge = false := by
  refine AList.mem_lookup_filterValues.trans (and_congr_right fun _ => ?_)
  rw [Bool.not_eq_true']

theorem mem_expired : peer ∈ (directory.pruneExpired now maxAge).1 ↔
    directory.get peer.nodeId = some peer ∧ peer.isExpired now maxAge = true := by
  rw [pruneExpired, List.mem_filter, List.mem_map]
  refine and_congr_left fun _ => ?_
  constructor
  · rintro ⟨⟨n, found⟩, member, rfl⟩
    have stored : found ∈ directory.peers.lookup n := AList.mem_lookup_iff.mpr member
    rw [directory.filed n found stored]
    exact stored
  · intro stored
    exact ⟨⟨peer.nodeId, peer⟩, AList.mem_lookup_iff.mp stored, rfl⟩

end PeerDirectory

inductive DiscoveryEvent where
  | peerDiscovered (peer : DiscoveredPeer)
  | peerUpdated (peer : DiscoveredPeer)
  | peerLost (nodeId : NodeId)
  | peerExpired (nodeId : NodeId)
  deriving DecidableEq

/-- What a worker does to the directory at a time, before it publishes the change. -/
inductive Operation where
  | insert (now : Nat) (peer : DiscoveredPeer)
  | dismiss (nodeId : NodeId)
  | prune (now maxAge : Nat)

/-- The directory after an operation, and the events that its worker then sends: the same
    for either worker. -/
def PeerDirectory.perform (directory : PeerDirectory) : Operation → PeerDirectory × List DiscoveryEvent
  | .insert now peer =>
      let ((peer, isNew), directory) := directory.insertOrUpdate now peer
      (directory, [if isNew then .peerDiscovered peer else .peerUpdated peer])
  | .dismiss nodeId =>
      match directory.remove nodeId with
      | (some _, directory) => (directory, [.peerLost nodeId])
      | (none, directory) => (directory, [])
  | .prune now maxAge =>
      let (expired, directory) := directory.pruneExpired now maxAge
      (directory, expired.map fun peer => .peerExpired peer.nodeId)

def PeerDirectory.carryOut (directory : PeerDirectory) :
    Option Operation → PeerDirectory × List DiscoveryEvent
  | none => (directory, [])
  | some operation => directory.perform operation

namespace PeerDirectory

variable {directory : PeerDirectory} {now maxAge : Nat} {n gone : NodeId} {peer : DiscoveredPeer}

theorem mem_perform_insert :
    n ∈ (directory.perform (.insert now peer)).1 ↔ n = peer.nodeId ∨ n ∈ directory :=
  mem_insertOrUpdate

theorem perform_dismiss_fst : (directory.perform (.dismiss gone)).1 = (directory.remove gone).2 := by
  rw [perform]
  split
  · rename_i removed
    rw [removed]
  · rename_i missing
    rw [missing]

theorem mem_perform_dismiss : n ∈ (directory.perform (.dismiss gone)).1 ↔ n ≠ gone ∧ n ∈ directory := by
  rw [perform_dismiss_fst]
  exact mem_remove

theorem perform_dismiss_snd (found : gone ∈ directory) :
    (directory.perform (.dismiss gone)).2 = [.peerLost gone] := by
  obtain ⟨peer, filed⟩ := mem_iff.mp found
  rw [perform, remove, filed]

theorem mem_perform_prune : n ∈ (directory.perform (.prune now maxAge)).1 ↔
    ∃ peer, directory.get n = some peer ∧ peer.isExpired now maxAge = false := by
  rw [mem_iff]
  exact exists_congr fun _ => get_pruneExpired

/-- A peer that is in the directory after an operation was there, or was just admitted. -/
theorem get_of_get_perform {operation : Operation}
    (found : (directory.perform operation).1.get n = some peer) :
    directory.get n = some peer ∨
      ∃ now announced, operation = .insert now announced ∧ announced.nodeId = n ∧ peer.lastSeen = now := by
  cases operation with
  | insert now announced =>
      obtain ⟨stored, same, seen, inserted⟩ := insertOrUpdate_eq directory now announced
      rw [perform, inserted] at found
      by_cases own : n = stored.nodeId
      · subst own
        rw [get_put] at found
        cases found
        exact .inr ⟨now, announced, rfl, same.symm, seen⟩
      · rw [get_put_ne own] at found
        exact .inl found
  | dismiss gone =>
      rw [perform_dismiss_fst] at found
      by_cases own : n = gone
      · subst own
        have missing : (directory.remove n).2.get n = none := AList.lookup_erase _ _
        rw [missing] at found
        cases found
      · exact .inl ((AList.lookup_erase_ne own).symm.trans found)
  | prune now maxAge => exact .inl (get_pruneExpired.mp found).1

end PeerDirectory

end BridgeOS.Discovery
