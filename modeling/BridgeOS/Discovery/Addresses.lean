import BridgeOS.Discovery.Replay
import BridgeOS.Lib.Distinct

/-! # The addresses of a peer

A later announcement adds the addresses that are new, one at a time. The announcement
that brings a peer into the directory is stored as it is, so an address that it names
twice is there twice for as long as the peer is.
-/

namespace BridgeOS.Discovery

theorem DiscoveredPeer.refresh_addresses (existing peer : DiscoveredPeer) (now : Nat) :
    (existing.refresh peer now).addresses = Distinct.addAll existing.addresses peer.addresses := rfl

namespace PeerDirectory

section Histories

/-- The directory after these operations, the first of them on an empty one. -/
def afterAll (operations : List Operation) : PeerDirectory :=
  operations.foldl (fun directory operation => (directory.perform operation).1) .empty

/-- The announcement was made at that point, and its node has been in the directory ever since. -/
def Since (operations before : List Operation) (now : Nat) (announced : DiscoveredPeer) : Prop :=
  ∃ later, operations = before ++ .insert now announced :: later ∧
    ∀ done, done <+: later → announced.nodeId ∈ afterAll (before ++ .insert now announced :: done)

/-- An announcement of a node since it was last absent. -/
def Remembered (operations : List Operation) (announced : DiscoveredPeer) : Prop :=
  ∃ before now, Since operations before now announced

/-- The first announcement of a node since it was last absent. -/
def Admitted (operations : List Operation) (announced : DiscoveredPeer) : Prop :=
  ∃ before now, Since operations before now announced ∧ announced.nodeId ∉ afterAll before

variable {operations before : List Operation} {operation : Operation} {now : Nat} {announced : DiscoveredPeer}

theorem afterAll_snoc (operations : List Operation) (operation : Operation) :
    afterAll (operations ++ [operation]) = ((afterAll operations).perform operation).1 := by
  simp [afterAll]

theorem Since.present (since : Since operations before now announced) :
    announced.nodeId ∈ afterAll operations := by
  obtain ⟨later, rfl, stays⟩ := since
  exact stays later (List.prefix_refl later)

theorem since_snoc : Since (operations ++ [operation]) before now announced ↔
    announced.nodeId ∈ afterAll (operations ++ [operation]) ∧
      (Since operations before now announced ∨ before = operations ∧ operation = .insert now announced) := by
  constructor
  · intro since
    refine ⟨since.present, ?_⟩
    obtain ⟨later, split, stays⟩ := since
    -- the announcement is the last operation, or there is a last one behind it
    rcases List.eq_nil_or_concat later with rfl | ⟨front, last, rfl⟩
    · obtain ⟨same, ends⟩ := List.append_inj' split rfl
      exact .inr ⟨same.symm, List.head_eq_of_cons_eq ends⟩
    · rw [List.concat_eq_append, ← List.cons_append, ← List.append_assoc] at split
      obtain ⟨same, -⟩ := List.append_inj' split rfl
      refine .inl ⟨front, same, fun done begins => stays done ?_⟩
      rw [List.concat_eq_append]
      exact begins.trans (List.prefix_append front [last])
  · rintro ⟨present, ⟨later, rfl, stays⟩ | ⟨rfl, rfl⟩⟩
    · refine ⟨later ++ [operation], by simp, fun done begins => ?_⟩
      rcases List.prefix_concat_iff.mp begins with rfl | inside
      · simpa using present
      · exact stays done inside
    · refine ⟨[], rfl, fun done begins => ?_⟩
      rw [List.prefix_nil.mp begins]
      exact present

theorem remembered_snoc : Remembered (operations ++ [operation]) announced ↔
    announced.nodeId ∈ afterAll (operations ++ [operation]) ∧
      (Remembered operations announced ∨ ∃ now, operation = .insert now announced) := by
  simp only [Remembered, since_snoc]
  constructor
  · rintro ⟨before, now, present, since | ⟨-, inserted⟩⟩
    · exact ⟨present, .inl ⟨before, now, since⟩⟩
    · exact ⟨present, .inr ⟨now, inserted⟩⟩
  · rintro ⟨present, ⟨before, now, since⟩ | ⟨now, inserted⟩⟩
    · exact ⟨before, now, present, .inl since⟩
    · exact ⟨operations, now, present, .inr ⟨rfl, inserted⟩⟩

theorem Admitted.snoc (admitted : Admitted operations announced)
    (present : announced.nodeId ∈ afterAll (operations ++ [operation])) :
    Admitted (operations ++ [operation]) announced := by
  obtain ⟨before, now, since, absent⟩ := admitted
  exact ⟨before, now, since_snoc.mpr ⟨present, .inl since⟩, absent⟩

end Histories

variable {directory : PeerDirectory} {operation : Operation} {now : Nat} {n : NodeId}
  {peer announced : DiscoveredPeer}

theorem get_insert_new (absent : announced.nodeId ∉ directory) :
    (directory.perform (.insert now announced)).1.get announced.nodeId =
      some { announced with lastSeen := now } := by
  cases found : directory.get announced.nodeId with
  | none =>
      rw [perform, insertOrUpdate, found]
      exact get_put
  | some existing => exact absurd (mem_iff.mpr ⟨existing, found⟩) absent

theorem get_insert_known {existing : DiscoveredPeer}
    (found : directory.get announced.nodeId = some existing) :
    (directory.perform (.insert now announced)).1.get announced.nodeId =
      some (existing.refresh announced now) := by
  have filed : (existing.refresh announced now).nodeId = announced.nodeId :=
    directory.filed _ existing found
  rw [perform, insertOrUpdate, found, ← filed]
  exact get_put

/-- What an operation that does not announce a node leaves of it was there before. -/
theorem get_of_unannounced (silent : ∀ now announced, operation = .insert now announced → announced.nodeId ≠ n)
    (found : (directory.perform operation).1.get n = some peer) : directory.get n = some peer := by
  rcases get_of_get_perform found with kept | ⟨now, announced, inserted, own, -⟩
  · exact kept
  · exact absurd own (silent now announced inserted)

section Run

/-- The addresses of a peer are those announced since it was last absent, and repeat
    nothing that its first announcement did not. -/
structure Collected (operations : List Operation) (peer : DiscoveredPeer) : Prop where
  addresses : ∀ address, address ∈ peer.addresses ↔
    ∃ announced, Remembered operations announced ∧ announced.nodeId = peer.nodeId ∧
      address ∈ announced.addresses
  nodup_iff : ∃ first, Admitted operations first ∧ first.nodeId = peer.nodeId ∧
    (peer.addresses.Nodup ↔ first.addresses.Nodup)

variable {operations : List Operation}

theorem present_snoc_insert (operations : List Operation) (now : Nat) (announced : DiscoveredPeer) :
    announced.nodeId ∈ afterAll (operations ++ [.insert now announced]) := by
  rw [afterAll_snoc]
  exact mem_perform_insert.mpr (.inl rfl)

theorem collected_new (absent : announced.nodeId ∉ afterAll operations) :
    Collected (operations ++ [.insert now announced]) { announced with lastSeen := now } := by
  have present := present_snoc_insert operations now announced
  refine ⟨fun address => ?_, announced, ⟨operations, now, ?_, absent⟩, rfl, Iff.rfl⟩
  · constructor
    · intro member
      exact ⟨announced, remembered_snoc.mpr ⟨present, .inr ⟨now, rfl⟩⟩, rfl, member⟩
    · rintro ⟨other, remembered, own, member⟩
      -- nothing is remembered of a node that was absent just before
      rcases (remembered_snoc.mp remembered).2 with ⟨before, time, since⟩ | ⟨time, inserted⟩
      · have there := since.present
        rw [own] at there
        exact absurd there absent
      · cases inserted
        exact member
  · exact since_snoc.mpr ⟨present, .inr ⟨rfl, rfl⟩⟩

theorem collected_refresh {existing : DiscoveredPeer} (own : existing.nodeId = announced.nodeId)
    (collected : Collected operations existing) :
    Collected (operations ++ [.insert now announced]) (existing.refresh announced now) := by
  have present := present_snoc_insert operations now announced
  obtain ⟨first, admitted, same, nodup⟩ := collected.nodup_iff
  refine ⟨fun address => ?_, first, admitted.snoc ?_, same, ?_⟩
  · rw [DiscoveredPeer.refresh_addresses, Distinct.mem_addAll, collected.addresses]
    constructor
    · rintro (⟨other, remembered, about, member⟩ | member)
      · refine ⟨other, remembered_snoc.mpr ⟨?_, .inl remembered⟩, about, member⟩
        rw [about, own]
        exact present
      · exact ⟨announced, remembered_snoc.mpr ⟨present, .inr ⟨now, rfl⟩⟩, own.symm, member⟩
    · rintro ⟨other, remembered, about, member⟩
      rcases (remembered_snoc.mp remembered).2 with before | ⟨time, inserted⟩
      · exact .inl ⟨other, before, about, member⟩
      · cases inserted
        exact .inr member
  · rw [same, own]
    exact present
  · rw [DiscoveredPeer.refresh_addresses, Distinct.nodup_addAll]
    exact nodup

theorem collected_silent (present : peer.nodeId ∈ afterAll (operations ++ [operation]))
    (silent : ∀ now announced, operation = .insert now announced → announced.nodeId ≠ peer.nodeId)
    (collected : Collected operations peer) : Collected (operations ++ [operation]) peer := by
  obtain ⟨first, admitted, same, nodup⟩ := collected.nodup_iff
  refine ⟨fun address => ?_, first, admitted.snoc ?_, same, nodup⟩
  · rw [collected.addresses]
    refine exists_congr fun other => and_congr_left fun about => ?_
    rw [remembered_snoc, about.1]
    constructor
    · intro remembered
      exact ⟨present, .inl remembered⟩
    · rintro ⟨-, remembered | ⟨now, inserted⟩⟩
      · exact remembered
      · exact absurd about.1 (silent now other inserted)
  · rw [same]
    exact present

/-- From operation to operation, for whatever node. -/
theorem collected_afterAll (operations : List Operation) (n : NodeId) (peer : DiscoveredPeer)
    (found : (afterAll operations).get n = some peer) : Collected operations peer := by
  induction operations using List.reverseRecOn generalizing n peer with
  | nil => cases found
  | append_singleton operations operation ih =>
      have own := (afterAll (operations ++ [operation])).filed n peer found
      have present : n ∈ afterAll (operations ++ [operation]) := mem_iff.mpr ⟨peer, found⟩
      rw [afterAll_snoc] at found
      by_cases about : ∃ now announced, operation = .insert now announced ∧ announced.nodeId = n
      · obtain ⟨now, announced, rfl, rfl⟩ := about
        cases known : (afterAll operations).get announced.nodeId with
        | none =>
            have absent : announced.nodeId ∉ afterAll operations := by
              rw [mem_iff, known]
              simp
            rw [get_insert_new absent] at found
            cases found
            exact collected_new absent
        | some existing =>
            rw [get_insert_known known] at found
            cases found
            exact collected_refresh ((afterAll operations).filed _ existing known) (ih _ existing known)
      · have silent : ∀ now announced, operation = .insert now announced → announced.nodeId ≠ n :=
          fun now announced inserted same => about ⟨now, announced, inserted, same⟩
        rw [← own] at present silent
        exact collected_silent present silent (ih n peer (get_of_unannounced (own ▸ silent) found))

end Run

/-- For every sequence of operations. -/
theorem addresses_collected (operations : List Operation) (n : NodeId) (peer : DiscoveredPeer)
    (found : (afterAll operations).get n = some peer) :
    peer.nodeId = n ∧
      (∀ address, address ∈ peer.addresses ↔
        ∃ announced, Remembered operations announced ∧ announced.nodeId = n ∧
          address ∈ announced.addresses) ∧
      ∃ first, Admitted operations first ∧ first.nodeId = n ∧
        (peer.addresses.Nodup ↔ first.addresses.Nodup) := by
  obtain rfl := (afterAll operations).filed n peer found
  obtain ⟨addresses, nodup⟩ := collected_afterAll operations peer.nodeId peer found
  exact ⟨rfl, addresses, nodup⟩

/-- A node at one address and then at another. -/
theorem addresses_collected_of_two :
    let operations : List Operation := [1, 2].map fun n =>
      .insert 0 (.new 0 (exampleNode 1) "a" .unknown [⟨.v4 (.fill 4 n), 8443⟩] ⟨0⟩)
    ∃ peer, (afterAll operations).get (exampleNode 1) = some peer ∧
      peer.addresses = [⟨.v4 (.fill 4 1), 8443⟩, ⟨.v4 (.fill 4 2), 8443⟩] ∧
      ∀ address ∈ peer.addresses, ∃ announced, Remembered operations announced ∧
        announced.nodeId = exampleNode 1 ∧ address ∈ announced.addresses := by
  intro operations
  have first : (afterAll (operations.take 1)).get (exampleNode 1) = _ := get_insert_new not_mem_empty
  have found : (afterAll operations).get (exampleNode 1) = _ := get_insert_known first
  exact ⟨_, found, rfl, fun address => ((addresses_collected _ _ _ found).2.1 address).mp⟩

end PeerDirectory

section Scopes

/-- An address as the mDNS daemon hands it over: with the interface it is valid on. -/
structure ScopedIp where
  ip : IpAddr
  scope : Nat
  deriving DecidableEq

def ScopedIp.toIpAddr (address : ScopedIp) : IpAddr := address.ip

/-- `fe80::1`. -/
def linkLocal : IpAddr := .v6 ⟨[0xfe, 0x80, 0, 0, 0, 0, 0, 0, 0, 0, 0, 0, 0, 0, 0, 1], rfl⟩

/-- Two interfaces know the same link-local address. -/
def scopedTwice : List ScopedIp := [⟨linkLocal, 1⟩, ⟨linkLocal, 2⟩]

def serviceTwice : ResolvedService :=
  ⟨"a", 8443, scopedTwice.map ScopedIp.toIpAddr, some (exampleNode 1).toHex, none, none, none⟩

def peerTwice : DiscoveredPeer :=
  .new 0 (exampleNode 1) "a" .unknown [⟨linkLocal, 8443⟩, ⟨linkLocal, 8443⟩] ⟨0⟩

/-- The daemon reports each of its addresses once; without the interface two of them are
    the same, and the new peer is stored with both. -/
theorem address_stored_twice : scopedTwice.Nodup ∧
    (MdnsWorker.step 0 ⟨none, ∅⟩ (.serviceResolved serviceTwice 0)).2 = some (.insert 0 peerTwice) ∧
    ∃ peer, (PeerDirectory.afterAll [.insert 0 peerTwice]).get (exampleNode 1) = some peer ∧
      ¬ peer.addresses.Nodup := by
  have parsed : parseResolvedService 0 serviceTwice = .ok peerTwice := by
    rw [parseResolvedService, serviceTwice, parseDiscoveredPeer, NodeId.fromHex_toHex]
    rfl
  refine ⟨by decide, ?_, { peerTwice with lastSeen := 0 }, ?_, by decide⟩
  · rw [MdnsWorker.step, parsed]
    rfl
  · exact PeerDirectory.get_insert_new PeerDirectory.not_mem_empty

end Scopes

namespace Discovering

variable {ttl : Nat} {config : UdpConfig}

/-- What a move does to the directory. -/
def Move.operation (ttl : Nat) (config : UdpConfig) (d : Discovering) : Move → Option Operation
  | .mdns input => (d.mdns.step ttl input).2
  | .udp input => (d.udp.step config input).2.1
  | .sends _ => none
  | .advertises => none

theorem afterAll_carryOut (operations : List Operation) (operation : Option Operation) :
    PeerDirectory.afterAll (operations ++ operation.toList) =
      ((PeerDirectory.afterAll operations).carryOut operation).1 := by
  cases operation with
  | none => simp [PeerDirectory.carryOut]
  | some operation => exact PeerDirectory.afterAll_snoc operations operation

theorem Step.directory_eq {d d' : Discovering} {move : Move} (taken : Step ttl config d move d') :
    d'.directory = (d.directory.carryOut (move.operation ttl config d)).1 := by
  cases taken <;> rfl

/-- The directory is what the workers' operations make of an empty one, in the order they
    were done. -/
theorem Run.directory_eq {mdns udp : Option NodeId} {advertising : Option LocalAdvertisement}
    {visits : List (Discovering × Move)} {d : Discovering}
    (run : Run ttl config (initial mdns udp advertising) visits d) :
    d.directory =
      PeerDirectory.afterAll (visits.filterMap fun visit => visit.2.operation ttl config visit.1) := by
  induction run with
  | start => rfl
  | @step visits d d' move _ taken ih =>
      have last : [(d, move)].filterMap (fun visit => visit.2.operation ttl config visit.1) =
          (move.operation ttl config d).toList := by
        cases made : move.operation ttl config d <;> simp [made]
      rw [taken.directory_eq, ih, List.filterMap_append, last, afterAll_carryOut]

/-- If no service is resolved with the same address twice, no peer is ever stored with one:
    a beacon brings one address. -/
theorem Run.addresses_nodup {mdns udp : Option NodeId} {advertising : Option LocalAdvertisement}
    {visits : List (Discovering × Move)} {d : Discovering}
    (run : Run ttl config (initial mdns udp advertising) visits d)
    (distinct : ∀ visit ∈ visits, ∀ info now, visit.2 = .mdns (.serviceResolved info now) →
      info.addresses.Nodup)
    {n : NodeId} {peer : DiscoveredPeer} (found : d.directory.get n = some peer) : peer.addresses.Nodup := by
  rw [Run.directory_eq run] at found
  obtain ⟨first, ⟨before, now, ⟨later, split, -⟩, -⟩, -, nodup⟩ :=
    (PeerDirectory.collected_afterAll _ n peer found).nodup_iff
  have made : Operation.insert now first ∈
      visits.filterMap fun visit => visit.2.operation ttl config visit.1 := by simp [split]
  obtain ⟨⟨state, move⟩, member, admits⟩ := List.mem_filterMap.mp made
  rw [nodup]
  cases move with
  | mdns input =>
      obtain ⟨info, rfl, parsed, -⟩ := MdnsWorker.insert_cases admits
      rw [addresses_of_parsed parsed]
      refine (distinct _ member info now rfl).map fun a b same => ?_
      cases same
      rfl
  | udp input =>
      obtain ⟨bytes, src, beacon, -, -, announced, -⟩ := UdpWorker.insert_cases admits
      cases beacon with
      | announcement =>
          cases announced
          exact List.nodup_singleton _
      | _ => cases announced
  | sends | advertises => cases admits

end Discovering

end BridgeOS.Discovery
