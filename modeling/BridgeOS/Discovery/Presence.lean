import BridgeOS.Discovery.Addresses
import BridgeOS.Lib.Past

/-! # Who is listed, and for how long

A node is listed exactly if it was announced, and has since neither left nor been silent
for too long when a worker pruned. Both workers prune the one directory, each by its own
limit, so a node that is only heard of on one channel goes by the limit of the other as well.
-/

namespace BridgeOS.Discovery

/-- What is shown of a peer is what was last announced of it, and when. Addresses that were
    announced earlier are shown as well. -/
structure DiscoveredPeer.Shows (peer announced : DiscoveredPeer) (now : Nat) : Prop where
  deviceName : peer.deviceName = announced.deviceName
  deviceType : peer.deviceType = announced.deviceType
  capabilities : peer.capabilities = announced.capabilities
  addresses : ∀ address ∈ announced.addresses, address ∈ peer.addresses
  lastSeen : peer.lastSeen = now

/-- An operation that says nothing new of a node, and leaves it listed if it was announced
    at that time. -/
def Operation.Spares (n : NodeId) (seen : Nat) : Operation → Prop
  | .insert _ peer => peer.nodeId ≠ n
  | .dismiss gone => gone ≠ n
  | .prune now maxAge => now ≤ seen + maxAge

theorem DiscoveredPeer.isExpired_eq_false {peer : DiscoveredPeer} {now maxAge : Nat} :
    peer.isExpired now maxAge = false ↔ now ≤ peer.lastSeen + maxAge := by
  refine ⟨fun fresh => ?_, isExpired_of_le⟩
  simp only [isExpired, Bool.and_eq_false_iff, decide_eq_false_iff_not] at fresh
  omega

namespace PeerDirectory

variable {directory : PeerDirectory} {operation : Operation} {operations : List Operation}
  {n : NodeId} {seen : Nat} {announced peer : DiscoveredPeer}

theorem get_insert_ne {now : Nat} (other : announced.nodeId ≠ n) :
    (directory.perform (.insert now announced)).1.get n = directory.get n := by
  obtain ⟨stored, same, -, inserted⟩ := insertOrUpdate_eq directory now announced
  have apart : n ≠ stored.nodeId := by simpa [same] using other.symm
  rw [perform, inserted]
  exact get_put_ne apart

theorem get_dismiss_ne {gone : NodeId} (other : gone ≠ n) :
    (directory.perform (.dismiss gone)).1.get n = directory.get n := by
  rw [perform_dismiss_fst]
  exact AList.lookup_erase_ne other.symm

variable (directory) in
/-- An announcement is shown, whether or not its node was listed. -/
theorem shows_insert (now : Nat) (announced : DiscoveredPeer) :
    ∃ peer, (directory.perform (.insert now announced)).1.get announced.nodeId = some peer ∧
      peer.Shows announced now := by
  cases found : directory.get announced.nodeId with
  | none =>
      have absent : announced.nodeId ∉ directory := by simp [mem_iff, found]
      exact ⟨_, get_insert_new absent, rfl, rfl, rfl, fun address member => member, rfl⟩
  | some existing =>
      refine ⟨_, get_insert_known found, rfl, rfl, rfl, fun address member => ?_, rfl⟩
      exact Distinct.mem_addAll.mpr (.inr member)

/-- A peer stays as it is exactly if the operation spares it. -/
theorem get_perform_iff_spares (found : directory.get n = some peer)
    (silent : ∀ now announced, operation = .insert now announced → announced.nodeId ≠ n) :
    (directory.perform operation).1.get n = some peer ↔ operation.Spares n peer.lastSeen := by
  cases operation with
  | insert now announced =>
      have other := silent now announced rfl
      exact iff_of_true ((get_insert_ne other).trans found) other
  | dismiss gone =>
      by_cases same : gone = n
      · subst same
        have missing : (directory.perform (.dismiss gone)).1.get gone = none := by
          rw [perform_dismiss_fst]
          exact AList.lookup_erase _ _
        simp [missing, Operation.Spares]
      · exact iff_of_true ((get_dismiss_ne same).trans found) same
  | prune now maxAge =>
      refine get_pruneExpired.trans ?_
      simp [found, DiscoveredPeer.isExpired_eq_false, Operation.Spares]

/-- The node was announced at that time, and every operation since has spared it. -/
def Stay (operations : List Operation) (n : NodeId) (seen : Nat) (announced : DiscoveredPeer) : Prop :=
  announced.nodeId = n ∧ Past.Since (fun _ operation => operation = .insert seen announced)
    (fun _ operation => operation.Spares n seen) operations

theorem Stay.shown (stay : Stay operations n seen announced) :
    ∃ peer, (afterAll operations).get n = some peer ∧ peer.Shows announced seen := by
  induction operations using List.reverseRecOn with
  | nil => exact absurd stay.2 Past.not_since_nil
  | append_singleton operations operation ih =>
      obtain ⟨rfl, since⟩ := stay
      rw [afterAll_snoc]
      rcases Past.since_snoc.mp since with rfl | ⟨before, spares⟩
      · exact shows_insert _ seen announced
      · obtain ⟨peer, found, shows⟩ := ih ⟨rfl, before⟩
        refine ⟨peer, (get_perform_iff_spares found ?_).mpr ?_, shows⟩
        · rintro now other rfl
          exact spares
        · rw [shows.lastSeen]
          exact spares

/-- Whoever is listed was announced and has been spared since. -/
theorem exists_stay (found : (afterAll operations).get n = some peer) :
    ∃ announced, Stay operations n peer.lastSeen announced := by
  induction operations using List.reverseRecOn generalizing peer with
  | nil => cases found
  | append_singleton operations operation ih =>
      rw [afterAll_snoc] at found
      by_cases about : ∃ now announced, operation = .insert now announced ∧ announced.nodeId = n
      · obtain ⟨now, announced, rfl, rfl⟩ := about
        obtain ⟨shown, stored, shows⟩ := shows_insert (afterAll operations) now announced
        rw [stored] at found
        cases found
        rw [shows.lastSeen]
        exact ⟨announced, rfl, Past.since_snoc.mpr (.inl rfl)⟩
      · have silent : ∀ now announced, operation = .insert now announced → announced.nodeId ≠ n :=
          fun now announced inserted same => about ⟨now, announced, inserted, same⟩
        have kept := get_of_unannounced silent found
        obtain ⟨announced, own, since⟩ := ih kept
        exact ⟨announced, own, Past.since_snoc.mpr (.inr ⟨since, (get_perform_iff_spares kept silent).mp found⟩)⟩

end PeerDirectory

namespace Discovering

variable {ttl : Nat} {config : UdpConfig} {visits : List (Discovering × Move)} {d : Discovering}
  {n : NodeId} {seen : Nat} {announced : DiscoveredPeer}

theorem mdns_prune_iff {worker : MdnsWorker} {input : MdnsInput} {now maxAge : Nat} :
    (worker.step ttl input).2 = some (.prune now maxAge) ↔ input = .prune now ∧ maxAge = ttl := by
  cases input with
  | prune time =>
      simp only [MdnsWorker.step, Option.some.injEq, Operation.prune.injEq, MdnsInput.prune.injEq]
      exact and_congr_right fun _ => eq_comm
  | serviceResolved info time =>
      rw [MdnsWorker.step]
      cases parseResolvedService time info with
      | error => simp
      | ok peer =>
          dsimp only
          split <;> simp
  | serviceRemoved fullname =>
      cases named : worker.fullnameToNode.lookup fullname <;> simp [MdnsWorker.step, named]
  | otherEvent => simp [MdnsWorker.step]

theorem udp_prune_iff {worker : UdpWorker} {input : UdpInput} {now maxAge : Nat} :
    (worker.step config input).2.1 = some (.prune now maxAge) ↔ input = .prune now ∧ maxAge = config.ttl := by
  cases input with
  | prune time =>
      simp only [UdpWorker.step, Option.some.injEq, Operation.prune.injEq, UdpInput.prune.injEq]
      exact and_congr_right fun _ => eq_comm
  | beaconTick => cases advertised : worker.advertising <;> simp [UdpWorker.step, advertised]
  | datagram bytes src time =>
      rw [UdpWorker.step]
      cases UdpWorker.hear bytes with
      | error => simp
      | ok beacon =>
          unfold UdpWorker.handleBeacon
          dsimp only
          split
          · simp
          · cases beacon with
            | announcement | goodbye => simp
            | query => cases worker.advertising <;> simp

/-- Each worker prunes by its own limit. -/
theorem operation_eq_prune {move : Move} {now maxAge : Nat} :
    move.operation ttl config d = some (.prune now maxAge) ↔
      move = .mdns (.prune now) ∧ maxAge = ttl ∨ move = .udp (.prune now) ∧ maxAge = config.ttl := by
  cases move with
  | mdns input => simpa [Move.operation] using mdns_prune_iff
  | udp input => simpa [Move.operation] using udp_prune_iff
  | sends | advertises => simp [Move.operation]

/-- A move that leaves a node listed, and says nothing new of it, if it was announced at that
    time. -/
def Spared (ttl : Nat) (config : UdpConfig) (n : NodeId) (seen : Nat) (visit : Discovering × Move) : Prop :=
  match visit.2 with
  | .mdns (.prune now) => now ≤ seen + ttl
  | .udp (.prune now) => now ≤ seen + config.ttl
  | move => move.operation ttl config visit.1 ≠ some (.dismiss n) ∧
      ∀ now peer, move.operation ttl config visit.1 = some (.insert now peer) → peer.nodeId ≠ n

/-- In this run the node was announced at that time, and every move since has spared it. -/
def Held (ttl : Nat) (config : UdpConfig) (visits : List (Discovering × Move)) (n : NodeId) (seen : Nat)
    (announced : DiscoveredPeer) : Prop :=
  announced.nodeId = n ∧
    Past.Since (fun _ visit => visit.2.operation ttl config visit.1 = some (.insert seen announced))
      (fun _ visit => Spared ttl config n seen visit) visits

theorem spared_iff {visit : Discovering × Move} : Spared ttl config n seen visit ↔
    ∀ operation ∈ visit.2.operation ttl config visit.1, operation.Spares n seen := by
  obtain ⟨d, move⟩ := visit
  unfold Spared
  split
  · rename_i now same
    cases same
    simp [Move.operation, MdnsWorker.step, Operation.Spares]
  · rename_i now same
    cases same
    simp [Move.operation, UdpWorker.step, Operation.Spares]
  · rename_i mdns udp
    constructor
    · rintro ⟨stays, unheard⟩ operation made
      cases operation with
      | insert now peer => exact unheard now peer made
      | dismiss gone =>
          rintro rfl
          exact stays made
      | prune now maxAge =>
          rcases operation_eq_prune.mp made with ⟨same, -⟩ | ⟨same, -⟩
          · exact absurd same (mdns now)
          · exact absurd same (udp now)
    · intro spared
      exact ⟨fun gone => spared _ gone rfl, fun now peer heard => spared _ heard⟩

/-- What the moves of a run do to the directory spares a node exactly if the moves do. -/
theorem stay_iff_held :
    PeerDirectory.Stay (visits.filterMap fun visit => visit.2.operation ttl config visit.1) n seen announced ↔
      Held ttl config visits n seen announced := by
  simp only [PeerDirectory.Stay, Held, Past.since_filterMap, spared_iff, exists_eq_right, Option.mem_def]

/-- In every run of both workers, for every node: it is listed exactly while it is held, and
    what is shown of it is what was announced last. -/
theorem presence_exact (ttl : Nat) (config : UdpConfig) {mdns udp : Option NodeId}
    {advertising : Option LocalAdvertisement} {visits : List (Discovering × Move)} {d : Discovering}
    (run : Run ttl config (initial mdns udp advertising) visits d) (n : NodeId) :
    (∀ peer, d.directory.get n = some peer →
      ∃ announced, Held ttl config visits n peer.lastSeen announced ∧ peer.Shows announced peer.lastSeen) ∧
    ∀ seen announced, Held ttl config visits n seen announced →
      ∃ peer, d.directory.get n = some peer ∧ peer.Shows announced seen := by
  rw [run.directory_eq]
  constructor
  · intro peer found
    obtain ⟨announced, stay⟩ := PeerDirectory.exists_stay found
    obtain ⟨shown, stored, shows⟩ := stay.shown
    rw [found] at stored
    cases stored
    exact ⟨announced, stay_iff_held.mp stay, shows⟩
  · intro seen announced held
    exact (stay_iff_held.mpr held).shown

/-- A service that was resolved a moment ago. -/
theorem presence_exact_of_found :
    ∃ peer, exampleFound.directory.get (exampleNode 1) = some peer ∧ peer.Shows (examplePeer "a" 1) 0 := by
  have run : Run 0 exampleConfig exampleStart [(exampleStart, .mdns (exampleService "a" 1))] exampleFound :=
    Visits.start.step exampleFound_step
  refine (presence_exact 0 exampleConfig run (exampleNode 1)).2 0 _ ⟨rfl, [], _, [], rfl, ?_, by simp⟩
  exact congrArg Prod.snd (exampleService_step exampleStart.mdns rfl)

end Discovering

end BridgeOS.Discovery
