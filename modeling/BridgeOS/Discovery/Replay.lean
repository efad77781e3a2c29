import BridgeOS.Discovery.BeaconOrder
import BridgeOS.Discovery.Instances
import BridgeOS.Lib.Visits

/-! # Replaying the discovery events

Both workers change one directory and publish what they changed on one channel,
the change first and its event later. Between the two the other worker may change
the same peer and publish first, so that a stale event comes last.
-/

namespace BridgeOS.Discovery

namespace DiscoveryEvent

def nodeId : DiscoveryEvent → NodeId
  | .peerDiscovered peer => peer.nodeId
  | .peerUpdated peer => peer.nodeId
  | .peerLost nodeId => nodeId
  | .peerExpired nodeId => nodeId

def adds : DiscoveryEvent → Bool
  | .peerDiscovered _ => true
  | .peerUpdated _ => true
  | .peerLost _ => false
  | .peerExpired _ => false

end DiscoveryEvent

/-- Who is there for someone that has read these events. -/
def replay (events : List DiscoveryEvent) : NodeId → Bool :=
  events.foldl (fun listed event => Function.update listed event.nodeId event.adds) fun _ => false

theorem replay_snoc_self (events : List DiscoveryEvent) (event : DiscoveryEvent) :
    replay (events ++ [event]) event.nodeId = event.adds := by
  rw [replay, List.foldl_append]
  exact Function.update_self ..

theorem replay_snoc_ne {event : DiscoveryEvent} {n : NodeId} (other : n ≠ event.nodeId)
    (events : List DiscoveryEvent) : replay (events ++ [event]) n = replay events n := by
  rw [replay, List.foldl_append]
  exact Function.update_of_ne other ..

variable {directory : PeerDirectory} {operation : Option Operation}

/-- An operation says of every node that it adds or removes. -/
theorem PeerDirectory.mem_perform_of_silent {operation : Operation} {n : NodeId}
    (silent : ∀ event ∈ (directory.perform operation).2, event.nodeId ≠ n) :
    n ∈ (directory.perform operation).1 ↔ n ∈ directory := by
  cases operation with
  | insert now peer =>
      obtain ⟨stored, same, -, inserted⟩ := insertOrUpdate_eq directory now peer
      have other : peer.nodeId ≠ n := by
        rw [← same]
        refine fun equal => silent (if decide (peer.nodeId ∉ directory) then .peerDiscovered stored
          else .peerUpdated stored) ?_ ?_
        · rw [perform, inserted]
          exact List.mem_cons_self
        · split
          · exact equal
          · exact equal
      rw [mem_perform_insert]
      exact or_iff_right (Ne.symm other)
  | dismiss gone =>
      rw [mem_perform_dismiss, and_iff_right_iff_imp]
      rintro present rfl
      refine silent (.peerLost n) ?_ rfl
      rw [perform_dismiss_snd present]
      exact List.mem_cons_self
  | prune now maxAge =>
      rw [mem_perform_prune, mem_iff]
      refine exists_congr fun peer => and_iff_left_of_imp fun found => ?_
      by_contra expired
      have own := directory.filed n peer found
      refine silent (.peerExpired peer.nodeId) ?_ own
      refine List.mem_map.mpr ⟨peer, mem_expired.mpr ⟨?_, ?_⟩, rfl⟩
      · rw [own]
        exact found
      · simpa using expired

theorem PeerDirectory.mem_carryOut_of_silent {n : NodeId}
    (silent : ∀ event ∈ (directory.carryOut operation).2, event.nodeId ≠ n) :
    n ∈ (directory.carryOut operation).1 ↔ n ∈ directory := by
  cases operation with
  | none => rfl
  | some operation => exact mem_perform_of_silent silent

inductive Worker where
  | mdns
  | udp
  deriving DecidableEq

/-- Both workers with the directory and the channel that they share, and the events that
    each still has to send. -/
structure Discovering where
  mdns : MdnsWorker
  udp : UdpWorker
  directory : PeerDirectory
  unsent : Worker → List DiscoveryEvent
  channel : List DiscoveryEvent

namespace Discovering

def initial (mdns udp : Option NodeId) (advertising : Option LocalAdvertisement) : Discovering :=
  ⟨⟨mdns, ∅⟩, ⟨udp, advertising⟩, .empty, fun _ => [], []⟩

inductive Move where
  | mdns (input : MdnsInput)
  | udp (input : UdpInput)
  | sends (worker : Worker)
  | advertises

variable (ttl : Nat) (config : UdpConfig)

/-- A worker that has sent everything does its next operation; the events of one prune may
    be in any order. A worker that has not sends the next event. Advertising is started and
    stopped from outside. -/
inductive Step : Discovering → Move → Discovering → Prop where
  | mdns {d : Discovering} {input : MdnsInput} {events : List DiscoveryEvent} (free : d.unsent .mdns = [])
      (order : events.Perm (d.directory.carryOut (d.mdns.step ttl input).2).2) :
      Step d (.mdns input) { d with
        mdns := (d.mdns.step ttl input).1
        directory := (d.directory.carryOut (d.mdns.step ttl input).2).1
        unsent := Function.update d.unsent .mdns events }
  | udp {d : Discovering} {input : UdpInput} {events : List DiscoveryEvent} (free : d.unsent .udp = [])
      (order : events.Perm (d.directory.carryOut (d.udp.step config input).2.1).2) :
      Step d (.udp input) { d with
        udp := (d.udp.step config input).1
        directory := (d.directory.carryOut (d.udp.step config input).2.1).1
        unsent := Function.update d.unsent .udp events }
  | sends {d : Discovering} {worker : Worker} {event : DiscoveryEvent} {rest : List DiscoveryEvent}
      (next : d.unsent worker = event :: rest) :
      Step d (.sends worker) { d with
        unsent := Function.update d.unsent worker rest
        channel := d.channel ++ [event] }
  | advertises {d : Discovering} (mdns udp : Option NodeId) (advertising : Option LocalAdvertisement) :
      Step d .advertises { d with
        mdns := { d.mdns with localNodeId := mdns }
        udp := ⟨udp, advertising⟩ }

abbrev Run : Discovering → List (Discovering × Move) → Discovering → Prop := Visits (Step ttl config)

/-- Neither worker is between an operation and the event that follows it. -/
def Idle (d : Discovering) : Prop := ∀ worker, d.unsent worker = []

/-- The events tell who is in the directory. -/
def Replays (d : Discovering) : Prop := ∀ n, n ∈ d.directory ↔ replay d.channel n = true

/-- An event that is sent is not stale, or the other worker has yet to send one about the
    same node. -/
def Current (d : Discovering) : Move → Prop
  | .sends worker => ∀ event rest, d.unsent worker = event :: rest →
      (event.adds = true ↔ event.nodeId ∈ d.directory) ∨
        ∃ other, other ≠ worker ∧ ∃ later ∈ d.unsent other, later.nodeId = event.nodeId
  | _ => True

/-- What the events do not tell yet is still to be sent. -/
def Owed (d : Discovering) : Prop :=
  ∀ n, (n ∈ d.directory ↔ replay d.channel n = true) ∨ ∃ worker, ∃ event ∈ d.unsent worker, event.nodeId = n

variable {ttl config} {d d' : Discovering} {move : Move}

/-- A worker sends all that it has to. -/
theorem exists_sent (ttl : Nat) (config : UdpConfig) (worker : Worker) (d : Discovering) :
    ∃ visits, Run ttl config d visits
      { d with unsent := Function.update d.unsent worker [], channel := d.channel ++ d.unsent worker } := by
  generalize left : d.unsent worker = events
  induction events generalizing d with
  | nil =>
      rw [← left, Function.update_eq_self, left, List.append_nil]
      exact ⟨[], .start⟩
  | cons event rest ih =>
      let next : Discovering :=
        { d with unsent := Function.update d.unsent worker rest, channel := d.channel ++ [event] }
      have sends : Step ttl config d (.sends worker) next := .sends left
      obtain ⟨visits, run⟩ := ih next (Function.update_self ..)
      simp only [next, Function.update_idem, List.append_assoc, List.singleton_append] at run
      exact ⟨_, (Visits.start.step sends).trans run⟩

variable {events : List DiscoveryEvent}

/-- An operation of a worker that has nothing left to send. -/
theorem Owed.operate (owed : d.Owed) {worker : Worker} (free : d.unsent worker = [])
    (order : events.Perm (d.directory.carryOut operation).2) (n : NodeId) :
    (n ∈ (d.directory.carryOut operation).1 ↔ replay d.channel n = true) ∨
      ∃ other, ∃ event ∈ Function.update d.unsent worker events other, event.nodeId = n := by
  by_cases told : ∃ event ∈ events, event.nodeId = n
  · right
    refine ⟨worker, ?_⟩
    rw [Function.update_self]
    exact told
  · have same : n ∈ (d.directory.carryOut operation).1 ↔ n ∈ d.directory := by
      apply PeerDirectory.mem_carryOut_of_silent
      intro event member about
      exact told ⟨event, order.mem_iff.mpr member, about⟩
    rcases owed n with known | ⟨other, event, member, about⟩
    · exact .inl (same.trans known)
    · right
      refine ⟨other, event, ?_, about⟩
      have apart : other ≠ worker := by
        rintro rfl
        rw [free] at member
        cases member
      rw [Function.update_of_ne apart]
      exact member

theorem Owed.send (owed : d.Owed) {worker : Worker} {event : DiscoveryEvent} {rest : List DiscoveryEvent}
    (next : d.unsent worker = event :: rest) (current : d.Current (.sends worker)) (n : NodeId) :
    (n ∈ d.directory ↔ replay (d.channel ++ [event]) n = true) ∨
      ∃ other, ∃ later ∈ Function.update d.unsent worker rest other, later.nodeId = n := by
  by_cases about : n = event.nodeId
  · subst about
    rcases current event rest next with agrees | ⟨other, apart, later, member, same⟩
    · left
      rw [replay_snoc_self]
      exact agrees.symm
    · right
      refine ⟨other, later, ?_, same⟩
      rw [Function.update_of_ne apart]
      exact member
  · rcases owed n with known | ⟨other, later, member, same⟩
    · left
      rw [replay_snoc_ne about]
      exact known
    · right
      refine ⟨other, later, ?_, same⟩
      by_cases here : other = worker
      · subst here
        rw [next] at member
        rw [Function.update_self]
        refine (List.mem_cons.mp member).resolve_left ?_
        rintro rfl
        exact about same.symm
      · rw [Function.update_of_ne here]
        exact member

theorem Step.owed (taken : Step ttl config d move d') (owed : d.Owed) (current : d.Current move) : d'.Owed := by
  cases taken with
  | mdns free order => exact owed.operate free order
  | udp free order => exact owed.operate free order
  | sends next => exact owed.send next current
  | advertises => exact owed

theorem owed_initial (mdns udp : Option NodeId) (advertising : Option LocalAdvertisement) :
    (initial mdns udp advertising).Owed :=
  fun _ => .inl (iff_of_false PeerDirectory.not_mem_empty Bool.false_ne_true)

/-- In every run in which no stale event is the last about its node, the events tell who
    is in the directory whenever both workers are idle. -/
theorem events_replay_directory (ttl : Nat) (config : UdpConfig) {mdns udp : Option NodeId}
    {advertising : Option LocalAdvertisement} {visits : List (Discovering × Move)} {d : Discovering}
    (run : Run ttl config (initial mdns udp advertising) visits d)
    (current : ∀ visit ∈ visits, visit.1.Current visit.2) (idle : d.Idle) : d.Replays := by
  intro n
  have owed := run.keeps (owed_initial mdns udp advertising) (fun taken current owed => taken.owed owed current) current
  rcases owed n with known | ⟨worker, event, member, -⟩
  · exact known
  · rw [idle worker] at member
    cases member

section Example

theorem Step.of_mdns {input : MdnsInput} {mdns : MdnsWorker} (free : d.unsent .mdns = [])
    (stepped : d.mdns.step ttl input = (mdns, operation))
    (carried : d.directory.carryOut operation = (directory, events)) :
    Step ttl config d (.mdns input)
      { d with mdns, directory, unsent := Function.update d.unsent .mdns events } := by
  have taken : Step ttl config d (.mdns input) _ := Step.mdns free (List.Perm.refl _)
  rw [stepped] at taken
  dsimp only at taken
  rw [carried] at taken
  exact taken

theorem Step.of_udp {input : UdpInput} {udp : UdpWorker} {outgoing : List Outgoing} (free : d.unsent .udp = [])
    (stepped : d.udp.step config input = (udp, operation, outgoing))
    (carried : d.directory.carryOut operation = (directory, events)) :
    Step ttl config d (.udp input)
      { d with udp, directory, unsent := Function.update d.unsent .udp events } := by
  have taken : Step ttl config d (.udp input) _ := Step.udp free (List.Perm.refl _)
  rw [stepped] at taken
  dsimp only at taken
  rw [carried] at taken
  exact taken

def exampleGoodbye : BeaconMessage := .goodbye (exampleNode 1) 3

theorem exampleService_step (worker : MdnsWorker) (other : worker.localNodeId = none) :
    worker.step 0 (exampleService "a" 1) =
      ({ worker with fullnameToNode := worker.fullnameToNode.insert "a" (exampleNode 1) },
        some (.insert 0 (examplePeer "a" 1))) := by
  rw [exampleService, MdnsWorker.step, exampleService_parsed, other]
  rfl

theorem exampleGoodbye_step : UdpWorker.step exampleConfig ⟨none, none⟩ (deliver exampleGoodbye) =
    (⟨none, none⟩, some (.dismiss (exampleNode 1)), []) := by
  obtain ⟨bytes, sent⟩ : ∃ bytes, encodeBeacon exampleGoodbye = .ok bytes := ⟨_, rfl⟩
  rw [deliver_eq sent, UdpWorker.step, hear_encodeBeacon sent]
  rfl

/-- The directory with the node, and without it again. -/
def present : PeerDirectory := (PeerDirectory.empty.perform (.insert 0 (examplePeer "a" 1))).1

def absent : PeerDirectory := (present.perform (.dismiss (exampleNode 1))).1

theorem carried_insert : PeerDirectory.empty.carryOut (some (.insert 0 (examplePeer "a" 1))) =
    (present, [.peerDiscovered (examplePeer "a" 1)]) := rfl

theorem mem_present : exampleNode 1 ∈ present := PeerDirectory.mem_perform_insert.mpr (.inl rfl)

theorem carried_dismiss : present.carryOut (some (.dismiss (exampleNode 1))) =
    (absent, [.peerLost (exampleNode 1)]) :=
  Prod.ext rfl (PeerDirectory.perform_dismiss_snd mem_present)

def exampleStart : Discovering := initial none none none

/-- mDNS has found the node and has not told yet. -/
def exampleFound : Discovering :=
  { exampleStart with
    mdns := ⟨none, (∅ : AList fun _ : String => NodeId).insert "a" (exampleNode 1)⟩
    directory := present
    unsent := Function.update (fun _ => []) .mdns [.peerDiscovered (examplePeer "a" 1)] }

theorem exampleFound_step :
    Step 0 exampleConfig exampleStart (.mdns (exampleService "a" 1)) exampleFound :=
  Step.of_mdns rfl (exampleService_step _ rfl) carried_insert

/-- UDP has removed the node, and neither worker has told. -/
def exampleLost : Discovering :=
  { exampleFound with
    directory := absent
    unsent := Function.update exampleFound.unsent .udp [.peerLost (exampleNode 1)] }

theorem exampleLost_step :
    Step 0 exampleConfig exampleFound (.udp (deliver exampleGoodbye)) exampleLost :=
  Step.of_udp rfl exampleGoodbye_step carried_dismiss

/-- mDNS tells what is no longer true, and UDP tells the truth after it. -/
theorem told_in_order : ∃ visits d, Run 0 exampleConfig exampleStart visits d ∧
    d.channel = [.peerDiscovered (examplePeer "a" 1), .peerLost (exampleNode 1)] ∧ d.Replays := by
  have found : exampleLost.unsent .mdns = [.peerDiscovered (examplePeer "a" 1)] := rfl
  have lost : exampleLost.unsent .udp = [.peerLost (exampleNode 1)] := rfl
  have gone : exampleNode 1 ∉ absent := fun present => (PeerDirectory.mem_perform_dismiss.mp present).1 rfl
  have run := (((Visits.start.step exampleFound_step).step exampleLost_step).step (Step.sends found)).step
    (@Step.sends 0 exampleConfig _ .udp _ [] lost)
  refine ⟨_, _, run, rfl, events_replay_directory 0 exampleConfig run ?_ ?_⟩
  · simp only [List.forall_mem_append, List.forall_mem_singleton, List.not_mem_nil, false_imp_iff, implies_true]
    refine ⟨⟨⟨⟨trivial, trivial⟩, trivial⟩, fun event rest next => ?_⟩, fun event rest next => ?_⟩
    · rw [found] at next
      cases next
      exact .inr ⟨.udp, nofun, _, List.mem_singleton_self _, rfl⟩
    · cases lost.symm.trans next
      exact .inl (iff_of_false Bool.false_ne_true gone)
  · intro worker
    cases worker with
    | mdns => rfl
    | udp => rfl

/-- UDP has told first. -/
def exampleToldLost : Discovering :=
  { exampleLost with
    unsent := Function.update exampleLost.unsent .udp []
    channel := [.peerLost (exampleNode 1)] }

/-- mDNS tells last: both workers are idle, the node is not in the directory, and someone
    that has read the events takes it to be there. -/
theorem stale_event_comes_last : ∃ visits d, Run 0 exampleConfig exampleStart visits d ∧ d.Idle ∧
    exampleNode 1 ∉ d.directory ∧ replay d.channel (exampleNode 1) = true := by
  have lost : exampleLost.unsent .udp = [.peerLost (exampleNode 1)] := rfl
  have told : Step 0 exampleConfig exampleLost (.sends .udp) exampleToldLost := Step.sends lost
  have stale : exampleToldLost.unsent .mdns = [.peerDiscovered (examplePeer "a" 1)] := rfl
  have run := ((Visits.start.step exampleFound_step).step exampleLost_step).step told
  refine ⟨_, _, run.step (Step.sends stale), ?_, ?_, ?_⟩
  · intro worker
    cases worker with
    | mdns => rfl
    | udp => rfl
  · intro found
    exact (PeerDirectory.mem_perform_dismiss.mp found).1 rfl
  · exact replay_snoc_self [.peerLost (exampleNode 1)] (.peerDiscovered (examplePeer "a" 1))

end Example

end Discovering

end BridgeOS.Discovery
