import BridgeOS.Discovery.Advertising
import BridgeOS.Discovery.Presence

/-! # Nodes on one network

Any number of nodes, each with its own engine. A datagram that was sent may reach anyone,
any number of times, at any later time, or nobody; a service that was registered may be
resolved by anyone from then on. Nobody sends what the engines do not send.
-/

namespace BridgeOS.Discovery

/-- A machine and how its engine is configured. -/
structure Host where
  nodeId : NodeId
  owns : IpAddr → Prop
  mode : UnifiedDiscoveryMode
  bindAddr : String
  serviceType : String
  ttl : Nat
  udp : UdpConfig
  queryOnStart : Bool

/-- The engine of a node with its channels and its directory, and the query tasks that were
    spawned and have not run yet. -/
structure Station where
  engine : UnifiedDiscovery
  channels : Channels
  directory : PeerDirectory
  queries : Nat

/-- What others may notice of an act: datagrams with the address they come from, and services. The
    profiles are those the node was asked to advertise. -/
structure Emission where
  datagrams : List (SocketAddr × Bytes)
  services : List ServiceInfo
  profiles : List Profile

def Emission.silent : Emission := ⟨[], [], []⟩

/-- What is sent, from an address of the sender. -/
def sentFrom (src : SocketAddr) (outgoing : List Outgoing) : List (SocketAddr × Bytes) :=
  outgoing.map fun sent => (src, sent.2)

/-- What mDNS registers when a profile is advertised. -/
def Channels.registered (serviceType : String) (channels : Channels) (profile : Profile)
    (ips : Option (List IpAddr)) (answers : RegisterAnswers) : List ServiceInfo :=
  match channels.mdns with
  | none => []
  | some mdns =>
      match (mdns.advertise serviceType profile ips answers).1 with
      | .error _ => []
      | .ok _ => [profile.serviceInfo serviceType ips]

namespace Station

def initial (host : Host) : Station :=
  ⟨Phase.realize host.mode host.bindAddr .stopped, Channels.new host.mode, .empty, 0⟩

def undergo (host : Host) (station : Station) (occurrence : Channels.Occurrence) : Station :=
  { station with channels := station.channels.undergo host.serviceType host.ttl host.udp occurrence }

/-- A query asks in the name of the node, or of nobody if it has not advertised yet. -/
def queryMessage (worker : UdpWorker) : BeaconMessage := .query (worker.localNodeId.getD ⟨.fill 32 0⟩) 1

/-- What a node may do: what is called on its engine, and what its workers and tasks do. A
    worker works while its channel runs. -/
inductive Act (host : Host) (heard : SocketAddr → Bytes → Prop) (resolved : ResolvedService → Prop) :
    Station → Emission → Station → Prop where
  | advertise {station : Station} (profile : Profile) (ips : Option (List IpAddr)) (answers : RegisterAnswers)
      (own : profile.nodeId = host.nodeId) :
      Act host heard resolved station
        ⟨[], station.channels.registered host.serviceType profile ips answers, [profile]⟩
        (station.undergo host (.advertise profile ips answers))
  | stopAdvertising {station : Station} (unregister : Answer) :
      Act host heard resolved station .silent (station.undergo host (.stopAdvertising unregister))
  | startDiscovery {station : Station} (answers : Answers) :
      Act host heard resolved station .silent { station with
        engine := (station.engine.startDiscovery answers).2
        queries := match (station.engine.startDiscovery answers).1 with
          | .error _ => station.queries
          | .ok _ =>
              if host.queryOnStart ∧ station.engine.udp.isSome then station.queries + 1 else station.queries }
  | query {station : Station} {worker : UdpWorker} {pending : Nat} (src : SocketAddr) (owned : host.owns src.ip)
      (spawned : station.queries = pending + 1) (udp : station.channels.udp = some worker) :
      Act host heard resolved station
        ⟨sentFrom src (sendTo host.udp.broadcastTargets (queryMessage worker)), [], []⟩
        { station with queries := pending }
  | shutdown {station : Station} (src : SocketAddr) (owned : host.owns src.ip) (unregister daemon : Answer) :
      Act host heard resolved station
        ⟨sentFrom src (station.channels.udp.toList.flatMap fun worker => worker.shutdown host.udp), [], []⟩
        { station.undergo host (.shutdown unregister daemon) with engine := station.engine.shutdown }
  | mdnsRound {station : Station} {mdns : MdnsDiscovery} (input : MdnsInput)
      (running : station.engine.mdnsRunning = true) (found : station.channels.mdns = some mdns)
      (genuine : ∀ info now, input = .serviceResolved info now → resolved info) :
      Act host heard resolved station .silent { station.undergo host (.mdnsRound input) with
        directory := (station.directory.carryOut (mdns.worker.step host.ttl input).2).1 }
  | udpRound {station : Station} {worker : UdpWorker} (src : SocketAddr) (owned : host.owns src.ip)
      (input : UdpInput) (running : station.engine.udpRunning = true)
      (found : station.channels.udp = some worker)
      (genuine : ∀ bytes sender now, input = .datagram bytes sender now → heard sender bytes) :
      Act host heard resolved station
        ⟨sentFrom src (worker.step host.udp input).2.2, [], []⟩
        { station.undergo host (.udpRound input) with
          directory := (station.directory.carryOut (worker.step host.udp input).2.1).1 }

end Station

/-- What a service of a host is resolved to. -/
structure Resolves (host : Host) (service : ServiceInfo) (info : ResolvedService) : Prop where
  fullname : info.fullname = service.fullname
  port : info.port = service.port
  nodeId : info.nodeId = service.properties.lookup "node_id"
  name : info.name = service.properties.lookup "name"
  deviceType : info.deviceType = service.properties.lookup "type"
  caps : info.caps = service.properties.lookup "caps"
  addresses : ∀ ip ∈ info.addresses, host.owns ip

/-- All nodes, and what they have sent, registered and been asked to advertise so far. -/
structure Lan (Id : Type) where
  stations : Id → Station
  air : List (SocketAddr × Bytes)
  services : List (Id × ServiceInfo)
  profiles : Id → List Profile

namespace Lan

variable {Id : Type} [DecidableEq Id] (hosts : Id → Host)

def initial : Lan Id := ⟨fun i => .initial (hosts i), [], [], fun _ => []⟩

def record (lan : Lan Id) (i : Id) (emission : Emission) (station : Station) : Lan Id where
  stations := Function.update lan.stations i station
  air := lan.air ++ emission.datagrams
  services := lan.services ++ emission.services.map fun service => (i, service)
  profiles := Function.update lan.profiles i (lan.profiles i ++ emission.profiles)

def Resolvable (lan : Lan Id) (info : ResolvedService) : Prop :=
  ∃ j service, (j, service) ∈ lan.services ∧ Resolves (hosts j) service info

inductive Step : Lan Id → Lan Id → Prop where
  | act {lan : Lan Id} {i : Id} {emission : Emission} {station : Station}
      (act : Station.Act (hosts i) (fun src bytes => (src, bytes) ∈ lan.air) (lan.Resolvable hosts)
        (lan.stations i) emission station) :
      Step lan (lan.record i emission station)

abbrev Reachable (lan : Lan Id) : Prop := Relation.ReflTransGen (Step hosts) (initial hosts) lan

/-- A peer is shown as what another node was asked to advertise, at addresses of that node. -/
structure Lists (lan : Lan Id) (i : Id) (peer : DiscoveredPeer) (j : Id) : Prop where
  other : j ≠ i
  own : peer.nodeId = (hosts j).nodeId
  profile : ∃ profile ∈ lan.profiles j, peer.deviceType = profile.deviceType ∧
    peer.capabilities = profile.capabilities ∧
    (peer.deviceName = profile.deviceName ∨ peer.deviceName = truncateName profile.deviceName)
  addresses : ∀ address ∈ peer.addresses, (hosts j).owns address.ip ∧
    ∃ profile ∈ lan.profiles j, address.port = profile.port

end Lan

section Sending

variable {worker : UdpWorker} {config : UdpConfig} {input : UdpInput} {bytes : Bytes}

theorem mem_sendTo {targets : List SocketAddr} {message : BeaconMessage} {target : SocketAddr} :
    (target, bytes) ∈ sendTo targets message ↔ target ∈ targets ∧ encodeBeacon message = .ok bytes := by
  rw [sendTo]
  cases encodeBeacon message <;> simp

theorem mem_sentFrom {src sender : SocketAddr} {outgoing : List Outgoing}
    (sent : (sender, bytes) ∈ sentFrom src outgoing) : sender = src ∧ ∃ target, (target, bytes) ∈ outgoing := by
  obtain ⟨⟨target, payload⟩, member, same⟩ := List.mem_map.mp sent
  cases same
  exact ⟨rfl, target, member⟩

/-- All that a worker sends is what it advertises. -/
theorem UdpWorker.announces_of_sent {target : SocketAddr}
    (sent : (target, bytes) ∈ (worker.step config input).2.2) :
    ∃ adv ∈ worker.advertising, ∃ told : LocalAdvertisement, told.profile = adv.profile ∧
      encodeBeacon told.announcement = .ok bytes := by
  cases input with
  | prune => simp [step] at sent
  | beaconTick =>
      cases advertised : worker.advertising with
      | none => simp [step, advertised] at sent
      | some adv =>
          simp only [step, advertised, mem_sendTo] at sent
          exact ⟨adv, rfl, { adv with seq := adv.seq + 1 }, rfl, sent.2⟩
  | datagram payload sender now =>
      cases heard : hear payload with
      | error => simp [step, heard] at sent
      | ok beacon =>
          rw [step, heard] at sent
          unfold handleBeacon at sent
          dsimp only at sent
          split at sent
          · simp at sent
          · cases beacon with
            | announcement | goodbye => simp at sent
            | query =>
                cases advertised : worker.advertising with
                | none => simp [advertised] at sent
                | some adv =>
                    simp only [advertised, mem_sendTo] at sent
                    exact ⟨adv, rfl, adv, rfl, sent.2⟩

end Sending

section Directory

/-- What an announcement and a refreshed entry satisfy, every entry does. -/
theorem PeerDirectory.all_carryOut {holds : DiscoveredPeer → Prop} {directory : PeerDirectory}
    {operation : Option Operation} (all : ∀ n peer, directory.get n = some peer → holds peer)
    (inserted : ∀ now announced, operation = some (.insert now announced) →
      holds { announced with lastSeen := now } ∧
        ∀ existing : DiscoveredPeer, existing.nodeId = announced.nodeId → holds existing →
          holds (existing.refresh announced now)) :
    ∀ n peer, (directory.carryOut operation).1.get n = some peer → holds peer := by
  intro n peer found
  by_cases about : ∃ now announced, operation = some (.insert now announced) ∧ announced.nodeId = n
  · obtain ⟨now, announced, rfl, rfl⟩ := about
    obtain ⟨new, refreshed⟩ := inserted now announced rfl
    cases known : directory.get announced.nodeId with
    | none =>
        have absent : announced.nodeId ∉ directory := by simp [mem_iff, known]
        rw [carryOut, get_insert_new absent] at found
        cases found
        exact new
    | some existing =>
        rw [carryOut, get_insert_known known] at found
        cases found
        exact refreshed existing (directory.filed _ existing known) (all _ existing known)
  · cases operation with
    | none => exact all n peer found
    | some operation =>
        refine all n peer (get_of_unannounced ?_ found)
        rintro now announced rfl own
        exact about ⟨now, announced, rfl, own⟩

end Directory

section Knowing

/-- A node that knows itself on a channel does not list itself there. -/
def Channels.KnowUdp (channels : Channels) (n : NodeId) : Prop :=
  ∃ worker ∈ channels.udp, worker.localNodeId = some n

def Channels.KnowMdns (channels : Channels) (n : NodeId) : Prop :=
  ∃ mdns ∈ channels.mdns, mdns.worker.localNodeId = some n

namespace Channels

variable {channels : Channels} {serviceType : String} {ttl : Nat} {config : UdpConfig} {n : NodeId}
  {occurrence : Occurrence}

/-- Once a node knows itself, it does so for good. -/
theorem KnowUdp.undergo (knows : channels.KnowUdp n)
    (own : ∀ profile ips answers, occurrence = .advertise profile ips answers → profile.nodeId = n) :
    (channels.undergo serviceType ttl config occurrence).KnowUdp n := by
  obtain ⟨worker, found, known⟩ := knows
  obtain ⟨mdns, udp⟩ := channels
  obtain rfl : udp = some worker := found
  cases occurrence with
  | advertise profile ips answers =>
      have same := own profile ips answers rfl
      simp only [Channels.undergo, Channels.advertise]
      split
      · exact ⟨worker, rfl, known⟩
      · exact ⟨worker.advertiseProfile profile, rfl, congrArg some same⟩
  | stopAdvertising | shutdown => exact ⟨worker.stopAdvertising, rfl, known⟩
  | mdnsRound => exact ⟨worker, rfl, known⟩
  | udpRound input => exact ⟨_, rfl, (UdpWorker.localNodeId_step input).trans known⟩

/-- Only advertising gives the node a name. -/
theorem localNodeId_undergo {worker : UdpWorker}
    (found : worker ∈ (channels.undergo serviceType ttl config occurrence).udp) :
    ∃ before ∈ channels.udp, worker.localNodeId = before.localNodeId ∨
      ∃ profile ips answers, occurrence = .advertise profile ips answers ∧
        worker.localNodeId = some profile.nodeId := by
  cases occurrence with
  | advertise profile ips answers =>
      simp only [Channels.undergo, Channels.advertise] at found
      split at found
      · exact ⟨worker, found, .inl rfl⟩
      · obtain ⟨before, inside, rfl⟩ := Option.map_eq_some_iff.mp found
        exact ⟨before, inside, .inr ⟨profile, ips, answers, rfl, rfl⟩⟩
  | stopAdvertising | shutdown =>
      obtain ⟨before, inside, rfl⟩ := Option.map_eq_some_iff.mp found
      exact ⟨before, inside, .inl rfl⟩
  | mdnsRound => exact ⟨worker, found, .inl rfl⟩
  | udpRound input =>
      obtain ⟨before, inside, rfl⟩ := Option.map_eq_some_iff.mp found
      exact ⟨before, inside, .inl (UdpWorker.localNodeId_step input)⟩

theorem KnowMdns.undergo (knows : channels.KnowMdns n)
    (own : ∀ profile ips answers, occurrence = .advertise profile ips answers → profile.nodeId = n) :
    (channels.undergo serviceType ttl config occurrence).KnowMdns n := by
  obtain ⟨mdns, found, known⟩ := knows
  obtain ⟨other, udp⟩ := channels
  obtain rfl : other = some mdns := found
  cases occurrence with
  | advertise profile ips answers =>
      have same := own profile ips answers rfl
      refine ⟨_, advertise_some_mdns mdns udp profile ips answers, ?_⟩
      unfold MdnsDiscovery.advertise
      split
      · exact known
      · cases answers.registering <;> exact congrArg some same
  | stopAdvertising unregister => exact ⟨_, rfl, by rw [MdnsDiscovery.worker_stopAdvertising, known]⟩
  | shutdown unregister daemon => exact ⟨_, rfl, by rw [MdnsDiscovery.worker_shutdown, known]⟩
  | mdnsRound input => exact ⟨_, rfl, (MdnsDiscovery.localNodeId_step ttl mdns.worker input).trans known⟩
  | udpRound input => exact ⟨mdns, rfl, known⟩

end Channels

end Knowing

namespace Station

variable {host : Host} {heard : SocketAddr → Bytes → Prop} {resolved : ResolvedService → Prop}
  {station next : Station} {emission : Emission}

namespace Act

section Acts

variable (act : Act host heard resolved station emission next)

include act

/-- An act leaves the channels as they are, or is something that happens to them. -/
theorem channels_cases :
    next.channels = station.channels ∨ ∃ occurrence,
      next.channels = station.channels.undergo host.serviceType host.ttl host.udp occurrence ∧
      ∀ profile ips answers, occurrence = .advertise profile ips answers → profile ∈ emission.profiles := by
  cases act with
  | advertise profile ips answers own =>
      exact .inr ⟨.advertise profile ips answers, rfl, by rintro _ _ _ ⟨⟩; exact List.mem_cons_self⟩
  | stopAdvertising unregister => exact .inr ⟨.stopAdvertising unregister, rfl, by rintro _ _ _ ⟨⟩⟩
  | startDiscovery | query => exact .inl rfl
  | shutdown src owned unregister daemon =>
      exact .inr ⟨.shutdown unregister daemon, rfl, by rintro _ _ _ ⟨⟩⟩
  | mdnsRound input running found genuine => exact .inr ⟨.mdnsRound input, rfl, by rintro _ _ _ ⟨⟩⟩
  | udpRound src owned input running found genuine => exact .inr ⟨.udpRound input, rfl, by rintro _ _ _ ⟨⟩⟩

theorem own : ∀ profile ∈ emission.profiles, profile.nodeId = host.nodeId := by
  cases act with
  | advertise profile ips answers own =>
      intro other member
      rw [List.mem_singleton.mp member]
      exact own
  | stopAdvertising | startDiscovery | query | shutdown | mdnsRound | udpRound => simp [Emission.silent]

/-- What holds of the channels whatever the node advertises in its own name. -/
theorem keeps (holds : Channels → Prop) (before : holds station.channels)
    (undergo : ∀ occurrence, (∀ profile ips answers, occurrence = .advertise profile ips answers →
      profile.nodeId = host.nodeId) →
        holds (station.channels.undergo host.serviceType host.ttl host.udp occurrence)) : holds next.channels := by
  rcases act.channels_cases with same | ⟨occurrence, changed, asked⟩
  · rw [same]
    exact before
  · rw [changed]
    exact undergo occurrence fun profile ips answers happens => act.own profile (asked profile ips answers happens)

theorem knowUdp (knows : station.channels.KnowUdp host.nodeId) : next.channels.KnowUdp host.nodeId :=
  act.keeps (·.KnowUdp host.nodeId) knows fun _ own => knows.undergo own

theorem knowMdns (knows : station.channels.KnowMdns host.nodeId) : next.channels.KnowMdns host.nodeId :=
  act.keeps (·.KnowMdns host.nodeId) knows fun _ own => knows.undergo own

/-- What is advertised is what the node was asked to advertise, before or now. -/
theorem advertise_of_advertise {current : Option Profile}
    (advertise : station.channels.Advertise host.mode host.serviceType current) :
    ∃ later, next.channels.Advertise host.mode host.serviceType later ∧
      ∀ profile ∈ later, profile ∈ current ∨ profile ∈ emission.profiles := by
  rcases act.channels_cases with same | ⟨occurrence, changed, asked⟩
  · rw [same]
    exact ⟨current, advertise, fun profile about => .inl about⟩
  · rw [changed]
    refine ⟨_, Channels.advertise_undergo advertise occurrence, fun profile about => ?_⟩
    rcases Advertised.mem_after about with before | ⟨ips, answers, happens⟩
    · exact .inl before
    · exact .inr (asked profile ips answers happens)

/-- A datagram comes from an address of the host. It announces what is advertised, or nothing. -/
theorem datagrams_cases {src : SocketAddr} (sent : (src, bytes) ∈ emission.datagrams) :
    host.owns src.ip ∧
      ((∃ worker ∈ station.channels.udp, ∃ adv ∈ worker.advertising, ∃ told : LocalAdvertisement,
          told.profile = adv.profile ∧ encodeBeacon told.announcement = .ok bytes) ∨
        ∃ message : BeaconMessage, message.isAnnouncement = false ∧ encodeBeacon message = .ok bytes) := by
  cases act with
  | advertise | stopAdvertising | startDiscovery | mdnsRound => simp [Emission.silent] at sent
  | query source owned spawned udp =>
      obtain ⟨rfl, target, outgoing⟩ := mem_sentFrom sent
      exact ⟨owned, .inr ⟨_, rfl, (mem_sendTo.mp outgoing).2⟩⟩
  | shutdown source owned unregister daemon =>
      obtain ⟨rfl, target, outgoing⟩ := mem_sentFrom sent
      obtain ⟨worker, -, goodbye⟩ := List.mem_flatMap.mp outgoing
      refine ⟨owned, .inr ?_⟩
      unfold UdpWorker.shutdown at goodbye
      split at goodbye
      · cases advertised : worker.advertising with
        | none => simp [advertised] at goodbye
        | some adv =>
            simp only [advertised, mem_sendTo] at goodbye
            exact ⟨adv.goodbye, rfl, goodbye.2⟩
      · simp at goodbye
  | udpRound source owned input running found genuine =>
      obtain ⟨rfl, target, outgoing⟩ := mem_sentFrom sent
      exact ⟨owned, .inl ⟨_, found, UdpWorker.announces_of_sent outgoing⟩⟩

/-- A service is what the node was asked to advertise, and the node knows itself by then. -/
theorem services_cases {service : ServiceInfo} (registered : service ∈ emission.services) :
    next.channels.KnowMdns host.nodeId ∧
      ∃ profile ∈ emission.profiles, ∃ ips, service = profile.serviceInfo host.serviceType ips := by
  cases act with
  | stopAdvertising | startDiscovery | query | shutdown | mdnsRound | udpRound =>
      simp [Emission.silent] at registered
  | advertise profile ips answers own =>
      obtain ⟨engine, ⟨mdns, udp⟩, directory, queries⟩ := station
      cases mdns with
      | none => simp [Channels.registered] at registered
      | some mdns =>
          cases accepted : (mdns.advertise host.serviceType profile ips answers).1 with
          | error e => simp [Channels.registered, accepted] at registered
          | ok =>
              simp only [Channels.registered, accepted, List.mem_singleton] at registered
              refine ⟨⟨_, Channels.advertise_some_mdns mdns udp profile ips answers, ?_⟩, profile,
                List.mem_cons_self, ips, registered⟩
              rw [MdnsDiscovery.known_of_accepted accepted, own]

end Acts

/-- What an act does to the directory, and where the peers that it inserts come from. -/
theorem directory_cases (act : Act host heard resolved station emission next) :
    ∃ operation, next.directory = (station.directory.carryOut operation).1 ∧
      ∀ now peer, operation = some (.insert now peer) →
        (∃ bytes src beacon, heard src bytes ∧ UdpWorker.hear bytes = .ok beacon ∧
          beacon.peer? now src = some peer ∧ ¬ station.channels.KnowUdp peer.nodeId) ∨
        ∃ info, resolved info ∧ parseResolvedService now info = .ok peer ∧
          ¬ station.channels.KnowMdns peer.nodeId := by
  cases act with
  | advertise | stopAdvertising | startDiscovery | query | shutdown =>
      exact ⟨none, rfl, by rintro _ _ ⟨⟩⟩
  | @mdnsRound mdns input running found genuine =>
      refine ⟨_, rfl, fun now peer inserts => .inr ?_⟩
      obtain ⟨info, rfl, parsed, foreign⟩ := MdnsWorker.insert_cases inserts
      refine ⟨info, genuine info now rfl, parsed, ?_⟩
      rintro ⟨other, same, known⟩
      rw [found] at same
      cases same
      exact foreign known
  | @udpRound worker source owned input running found genuine =>
      refine ⟨_, rfl, fun now peer inserts => .inl ?_⟩
      obtain ⟨bytes, src, beacon, rfl, announced, made, foreign⟩ := UdpWorker.insert_cases inserts
      refine ⟨bytes, src, beacon, genuine bytes src now rfl, announced, made, ?_⟩
      rintro ⟨other, same, known⟩
      rw [found] at same
      cases same
      exact foreign known

end Act

/-- The workers of a station between two rounds, as those of the model in which an operation and its
    events are told apart. -/
structure Matches (station : Station) (d : Discovering) : Prop where
  mdns : ∀ mdns ∈ station.channels.mdns, mdns.worker = d.mdns
  udp : ∀ worker ∈ station.channels.udp, worker = d.udp
  directory : station.directory = d.directory
  idle : d.Idle

theorem Matches.advertises {d : Discovering} (matched : station.Matches d)
    (directory : next.directory = station.directory)
    (known : ∀ mdns ∈ next.channels.mdns, mdns.worker.fullnameToNode = d.mdns.fullnameToNode) :
    ∃ visits d', Discovering.Run host.ttl host.udp d visits d' ∧ next.Matches d' := by
  let udp := next.channels.udp.getD d.udp
  refine ⟨_, _, Visits.start.step (.advertises (next.channels.mdns.bind (·.worker.localNodeId)) udp.localNodeId
    udp.advertising), fun mdns found => ?_, fun worker found => ?_, directory.trans matched.directory, matched.idle⟩
  · simp [Option.mem_def.mp found, ← known mdns found]
  · simp [udp, Option.mem_def.mp found]

/-- What a station does is a run of its workers. -/
theorem Act.discovering (act : Act host heard resolved station emission next) {d : Discovering}
    (matched : station.Matches d) :
    ∃ visits d', Discovering.Run host.ttl host.udp d visits d' ∧ next.Matches d' := by
  have sent : ∀ worker events, ∀ other,
      Function.update (Function.update d.unsent worker events) worker [] other = [] := by
    intro worker events other
    by_cases same : other = worker
    · simp [same]
    · simp [same, matched.idle other]
  cases act with
  | startDiscovery | query =>
      exact matched.advertises rfl fun mdns found => congrArg _ (matched.mdns mdns found)
  | advertise profile ips answers own =>
      refine matched.advertises rfl fun changed found => ?_
      obtain ⟨engine, ⟨mdns, udp⟩, directory, queries⟩ := station
      cases mdns with
      | none => cases found
      | some mdns =>
          cases (Channels.advertise_some_mdns mdns udp profile ips answers).symm.trans found
          rw [MdnsDiscovery.fullnames_advertise, matched.mdns mdns rfl]
  | stopAdvertising unregister =>
      refine matched.advertises rfl fun changed found => ?_
      obtain ⟨mdns, present, rfl⟩ := Option.map_eq_some_iff.mp found
      rw [MdnsDiscovery.worker_stopAdvertising, matched.mdns mdns present]
  | shutdown src owned unregister daemon =>
      refine matched.advertises rfl fun changed found => ?_
      obtain ⟨mdns, present, rfl⟩ := Option.map_eq_some_iff.mp found
      rw [MdnsDiscovery.worker_shutdown, matched.mdns mdns present]
  | @mdnsRound mdns input running found genuine =>
      have operates : Discovering.Step host.ttl host.udp d (.mdns input) _ :=
        .mdns (matched.idle .mdns) (List.Perm.refl _)
      obtain ⟨visits, sends⟩ := Discovering.exists_sent host.ttl host.udp .mdns _
      refine ⟨_, _, (Visits.start.step operates).trans sends, fun changed member => ?_, matched.udp, ?_, sent _ _⟩
      · obtain ⟨before, present, rfl⟩ := Option.map_eq_some_iff.mp member
        rw [matched.mdns before present]
      · rw [matched.directory, matched.mdns mdns found]
  | @udpRound worker source owned input running found genuine =>
      have operates : Discovering.Step host.ttl host.udp d (.udp input) _ :=
        .udp (matched.idle .udp) (List.Perm.refl _)
      obtain ⟨visits, sends⟩ := Discovering.exists_sent host.ttl host.udp .udp _
      refine ⟨_, _, (Visits.start.step operates).trans sends, matched.mdns, fun changed member => ?_, ?_, sent _ _⟩
      · obtain ⟨before, present, rfl⟩ := Option.map_eq_some_iff.mp member
        rw [matched.udp before present]
      · rw [matched.directory, matched.udp worker found]

end Station

/-- A service is parsed as the profile that it was registered with. -/
theorem parseResolvedService_of_resolves {host : Host} {profile : Profile} {ips : Option (List IpAddr)}
    {info : ResolvedService} (resolves : Resolves host (profile.serviceInfo host.serviceType ips) info)
    (now : Nat) :
    parseResolvedService now info = .ok (.new now profile.nodeId profile.deviceName profile.deviceType
      (info.addresses.map fun ip => ⟨ip, profile.port⟩) profile.capabilities) := by
  have id : (profile.serviceInfo host.serviceType ips).properties.lookup "node_id" =
      some profile.nodeId.toHex := rfl
  have name : (profile.serviceInfo host.serviceType ips).properties.lookup "name" =
      some profile.deviceName := rfl
  have type : (profile.serviceInfo host.serviceType ips).properties.lookup "type" =
      some profile.deviceType.toText := rfl
  have caps : (profile.serviceInfo host.serviceType ips).properties.lookup "caps" =
      some (Hex.lower profile.capabilities.flags.toNat) := rfl
  rw [parseResolvedService, resolves.nodeId, resolves.name, resolves.deviceType, resolves.caps, resolves.port,
    id, name, type, caps, parseDiscoveredPeer]
  simp [DeviceType.fromStr_toText, u32FromHex_lower, Profile.serviceInfo]

namespace Lan

variable {Id : Type} {hosts : Id → Host} {lan : Lan Id}

/-- What holds of a network of honest nodes at any time. -/
structure Sound (hosts : Id → Host) (lan : Lan Id) : Prop where
  own : ∀ j, ∀ profile ∈ lan.profiles j, profile.nodeId = (hosts j).nodeId
  advertise : ∀ j, ∃ current,
    (lan.stations j).channels.Advertise (hosts j).mode (hosts j).serviceType current ∧
      ∀ profile ∈ current, profile ∈ lan.profiles j
  air : ∀ src bytes, (src, bytes) ∈ lan.air → ∃ j, (hosts j).owns src.ip ∧
    ((∃ told : LocalAdvertisement, encodeBeacon told.announcement = .ok bytes ∧
        told.profile ∈ lan.profiles j ∧ (lan.stations j).channels.KnowUdp (hosts j).nodeId) ∨
      ∃ message : BeaconMessage, message.isAnnouncement = false ∧ encodeBeacon message = .ok bytes)
  services : ∀ j service, (j, service) ∈ lan.services →
    (lan.stations j).channels.KnowMdns (hosts j).nodeId ∧
      ∃ profile ∈ lan.profiles j, ∃ ips, service = profile.serviceInfo (hosts j).serviceType ips
  directory : ∀ i n peer, (lan.stations i).directory.get n = some peer → ∃ j, Lists hosts lan i peer j

theorem sound_initial (hosts : Id → Host) : Sound hosts (initial hosts) where
  own j profile member := by cases member
  advertise j := ⟨none, Channels.advertise_new _ _, by simp⟩
  air src bytes sent := by cases sent
  services j service registered := by cases registered
  directory i n peer found := by cases found

variable {peer : DiscoveredPeer}

/-- What a datagram announces is another node, as it was asked to advertise itself. -/
theorem Sound.lists_of_heard (sound : Sound hosts lan) {i : Id} {src : SocketAddr}
    (sent : (src, bytes) ∈ lan.air) {beacon : BeaconMessage} (heard : UdpWorker.hear bytes = .ok beacon)
    {now : Nat} (made : beacon.peer? now src = some peer)
    (foreign : ¬ (lan.stations i).channels.KnowUdp peer.nodeId) : ∃ j, Lists hosts lan i peer j := by
  obtain ⟨j, owned, ⟨told, encoded, asked, knows⟩ | ⟨message, silent, encoded⟩⟩ := sound.air src bytes sent
  · rw [hear_encodeBeacon encoded, LocalAdvertisement.announcement, sanitize] at heard
    split at heard
    · cases heard
    · cases heard
      cases made
      have named : told.nodeId = (hosts j).nodeId := sound.own j told.profile asked
      refine ⟨j, ?_, named, ⟨told.profile, asked, rfl, rfl, .inr rfl⟩, fun address member => ?_⟩
      · rintro rfl
        rw [DiscoveredPeer.new, named] at foreign
        exact foreign knows
      · rw [List.mem_singleton.mp member]
        exact ⟨owned, told.profile, asked, rfl⟩
  · rw [hear_encodeBeacon encoded] at heard
    cases message with
    | announcement => cases silent
    | goodbye | query =>
        cases heard
        cases made

/-- What a service is resolved to is another node, as it was asked to advertise itself. -/
theorem Sound.lists_of_resolved (sound : Sound hosts lan) {i : Id} {info : ResolvedService}
    (resolvable : lan.Resolvable hosts info) {now : Nat} (parsed : parseResolvedService now info = .ok peer)
    (foreign : ¬ (lan.stations i).channels.KnowMdns peer.nodeId) :
    ∃ j, Lists hosts lan i peer j := by
  obtain ⟨j, service, registered, resolves⟩ := resolvable
  obtain ⟨knows, profile, asked, ips, rfl⟩ := sound.services j service registered
  rw [parseResolvedService_of_resolves resolves] at parsed
  cases parsed
  have named : profile.nodeId = (hosts j).nodeId := sound.own j profile asked
  refine ⟨j, ?_, named, ⟨profile, asked, rfl, rfl, .inl rfl⟩, fun address member => ?_⟩
  · rintro rfl
    rw [DiscoveredPeer.new, named] at foreign
    exact foreign knows
  · obtain ⟨ip, inside, rfl⟩ := List.mem_map.mp member
    exact ⟨resolves.addresses ip inside, profile, asked, rfl⟩

theorem Sound.advertised (sound : Sound hosts lan) {i : Id} {worker : UdpWorker} {adv : LocalAdvertisement}
    (found : worker ∈ (lan.stations i).channels.udp) (advertised : adv ∈ worker.advertising) :
    adv.profile ∈ lan.profiles i ∧ (lan.stations i).channels.KnowUdp (hosts i).nodeId := by
  obtain ⟨current, advertise, asked⟩ := sound.advertise i
  have udp := advertise.udp worker found
  have about : adv.profile ∈ current := by
    rw [← udp.beacon, Option.mem_def.mp advertised]
    rfl
  exact ⟨asked _ about, worker, found, (udp.known _ about).trans (congrArg some (sound.own i _ (asked _ about)))⟩

/-- Two announcements of one node together. -/
theorem Lists.refresh (distinct : Function.Injective fun i => (hosts i).nodeId) {i j k : Id} {now : Nat}
    {existing announced : DiscoveredPeer} (same : existing.nodeId = announced.nodeId)
    (before : Lists hosts lan i existing j) (new : Lists hosts lan i announced k) :
    Lists hosts lan i (existing.refresh announced now) k := by
  obtain rfl : j = k := distinct (before.own.symm.trans (same.trans new.own))
  refine ⟨new.other, before.own, new.profile, fun address member => ?_⟩
  rw [DiscoveredPeer.refresh_addresses, Distinct.mem_addAll] at member
  rcases member with known | announced
  · exact before.addresses address known
  · exact new.addresses address announced

theorem Lists.mono {later : Lan Id} {i j : Id} (lists : Lists hosts lan i peer j)
    (grown : ∀ profile ∈ lan.profiles j, profile ∈ later.profiles j) : Lists hosts later i peer j := by
  obtain ⟨other, own, ⟨profile, asked, shows⟩, addresses⟩ := lists
  refine ⟨other, own, ⟨profile, grown profile asked, shows⟩, fun address member => ?_⟩
  obtain ⟨owned, source, advertised, port⟩ := addresses address member
  exact ⟨owned, source, grown source advertised, port⟩

variable [DecidableEq Id] {i : Id} {emission : Emission} {station : Station}

theorem mem_profiles_record {j : Id} {profile : Profile} :
    profile ∈ (lan.record i emission station).profiles j ↔
      profile ∈ lan.profiles j ∨ j = i ∧ profile ∈ emission.profiles := by
  by_cases same : j = i
  · subst same
    simp [record]
  · simp [record, same]

@[simp] theorem record_self (lan : Lan Id) (i : Id) (emission : Emission) (station : Station) :
    (lan.record i emission station).stations i = station := Function.update_self ..

theorem record_ne {j : Id} (apart : j ≠ i) (emission : Emission) (station : Station) :
    (lan.record i emission station).stations j = lan.stations j := Function.update_of_ne apart ..

/-- What holds of a station, and goes on to hold of the one that acts. -/
theorem keeps_record (holds : Id → Station → Prop) (emission : Emission)
    (acting : holds i (lan.stations i) → holds i station) (j : Id) (before : holds j (lan.stations j)) :
    holds j ((lan.record i emission station).stations j) := by
  by_cases same : j = i
  · subst same
    simpa [record] using acting before
  · simpa [record, same] using before

theorem Sound.record (distinct : Function.Injective fun i => (hosts i).nodeId) (sound : Sound hosts lan)
    (act : Station.Act (hosts i) (fun src bytes => (src, bytes) ∈ lan.air) (lan.Resolvable hosts)
      (lan.stations i) emission station) : Sound hosts (lan.record i emission station) := by
  have grown : ∀ j, ∀ profile ∈ lan.profiles j, profile ∈ (lan.record i emission station).profiles j :=
    fun j profile asked => mem_profiles_record.mpr (.inl asked)
  have added : ∀ profile ∈ emission.profiles, profile ∈ (lan.record i emission station).profiles i :=
    fun profile asked => mem_profiles_record.mpr (.inr ⟨rfl, asked⟩)
  have keepsUdp := keeps_record (fun j s => s.channels.KnowUdp (hosts j).nodeId) emission act.knowUdp
  have keepsMdns := keeps_record (fun j s => s.channels.KnowMdns (hosts j).nodeId) emission act.knowMdns
  constructor
  case own =>
    intro j profile member
    rcases mem_profiles_record.mp member with asked | ⟨rfl, asked⟩
    · exact sound.own j profile asked
    · exact act.own profile asked
  case advertise =>
    intro j
    obtain ⟨current, advertise, asked⟩ := sound.advertise j
    by_cases same : j = i
    · subst same
      obtain ⟨later, advertises, source⟩ := act.advertise_of_advertise advertise
      rw [record_self]
      refine ⟨later, advertises, fun profile about => ?_⟩
      rcases source profile about with before | now
      · exact grown _ profile (asked profile before)
      · exact added profile now
    · rw [record_ne same]
      exact ⟨current, advertise, fun profile about => grown j profile (asked profile about)⟩
  case air =>
    intro src bytes sent
    rcases List.mem_append.mp sent with before | now
    · obtain ⟨j, owned, ⟨told, encoded, asked, knows⟩ | quiet⟩ := sound.air src bytes before
      · exact ⟨j, owned, .inl ⟨told, encoded, grown j _ asked, keepsUdp j knows⟩⟩
      · exact ⟨j, owned, .inr quiet⟩
    · obtain ⟨owned, ⟨worker, found, adv, advertised, told, same, encoded⟩ | quiet⟩ := act.datagrams_cases now
      · obtain ⟨asked, knows⟩ := sound.advertised found advertised
        exact ⟨i, owned, .inl ⟨told, encoded, grown i _ (same ▸ asked), keepsUdp i knows⟩⟩
      · exact ⟨i, owned, .inr quiet⟩
  case services =>
    intro j service registered
    rcases List.mem_append.mp registered with before | now
    · obtain ⟨knows, profile, asked, ips, made⟩ := sound.services j service before
      exact ⟨keepsMdns j knows, profile, grown j profile asked, ips, made⟩
    · obtain ⟨_, inside, same⟩ := List.mem_map.mp now
      cases same
      obtain ⟨knows, profile, asked, ips, made⟩ := act.services_cases inside
      rw [record_self]
      exact ⟨knows, profile, added profile asked, ips, made⟩
  case directory =>
    intro k n peer found
    suffices listed : ∃ j, Lists hosts lan k peer j by
      obtain ⟨j, lists⟩ := listed
      exact ⟨j, lists.mono (grown j)⟩
    by_cases same : k = i
    · subst same
      rw [record_self] at found
      obtain ⟨operation, changed, inserted⟩ := act.directory_cases
      rw [changed] at found
      refine PeerDirectory.all_carryOut (sound.directory k) (fun now announced inserts => ?_) n peer found
      obtain ⟨j, lists⟩ : ∃ j, Lists hosts lan k announced j := by
        rcases inserted now announced inserts with ⟨bytes, src, beacon, sent, heard, made, foreign⟩ |
          ⟨info, resolvable, parsed, foreign⟩
        · exact sound.lists_of_heard sent heard made foreign
        · exact sound.lists_of_resolved resolvable parsed foreign
      refine ⟨⟨j, lists.other, lists.own, lists.profile, lists.addresses⟩, fun existing own => ?_⟩
      rintro ⟨_, before⟩
      exact ⟨j, before.refresh distinct own lists⟩
    · rw [record_ne same] at found
      exact sound.directory k n peer found

theorem sound_of_reachable (distinct : Function.Injective fun i => (hosts i).nodeId)
    (reachable : Reachable hosts lan) : Sound hosts lan := by
  induction reachable with
  | refl => exact sound_initial hosts
  | tail _ step ih =>
      obtain ⟨act⟩ := step
      exact ih.record distinct act

/-- Whatever happens on the network, each node's workers make a run of their own: what holds of all
    such runs between two rounds holds of every node. -/
theorem exists_discovering (reachable : Reachable hosts lan) (i : Id) :
    ∃ visits d, Discovering.Run (hosts i).ttl (hosts i).udp (.initial none none none) visits d ∧
      (lan.stations i).Matches d := by
  induction reachable with
  | refl =>
      refine ⟨[], _, .start, ?_, ?_, rfl, fun _ => rfl⟩
      · intro mdns found
        show mdns.worker = ⟨none, ∅⟩
        cases mode : (hosts i).mode <;> simp [initial, Station.initial, Channels.new, mode] at found <;>
          rw [← found] <;> rfl
      · intro udp found
        show udp = ⟨none, none⟩
        cases mode : (hosts i).mode <;> simp [initial, Station.initial, Channels.new, mode] at found <;>
          rw [← found] <;> rfl
  | @tail lan _ _ step ih =>
      obtain ⟨act⟩ := step
      rename_i j emission station
      refine keeps_record (fun k s => ∃ visits d,
        Discovering.Run (hosts k).ttl (hosts k).udp (.initial none none none) visits d ∧ s.Matches d) emission ?_ i ih
      rintro ⟨visits, d, run, matched⟩
      obtain ⟨later, d', rest, matches'⟩ := act.discovering matched
      exact ⟨_, d', run.trans rest, matches'⟩

end Lan

end BridgeOS.Discovery
