import BridgeOS.Discovery.Lan
import BridgeOS.Discovery.RoundTrip
import BridgeOS.Lib.WireSize

/-! # Finding a node

What is to be found on the network is what was advertised. A node that starts asks for it:
whoever hears the query and advertises answers at once, and is listed when the answer
arrives.
-/

namespace BridgeOS.Discovery

theorem Phase.started_of_ok {mode : UnifiedDiscoveryMode} {phase : Phase} {browsing socket : Except StartError Unit}
    (ok : (phase.start mode browsing socket).1 = .ok ()) : (phase.start mode browsing socket).2 = .started := by
  cases phase with
  | started | browsing => cases ok
  | stopped => cases mode <;> cases browsing <;> cases socket <;> simp_all [Phase.start]

theorem Phase.udp_realize (mode : UnifiedDiscoveryMode) (bindAddr : String) (phase : Phase) :
    (realize mode bindAddr phase).udp.isSome = decide (mode ≠ .mdnsOnly) := by
  cases mode <;> rfl

/-- A query has fewer than 1400 bytes. -/
theorem encodeBeacon_query (asking : NodeId) (seq : UInt64) :
    encodeBeacon (.query asking seq) = .ok (datagram (.query asking seq)) := by
  refine (encodeBeacon_eq_ok _ _).mpr ⟨?_, rfl⟩
  have payload : (BeaconMessage.codec.encode (.query asking seq)).length =
      (NodeId.codec.encode asking).length + (Codec.u64.encode seq).length + 1 := by
    refine (Variants.length_codec _ (by decide) _).trans (congrArg (· + 1) ?_)
    exact Codec.length_pair _ _ _
  have id : (NodeId.codec.encode asking).length = 32 := asking.bytes.size
  have number := Codec.varintSize_le seq.toNat
  rw [← Codec.length_u64] at number
  simp only [datagram, List.length_append, payload, id, maxBeaconSize]
  simp [beaconMagic]
  omega

/-- The engine is in one of its phases, and a node goes by no name but its own. -/
structure Station.Formed (host : Host) (station : Station) : Prop where
  engine : ∃ phase : Phase, phase.Allowed host.mode ∧
    station.engine = Phase.realize host.mode host.bindAddr phase
  names : ∀ worker ∈ station.channels.udp, ∀ n ∈ worker.localNodeId, n = host.nodeId

namespace Station

variable {host : Host} {heard : SocketAddr → Bytes → Prop} {resolved : ResolvedService → Prop}
  {station next : Station} {emission : Emission}

theorem formed_initial (host : Host) : (initial host).Formed host := by
  refine ⟨⟨.stopped, Phase.allowed_stopped _, rfl⟩, fun worker found n named => ?_⟩
  have unnamed : worker.localNodeId = none := by
    unfold initial Channels.new at found
    cases mode : host.mode <;> simp [mode] at found <;> simp [← found, UdpWorker.new]
  simp [unnamed] at named

theorem Formed.act (formed : station.Formed host) (act : Act host heard resolved station emission next) :
    next.Formed host := by
  constructor
  · obtain ⟨phase, allowed, reached⟩ := formed.engine
    cases act with
    | advertise | stopAdvertising | query | mdnsRound | udpRound => exact ⟨phase, allowed, reached⟩
    | startDiscovery answers =>
        dsimp only
        rw [reached, Phase.startDiscovery_realize allowed]
        exact ⟨_, allowed.start _ _, rfl⟩
    | shutdown =>
        dsimp only
        rw [reached, Phase.shutdown_realize]
        exact ⟨.stopped, Phase.allowed_stopped _, rfl⟩
  · rcases act.channels_cases with same | ⟨occurrence, changed, asked⟩
    · rw [same]
      exact formed.names
    · rw [changed]
      intro worker found n named
      obtain ⟨before, inside, same | ⟨profile, ips, answers, happens, called⟩⟩ :=
        Channels.localNodeId_undergo found
      · exact formed.names before inside n (same ▸ named)
      · rw [called] at named
        cases named
        exact act.own profile (asked profile ips answers happens)

end Station

namespace Lan

variable {Id : Type} [DecidableEq Id] {hosts : Id → Host} {lan : Lan Id} {i j : Id}

theorem formed_of_reachable (reachable : Reachable hosts lan) (i : Id) : (lan.stations i).Formed (hosts i) := by
  induction reachable with
  | refl => exact Station.formed_initial (hosts i)
  | tail _ step ih =>
      obtain ⟨act⟩ := step
      exact keeps_record (fun i s => s.Formed (hosts i)) _ (fun formed => formed.act act) i ih

/-- The UDP worker of the node runs, and what it advertises is not too long and has a port. -/
structure Audible (lan : Lan Id) (j : Id) (adv : LocalAdvertisement) : Prop where
  running : (lan.stations j).engine.udpRunning = true
  advertised : ∃ worker, (lan.stations j).channels.udp = some worker ∧ worker.advertising = some adv
  port : adv.port ≠ 0
  fits : ∃ bytes, encodeBeacon adv.announcement = .ok bytes

variable {adv : LocalAdvertisement} {worker : UdpWorker}

/-- A query is answered at once. -/
theorem answered (audible : lan.Audible j adv) {src sender : SocketAddr} {bytes : Bytes}
    (owned : (hosts j).owns src.ip) {asking : NodeId} {seq : UInt64}
    (heard : UdpWorker.hear bytes = .ok (.query asking seq)) (sent : (sender, bytes) ∈ lan.air)
    (foreign : (hosts j).nodeId ≠ asking) (known : (lan.stations j).channels.KnowUdp (hosts j).nodeId) :
    ∃ lan' : Lan Id, Step hosts lan lan' ∧ (∀ i, i ≠ j → lan'.stations i = lan.stations i) ∧
      ∀ reply, encodeBeacon adv.announcement = .ok reply → (src, reply) ∈ lan'.air := by
  obtain ⟨worker, found, advertised⟩ := audible.advertised
  obtain ⟨same, inside, own⟩ := known
  rw [found] at inside
  cases inside
  have other : worker.localNodeId ≠ some asking := by simpa [own] using foreign
  have answer : worker.step (hosts j).udp (.datagram bytes sender 0) =
      (worker, none, sendTo [sender] adv.announcement) := by
    simp [UdpWorker.step, heard, UdpWorker.handleBeacon, BeaconMessage.nodeId, other, advertised]
  refine ⟨_, .act (.udpRound src owned (.datagram bytes sender 0) audible.running found ?_),
    fun i apart => record_ne apart _ _, fun reply encoded => ?_⟩
  · rintro _ _ _ ⟨⟩
    exact sent
  · refine List.mem_append_right _ (List.mem_map.mpr ⟨(sender, reply), ?_, rfl⟩)
    rw [answer]
    exact mem_sendTo.mpr ⟨List.mem_singleton_self sender, encoded⟩

/-- An announcement that arrives is listed. -/
theorem listed {src sender : SocketAddr} {bytes : Bytes} (owned : (hosts i).owns src.ip)
    (running : (lan.stations i).engine.udpRunning = true) (found : (lan.stations i).channels.udp = some worker)
    (foreign : worker.localNodeId ≠ some adv.nodeId) (encoded : encodeBeacon adv.announcement = .ok bytes)
    (audible : adv.port ≠ 0) (sent : (sender, bytes) ∈ lan.air) (now : Nat) :
    ∃ lan' : Lan Id, Step hosts lan lan' ∧ ∃ peer, (lan'.stations i).directory.get adv.nodeId = some peer ∧
      peer.Shows (.new now adv.nodeId (truncateName adv.deviceName) adv.deviceType [⟨sender.ip, adv.port⟩]
        adv.capabilities) now := by
  have heard : UdpWorker.hear bytes = .ok (.announcement .current adv.nodeId (truncateName adv.deviceName)
      adv.deviceType adv.port adv.capabilities adv.seq) := by
    rw [hear_encodeBeacon encoded, LocalAdvertisement.announcement, sanitize, if_neg audible]
  have admits : (worker.step (hosts i).udp (.datagram bytes sender now)).2.1 =
      some (.insert now (.new now adv.nodeId (truncateName adv.deviceName) adv.deviceType
        [⟨sender.ip, adv.port⟩] adv.capabilities)) := by
    simp [UdpWorker.step, heard, UdpWorker.handleBeacon, BeaconMessage.nodeId, foreign]
  refine ⟨_, .act (.udpRound src owned (.datagram bytes sender now) running found ?_), ?_⟩
  · rintro _ _ _ ⟨⟩
    exact sent
  · rw [record_self]
    dsimp only
    rw [admits]
    exact PeerDirectory.shows_insert _ now _

/-- A node that starts sends its query. -/
theorem asked (reachable : Reachable hosts lan) {answers : Answers}
    (started : ((lan.stations i).engine.startDiscovery answers).1 = .ok ()) (udp : (hosts i).mode ≠ .mdnsOnly)
    (asks : (hosts i).queryOnStart = true) (targets : (hosts i).udp.broadcastTargets ≠ [])
    (found : (lan.stations i).channels.udp = some worker) {src : SocketAddr} (owned : (hosts i).owns src.ip) :
    ∃ lan' : Lan Id, Relation.ReflTransGen (Step hosts) lan lan' ∧
      (∀ j, j ≠ i → lan'.stations j = lan.stations j) ∧ (lan'.stations i).engine.udpRunning = true ∧
      (lan'.stations i).channels = (lan.stations i).channels ∧
      (src, datagram (Station.queryMessage worker)) ∈ lan'.air := by
  obtain ⟨phase, allowed, engine⟩ := (formed_of_reachable reachable i).engine
  have configured : (lan.stations i).engine.udp.isSome = true := by simp [engine, Phase.udp_realize, udp]
  have running : ((lan.stations i).engine.startDiscovery answers).2.udpRunning = true := by
    rw [engine, Phase.startDiscovery_realize allowed] at started ⊢
    simp [Phase.udpRunning_realize, Phase.started_of_ok started, udp]
  obtain ⟨target, broadcast⟩ := List.exists_mem_of_ne_nil _ targets
  let begun : Station := { lan.stations i with
    engine := ((lan.stations i).engine.startDiscovery answers).2
    queries := (lan.stations i).queries + 1 }
  have start : Step hosts lan (lan.record i .silent begun) := by
    have act : Station.Act (hosts i) (fun src bytes => (src, bytes) ∈ lan.air) (lan.Resolvable hosts)
      (lan.stations i) .silent _ := .startDiscovery answers
    simp only [started, asks, configured, and_self, if_true] at act
    exact .act act
  have ask : Step hosts (lan.record i .silent begun) ((lan.record i .silent begun).record i
      ⟨sentFrom src (sendTo (hosts i).udp.broadcastTargets (Station.queryMessage worker)), [], []⟩
      { begun with queries := (lan.stations i).queries }) := by
    refine .act ?_
    rw [record_self]
    exact .query src owned rfl found
  refine ⟨_, (Relation.ReflTransGen.single start).tail ask, fun j apart => ?_, ?_, ?_, ?_⟩
  · rw [record_ne apart, record_ne apart]
  · rw [record_self]
    exact running
  · rw [record_self]
  · refine List.mem_append_right _ (List.mem_map.mpr ⟨(target, _), mem_sendTo.mpr ⟨broadcast, ?_⟩, rfl⟩)
    exact encodeBeacon_query _ _

/-- A node starts and asks, and another answers; nothing else has changed for the first. -/
theorem exchanged (distinct : Function.Injective fun i => (hosts i).nodeId) (reachable : Reachable hosts lan)
    (apart : i ≠ j) {answers : Answers} (started : ((lan.stations i).engine.startDiscovery answers).1 = .ok ())
    (udp : (hosts i).mode ≠ .mdnsOnly) (asks : (hosts i).queryOnStart = true)
    (targets : (hosts i).udp.broadcastTargets ≠ []) (found : (lan.stations i).channels.udp = some worker)
    (audible : lan.Audible j adv) (named : (hosts j).nodeId ≠ ⟨.fill 32 0⟩) {here there : SocketAddr}
    (ownHere : (hosts i).owns here.ip) (ownThere : (hosts j).owns there.ip) {reply : Bytes}
    (encoded : encodeBeacon adv.announcement = .ok reply) :
    ∃ lan' : Lan Id, Relation.ReflTransGen (Step hosts) lan lan' ∧
      (lan'.stations i).engine.udpRunning = true ∧ (lan'.stations i).channels.udp = some worker ∧
      worker.localNodeId ≠ some adv.nodeId ∧ (there, reply) ∈ lan'.air := by
  have sound := sound_of_reachable distinct reachable
  obtain ⟨responder, responding, advertised⟩ := audible.advertised
  obtain ⟨inside, known⟩ := sound.advertised responding advertised
  have own : adv.nodeId = (hosts j).nodeId := sound.own j _ inside
  have names := (formed_of_reachable reachable i).names worker found
  have foreign : (hosts j).nodeId ≠ worker.localNodeId.getD ⟨.fill 32 0⟩ := by
    cases self : worker.localNodeId with
    | none => exact named
    | some n =>
        obtain rfl := names n self
        exact fun same => apart (distinct same.symm)
  obtain ⟨asking, asked, others, running, channels, sent⟩ :=
    Lan.asked reachable started udp asks targets found ownHere
  -- the other node is as it was
  have same := others j (Ne.symm apart)
  have still : asking.Audible j adv :=
    ⟨by rw [same]; exact audible.running, by rw [same]; exact audible.advertised, audible.port, audible.fits⟩
  have query : UdpWorker.hear (datagram (Station.queryMessage worker)) = .ok (Station.queryMessage worker) :=
    hear_encodeBeacon (encodeBeacon_query _ _)
  obtain ⟨answering, answered, elsewhere, replied⟩ :=
    Lan.answered still ownThere query sent foreign (by rw [same]; exact known)
  have untouched := elsewhere i apart
  refine ⟨answering, asked.tail answered, by rw [untouched]; exact running, ?_, fun self => ?_,
    replied reply encoded⟩
  · rw [untouched, channels]
    exact found
  · exact apart (distinct ((names _ self).symm.trans own))

section Example

def exampleAddress (n : UInt8) : SocketAddr := ⟨.v4 (.fill 4 n), 42424⟩

def exampleHost (n : UInt8) : Host where
  nodeId := exampleNode n
  owns ip := ip = (exampleAddress n).ip
  mode := .udpOnly
  bindAddr := "0.0.0.0:42424"
  serviceType := "_bridgeos._tcp.local."
  ttl := 5000
  udp := ⟨[exampleAddress 255], 6000, true⟩
  queryOnStart := true

/-- A desktop and a phone. -/
def exampleHosts : Bool → Host
  | false => exampleHost 1
  | true => exampleHost 2

theorem exampleHosts_distinct : Function.Injective fun i => (exampleHosts i).nodeId := by
  intro i j same
  cases i <;> cases j
  · rfl
  · exact absurd same (by decide)
  · exact absurd same (by decide)
  · rfl

def examplePhone : LocalAdvertisement := ⟨exampleNode 2, "phone", .android, 8443, ⟨0⟩, 1⟩

/-- The phone advertises itself and starts, and the desktop has done nothing yet. -/
theorem examplePhone_audible : ∃ lan : Lan Bool, Reachable exampleHosts lan ∧ lan.Audible true examplePhone ∧
    ((lan.stations false).engine.startDiscovery .granted).1 = .ok () ∧
      (lan.stations false).channels.udp = some .new := by
  have advertise : Step exampleHosts (initial exampleHosts) _ :=
    .act (i := true) (.advertise examplePhone.profile none ⟨.ok (), .ok ()⟩ rfl)
  refine ⟨_, (Relation.ReflTransGen.single advertise).tail (.act (i := true) (.startDiscovery .granted)),
    ⟨?_, ?_, by decide, ⟨_, rfl⟩⟩, ?_⟩
  · rw [record_self, record_self]
    rfl
  · rw [record_self, record_self]
    exact ⟨_, rfl, rfl⟩
  · rw [record_ne (by decide), record_ne (by decide)]
    exact ⟨rfl, rfl⟩

end Example

/-- Whatever the nodes do and the network delivers: whom a node lists is another node, by the
    name, type and capabilities that node was asked to advertise at some time, and at addresses
    and ports of that node. -/
theorem listed_nodes_advertised (hosts : Id → Host) (distinct : Function.Injective fun i => (hosts i).nodeId)
    (lan : Lan Id) (reachable : Reachable hosts lan) (i : Id) (n : NodeId) (peer : DiscoveredPeer)
    (listed : (lan.stations i).directory.get n = some peer) :
    peer.nodeId = n ∧ ∃ j, Lists hosts lan i peer j :=
  ⟨(lan.stations i).directory.filed n peer listed,
    (sound_of_reachable distinct reachable).directory i n peer listed⟩

/-- Whom the desktop lists then is the phone. -/
theorem listed_phone_advertised : ∃ lan peer, Reachable exampleHosts lan ∧
    (lan.stations false).directory.get (exampleNode 2) = some peer ∧
    ∃ j, Lists exampleHosts lan false peer j := by
  obtain ⟨lan, reachable, audible, started, found⟩ := examplePhone_audible
  have here : (exampleHosts false).owns (exampleAddress 1).ip := rfl
  have there : (exampleHosts true).owns (exampleAddress 2).ip := rfl
  obtain ⟨reply, encoded⟩ := audible.fits
  obtain ⟨answering, exchanged, running, listening, foreign, replied⟩ :=
    Lan.exchanged exampleHosts_distinct reachable (by decide) started (by decide) rfl
      (by simp [exampleHosts, exampleHost]) found audible (by decide) here there encoded
  obtain ⟨later, heard, peer, listed, -⟩ :=
    Lan.listed here running listening foreign encoded audible.port replied 0
  have run := (reachable.trans exchanged).tail heard
  exact ⟨later, peer, run, listed,
    (listed_nodes_advertised exampleHosts exampleHosts_distinct later run false _ peer listed).2⟩

/-- A node that starts and asks need not wait for a beacon: from whatever state, its query can
    reach any node that is audible, and the answer to it has that node listed. -/
theorem query_finds (hosts : Id → Host) (distinct : Function.Injective fun i => (hosts i).nodeId) (lan : Lan Id)
    (reachable : Reachable hosts lan) (i j : Id) (apart : i ≠ j) (answers : Answers)
    (started : ((lan.stations i).engine.startDiscovery answers).1 = .ok ())
    (udp : (hosts i).mode ≠ .mdnsOnly) (asks : (hosts i).queryOnStart = true)
    (targets : (hosts i).udp.broadcastTargets ≠ []) (adv : LocalAdvertisement) (audible : lan.Audible j adv)
    (named : (hosts j).nodeId ≠ ⟨.fill 32 0⟩) (here there : SocketAddr) (ownHere : (hosts i).owns here.ip)
    (ownThere : (hosts j).owns there.ip) (now : Nat) :
    ∃ lan', Relation.ReflTransGen (Step hosts) lan lan' ∧
      ∃ peer, (lan'.stations i).directory.get adv.nodeId = some peer ∧
        peer.Shows (.new now adv.nodeId (truncateName adv.deviceName) adv.deviceType
          [⟨there.ip, adv.port⟩] adv.capabilities) now := by
  obtain ⟨reply, encoded⟩ := audible.fits
  obtain ⟨current, advertise, -⟩ := (sound_of_reachable distinct reachable).advertise i
  obtain ⟨worker, found⟩ := Option.isSome_iff_exists.mp (advertise.udpPresent.trans (decide_eq_true udp))
  obtain ⟨answering, exchanged, running, listening, foreign, replied⟩ :=
    Lan.exchanged distinct reachable apart started udp asks targets found audible named ownHere ownThere encoded
  obtain ⟨lan', heard, listed⟩ :=
    Lan.listed ownHere running listening foreign encoded audible.port replied now
  exact ⟨lan', exchanged.tail heard, listed⟩

theorem query_finds_phone : ∃ lan, Reachable exampleHosts lan ∧
    ∃ peer, (lan.stations false).directory.get (exampleNode 2) = some peer ∧
      peer.deviceName = truncateName "phone" ∧ (⟨(exampleAddress 2).ip, 8443⟩ : SocketAddr) ∈ peer.addresses := by
  obtain ⟨lan, reachable, audible, started, -⟩ := examplePhone_audible
  obtain ⟨later, run, peer, listed, shows⟩ :=
    query_finds exampleHosts exampleHosts_distinct lan reachable false true (by decide) .granted started
      (by decide) rfl (by simp [exampleHosts, exampleHost]) examplePhone audible (by decide) (exampleAddress 1)
      (exampleAddress 2) rfl rfl 0
  exact ⟨later, reachable.trans run, peer, listed, shows.deviceName, shows.addresses _ List.mem_cons_self⟩

end Lan

end BridgeOS.Discovery
