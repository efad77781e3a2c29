import BridgeOS.Discovery.Starting
import BridgeOS.Discovery.Txt
import BridgeOS.Discovery.Udp
import BridgeOS.Lib.Past

/-! # Advertising a node

The unified engine advertises over mDNS first and over UDP second. mDNS remembers the
name of the service it registered, refuses another one as long as it does, and forgets
the name before it asks the daemon to withdraw the service. UDP refuses nothing. Between
the two a node is never taken to be advertised on one channel only, nor as two different
things; but a service whose withdrawal the daemon refused stays published.

What the mDNS daemon answers is given with each call; `published` is what it was told to
publish and has not been told to withdraw.
-/

namespace BridgeOS.Discovery

/-- What a node makes known of itself. -/
structure Profile where
  nodeId : NodeId
  deviceName : String
  deviceType : DeviceType
  port : UInt16
  capabilities : Capabilities
  deriving DecidableEq

def LocalAdvertisement.profile (adv : LocalAdvertisement) : Profile :=
  ⟨adv.nodeId, adv.deviceName, adv.deviceType, adv.port, adv.capabilities⟩

/-- What a service is registered with. Without addresses of its own the text `""` is given. -/
structure ServiceInfo where
  serviceType : String
  instanceName : String
  hostName : String
  ips : Option (List IpAddr)
  port : UInt16
  properties : AList (fun _ : String => String)

def ServiceInfo.fullname (info : ServiceInfo) : String := info.instanceName ++ "." ++ info.serviceType

/-- `replace(['.', ' '], "-")`. -/
def hyphenate (name : String) : String :=
  String.ofList (name.toList.map fun c => if c = '.' ∨ c = ' ' then '-' else c)

/-- The first digits of an identity. -/
def shortHex (n : NodeId) (digits : Nat) : String := String.ofList (n.toHex.toList.take digits)

namespace Profile

def instanceName (profile : Profile) : String :=
  hyphenate profile.deviceName ++ "-" ++ shortHex profile.nodeId 8

def serviceInfo (profile : Profile) (serviceType : String) (ips : Option (List IpAddr)) : ServiceInfo where
  serviceType := serviceType
  instanceName := profile.instanceName
  hostName := shortHex profile.nodeId 12 ++ ".local."
  ips := ips
  port := profile.port
  properties := peerToTxtProperties profile.nodeId profile.deviceName profile.deviceType profile.capabilities

def fullname (profile : Profile) (serviceType : String) : String :=
  (profile.serviceInfo serviceType none).fullname

end Profile

/-- How the calls are answered that registering a service makes. -/
structure RegisterAnswers where
  construct : Answer
  register : Answer

def RegisterAnswers.registering (answers : RegisterAnswers) : Except StartError Unit := do
  answers.construct.mapError fun e => .mdns s!"failed to construct ServiceInfo: {e}"
  answers.register.mapError fun e => .mdns s!"failed to register mDNS service: {e}"

/-- `MdnsDiscovery` without what starting it changes. -/
structure MdnsDiscovery where
  worker : MdnsWorker
  registeredFullname : Option String
  published : AList (fun _ : String => ServiceInfo)

namespace MdnsDiscovery

def new : MdnsDiscovery := ⟨⟨none, ∅⟩, none, ∅⟩

/-- The node knows itself from here on, also if it cannot be registered. -/
def advertise (serviceType : String) (mdns : MdnsDiscovery) (profile : Profile) (ips : Option (List IpAddr))
    (answers : RegisterAnswers) : Except StartError Unit × MdnsDiscovery :=
  if mdns.registeredFullname.isSome then (.error .alreadyRunning, mdns)
  else
    let mdns := { mdns with worker := { mdns.worker with localNodeId := some profile.nodeId } }
    match answers.registering with
    | .error e => (.error e, mdns)
    | .ok _ =>
        let info := profile.serviceInfo serviceType ips
        (.ok (), { mdns with
          registeredFullname := some info.fullname
          published := mdns.published.insert info.fullname info })

def stopAdvertising (mdns : MdnsDiscovery) (unregister : Answer) : Except StartError Unit × MdnsDiscovery :=
  match mdns.registeredFullname with
  | none => (.ok (), mdns)
  | some fullname =>
      let mdns := { mdns with registeredFullname := none }
      match unregister with
      | .error e => (.error (.mdns s!"failed to unregister {fullname}: {e}"), mdns)
      | .ok _ => (.ok (), { mdns with published := mdns.published.erase fullname })

/-- A daemon that was shut down publishes nothing. -/
def shutdown (mdns : MdnsDiscovery) (unregister daemon : Answer) : MdnsDiscovery :=
  let mdns := (mdns.stopAdvertising unregister).2
  match daemon with
  | .error _ => mdns
  | .ok _ => { mdns with published := ∅ }

/-- A channel that is not configured has nothing to advertise on. -/
def advertiseAny (serviceType : String) (profile : Profile) (ips : Option (List IpAddr))
    (answers : RegisterAnswers) : Option MdnsDiscovery → Except StartError Unit × Option MdnsDiscovery
  | none => (.ok (), none)
  | some mdns =>
      ((mdns.advertise serviceType profile ips answers).1, some (mdns.advertise serviceType profile ips answers).2)

end MdnsDiscovery

def UdpWorker.new : UdpWorker := ⟨none, none⟩

def UdpWorker.advertiseProfile (worker : UdpWorker) (profile : Profile) : UdpWorker :=
  worker.advertise profile.nodeId profile.deviceName profile.deviceType profile.port profile.capabilities

/-- The channels of `UnifiedDiscovery`, without what starting them changes. -/
structure Channels where
  mdns : Option MdnsDiscovery
  udp : Option UdpWorker

namespace Channels

def new : UnifiedDiscoveryMode → Channels
  | .both => ⟨some .new, some .new⟩
  | .mdnsOnly => ⟨some .new, none⟩
  | .udpOnly => ⟨none, some .new⟩

/-- What mDNS refuses is not advertised over UDP. -/
def advertise (serviceType : String) (channels : Channels) (profile : Profile) (ips : Option (List IpAddr))
    (answers : RegisterAnswers) : Except StartError Unit × Channels :=
  match MdnsDiscovery.advertiseAny serviceType profile ips answers channels.mdns with
  | (.error e, mdns) => (.error e, { channels with mdns })
  | (.ok _, mdns) => (.ok (), { mdns, udp := channels.udp.map (·.advertiseProfile profile) })

/-- That a service cannot be withdrawn is not reported. -/
def stopAdvertising (channels : Channels) (unregister : Answer) : Channels where
  mdns := channels.mdns.map fun mdns => (mdns.stopAdvertising unregister).2
  udp := channels.udp.map UdpWorker.stopAdvertising

def shutdown (channels : Channels) (unregister daemon : Answer) : Channels where
  mdns := channels.mdns.map fun mdns => mdns.shutdown unregister daemon
  udp := channels.udp.map UdpWorker.stopAdvertising

/-- What may happen to the channels: calls, and rounds of their workers. -/
inductive Occurrence where
  | advertise (profile : Profile) (ips : Option (List IpAddr)) (answers : RegisterAnswers)
  | stopAdvertising (unregister : Answer)
  | shutdown (unregister daemon : Answer)
  | mdnsRound (input : MdnsInput)
  | udpRound (input : UdpInput)

variable (serviceType : String) (ttl : Nat) (config : UdpConfig)

def undergo (channels : Channels) : Occurrence → Channels
  | .advertise profile ips answers => (channels.advertise serviceType profile ips answers).2
  | .stopAdvertising unregister => channels.stopAdvertising unregister
  | .shutdown unregister daemon => channels.shutdown unregister daemon
  | .mdnsRound input =>
      { channels with mdns := channels.mdns.map fun mdns =>
          { mdns with worker := (mdns.worker.step ttl input).1 } }
  | .udpRound input => { channels with udp := channels.udp.map fun udp => (udp.step config input).1 }

def undergoAll (channels : Channels) (occurrences : List Occurrence) : Channels :=
  occurrences.foldl (undergo serviceType ttl config) channels

theorem undergoAll_snoc (channels : Channels) (occurrences : List Occurrence) (occurrence : Occurrence) :
    undergoAll serviceType ttl config channels (occurrences ++ [occurrence]) =
      undergo serviceType ttl config (undergoAll serviceType ttl config channels occurrences) occurrence := by
  simp [undergoAll]

end Channels

namespace Advertised

/-- What becomes of what a node is advertised as, if it is. With mDNS another profile is
    refused; without, it replaces the current one. -/
def advertise (mode : UnifiedDiscoveryMode) (profile : Profile) (answers : RegisterAnswers)
    (current : Option Profile) : Except StartError Unit × Option Profile :=
  if mode = .udpOnly then (.ok (), some profile)
  else if current.isSome then (.error .alreadyRunning, current)
  else match answers.registering with
    | .error e => (.error e, none)
    | .ok _ => (.ok (), some profile)

variable {profile : Profile} {answers : RegisterAnswers}

theorem advertise_of_error {mode : UnifiedDiscoveryMode} {current : Option Profile} {e : StartError}
    (error : (advertise mode profile answers current).1 = .error e) :
    (advertise mode profile answers current).2 = current := by
  unfold advertise at error ⊢
  split
  · simp_all
  · cases current with
    | some other => rfl
    | none => cases registered : answers.registering <;> simp_all

theorem advertise_of_ok {mode : UnifiedDiscoveryMode} {current : Option Profile}
    (ok : (advertise mode profile answers current).1 = .ok ()) :
    (advertise mode profile answers current).2 = some profile := by
  unfold advertise at ok ⊢
  split
  · rfl
  · cases current with
    | some other => simp_all
    | none => cases registered : answers.registering <;> simp_all

def after (mode : UnifiedDiscoveryMode) (current : Option Profile) : Channels.Occurrence → Option Profile
  | .advertise profile _ answers => (advertise mode profile answers current).2
  | .stopAdvertising _ => none
  | .shutdown _ _ => none
  | .mdnsRound _ => current
  | .udpRound _ => current

theorem mem_after {mode : UnifiedDiscoveryMode} {current : Option Profile} {occurrence : Channels.Occurrence}
    (about : profile ∈ after mode current occurrence) :
    profile ∈ current ∨ ∃ ips answers, occurrence = .advertise profile ips answers := by
  cases occurrence with
  | advertise other ips answers =>
      cases outcome : (advertise mode other answers current).1 with
      | error e =>
          rw [after, advertise_of_error outcome] at about
          exact .inl about
      | ok =>
          rw [after, advertise_of_ok outcome] at about
          cases about
          exact .inr ⟨ips, answers, rfl⟩
  | stopAdvertising | shutdown => cases about
  | mdnsRound | udpRound => exact .inl about

/-- The service is given to the daemon, which takes it. -/
def Registers (mode : UnifiedDiscoveryMode) (serviceType fullname : String) (current : Option Profile) :
    Channels.Occurrence → Prop
  | .advertise profile _ answers => mode ≠ .udpOnly ∧ (advertise mode profile answers current).1 = .ok () ∧
      profile.fullname serviceType = fullname
  | _ => False

/-- The daemon withdraws the service, which is the current one, or is shut down. -/
def Withdraws (serviceType fullname : String) (current : Option Profile) : Channels.Occurrence → Prop
  | .stopAdvertising unregister =>
      unregister = .ok () ∧ ∃ profile ∈ current, profile.fullname serviceType = fullname
  | .shutdown unregister daemon =>
      daemon = .ok () ∨ unregister = .ok () ∧ ∃ profile ∈ current, profile.fullname serviceType = fullname
  | _ => False

end Advertised

/-- mDNS has registered the current profile and no other, and publishes it, and the node knows itself. -/
structure MdnsDiscovery.Advertises (mdns : MdnsDiscovery) (serviceType : String) (current : Option Profile) :
    Prop where
  registered : mdns.registeredFullname = current.map fun profile => profile.fullname serviceType
  published : ∀ profile ∈ current, ∃ ips,
    mdns.published.lookup (profile.fullname serviceType) = some (profile.serviceInfo serviceType ips)
  known : ∀ profile ∈ current, mdns.worker.localNodeId = some profile.nodeId

/-- The beacons of UDP tell the current profile, and the node knows itself. -/
structure UdpWorker.Advertises (worker : UdpWorker) (current : Option Profile) : Prop where
  beacon : worker.advertising.map LocalAdvertisement.profile = current
  known : ∀ profile ∈ current, worker.localNodeId = some profile.nodeId

/-- Every configured channel has the current profile as the one that it advertises. What else mDNS still
    publishes is not told here. -/
structure Channels.Advertise (channels : Channels) (mode : UnifiedDiscoveryMode) (serviceType : String)
    (current : Option Profile) : Prop where
  mdnsPresent : channels.mdns.isSome = decide (mode ≠ .udpOnly)
  udpPresent : channels.udp.isSome = decide (mode ≠ .mdnsOnly)
  mdns : ∀ mdns ∈ channels.mdns, mdns.Advertises serviceType current
  udp : ∀ udp ∈ channels.udp, udp.Advertises current

namespace MdnsDiscovery

variable {mdns : MdnsDiscovery} {serviceType : String} {current : Option Profile}

theorem advertises_stopAdvertising (mdns : MdnsDiscovery) (serviceType : String) (unregister : Answer) :
    (mdns.stopAdvertising unregister).2.Advertises serviceType none := by
  refine ⟨?_, by simp, by simp⟩
  unfold stopAdvertising
  cases registered : mdns.registeredFullname with
  | none => exact registered
  | some fullname => cases unregister <;> rfl

theorem advertises_shutdown (mdns : MdnsDiscovery) (serviceType : String) (unregister daemon : Answer) :
    (mdns.shutdown unregister daemon).Advertises serviceType none := by
  have stopped := mdns.advertises_stopAdvertising serviceType unregister
  cases daemon with
  | error => exact stopped
  | ok => exact ⟨stopped.registered, by simp, by simp⟩

theorem known_of_accepted {ips : Option (List IpAddr)}
    (accepted : (mdns.advertise serviceType profile ips answers).1 = .ok ()) :
    (mdns.advertise serviceType profile ips answers).2.worker.localNodeId = some profile.nodeId := by
  unfold MdnsDiscovery.advertise at accepted ⊢
  split
  · simp_all
  · cases answers.registering <;> rfl

theorem fullnames_advertise (mdns : MdnsDiscovery) (profile : Profile) (ips : Option (List IpAddr))
    (answers : RegisterAnswers) :
    (mdns.advertise serviceType profile ips answers).2.worker.fullnameToNode = mdns.worker.fullnameToNode := by
  unfold MdnsDiscovery.advertise
  split
  · rfl
  · cases answers.registering <;> rfl

theorem worker_stopAdvertising (mdns : MdnsDiscovery) (unregister : Answer) :
    (mdns.stopAdvertising unregister).2.worker = mdns.worker := by
  unfold stopAdvertising
  cases mdns.registeredFullname with
  | none => rfl
  | some fullname => cases unregister <;> rfl

theorem worker_shutdown (mdns : MdnsDiscovery) (unregister daemon : Answer) :
    (mdns.shutdown unregister daemon).worker = mdns.worker := by
  cases daemon <;> exact mdns.worker_stopAdvertising unregister

theorem localNodeId_step (ttl : Nat) (worker : MdnsWorker) (input : MdnsInput) :
    (worker.step ttl input).1.localNodeId = worker.localNodeId := by
  cases input with
  | prune | serviceRemoved | otherEvent => rfl
  | serviceResolved info now =>
      rw [MdnsWorker.step]
      cases parseResolvedService now info with
      | error => rfl
      | ok peer =>
          dsimp only
          split <;> rfl

theorem Advertises.step (advertises : mdns.Advertises serviceType current) (ttl : Nat) (input : MdnsInput) :
    MdnsDiscovery.Advertises { mdns with worker := (mdns.worker.step ttl input).1 } serviceType current where
  registered := advertises.registered
  published := advertises.published
  known profile about := (localNodeId_step ttl mdns.worker input).trans (advertises.known profile about)

/-- What mDNS makes of a profile is what becomes of the current one. -/
theorem Advertises.advertise {mode : UnifiedDiscoveryMode} (configured : mode ≠ .udpOnly)
    (advertises : mdns.Advertises serviceType current) (profile : Profile) (ips : Option (List IpAddr))
    (answers : RegisterAnswers) :
    (mdns.advertise serviceType profile ips answers).1 = (Advertised.advertise mode profile answers current).1 ∧
      (mdns.advertise serviceType profile ips answers).2.Advertises serviceType
        (Advertised.advertise mode profile answers current).2 := by
  unfold MdnsDiscovery.advertise Advertised.advertise
  rw [advertises.registered, if_neg configured, Option.isSome_map]
  cases current with
  | some other => exact ⟨rfl, advertises⟩
  | none =>
      cases answers.registering with
      | error => exact ⟨rfl, rfl, by simp, by simp⟩
      | ok =>
          refine ⟨rfl, rfl, ?_, ?_⟩
          · rintro _ ⟨⟩
            exact ⟨ips, AList.lookup_insert _⟩
          · rintro _ ⟨⟩
            rfl

theorem mem_published_advertise {fullname : String} (profile : Profile) (ips : Option (List IpAddr))
    (answers : RegisterAnswers) :
    fullname ∈ (mdns.advertise serviceType profile ips answers).2.published ↔
      (mdns.advertise serviceType profile ips answers).1 = .ok () ∧ profile.fullname serviceType = fullname ∨
        fullname ∈ mdns.published := by
  have named : (profile.serviceInfo serviceType ips).fullname = profile.fullname serviceType := rfl
  unfold MdnsDiscovery.advertise
  split
  · simp
  · cases answers.registering with
    | error => simp
    | ok => simp [AList.mem_insert, eq_comm, named]

theorem Advertises.mem_published_stopAdvertising (advertises : mdns.Advertises serviceType current)
    (unregister : Answer) {fullname : String} :
    fullname ∈ (mdns.stopAdvertising unregister).2.published ↔ fullname ∈ mdns.published ∧
      ¬ (unregister = .ok () ∧ ∃ profile ∈ current, profile.fullname serviceType = fullname) := by
  have own : (∃ profile ∈ current, profile.fullname serviceType = fullname) ↔
      mdns.registeredFullname = some fullname := by
    rw [advertises.registered, Option.map_eq_some_iff]
    rfl
  rw [own]
  unfold stopAdvertising
  cases mdns.registeredFullname with
  | none => simp
  | some other => cases unregister <;> simp [AList.mem_erase, eq_comm, and_comm]

end MdnsDiscovery

theorem UdpWorker.Advertises.step {worker : UdpWorker} {current : Option Profile} {config : UdpConfig}
    (advertises : worker.Advertises current) (input : UdpInput) :
    (worker.step config input).1.Advertises current := by
  refine ⟨?_, fun profile about => (localNodeId_step input).trans (advertises.known profile about)⟩
  rw [← advertises.beacon]
  cases input with
  | prune => rfl
  | beaconTick =>
      cases told : worker.advertising with
      | none => simp [UdpWorker.step, told]
      | some adv => simp [UdpWorker.step, told, LocalAdvertisement.profile]
  | datagram bytes src now =>
      rw [UdpWorker.step]
      cases hear bytes <;> rfl

namespace Channels

variable {channels : Channels} {mode : UnifiedDiscoveryMode} {serviceType : String} {ttl : Nat}
  {config : UdpConfig} {current : Option Profile}

theorem advertise_new (mode : UnifiedDiscoveryMode) (serviceType : String) :
    (new mode).Advertise mode serviceType none := by
  have mdns : MdnsDiscovery.new.Advertises serviceType none := ⟨rfl, by simp, by simp⟩
  have udp : UdpWorker.new.Advertises none := ⟨rfl, by simp⟩
  cases mode with
  | both => exact ⟨rfl, rfl, by rintro _ ⟨⟩; exact mdns, by rintro _ ⟨⟩; exact udp⟩
  | mdnsOnly => exact ⟨rfl, rfl, by rintro _ ⟨⟩; exact mdns, by simp [new]⟩
  | udpOnly => exact ⟨rfl, rfl, by simp [new], by rintro _ ⟨⟩; exact udp⟩

theorem Advertise.map {next : Option Profile} {onMdns : MdnsDiscovery → MdnsDiscovery}
    {onUdp : UdpWorker → UdpWorker} (advertise : channels.Advertise mode serviceType current)
    (mdns : ∀ mdns : MdnsDiscovery, mdns.Advertises serviceType current → (onMdns mdns).Advertises serviceType next)
    (udp : ∀ udp : UdpWorker, udp.Advertises current → (onUdp udp).Advertises next) :
    Channels.Advertise ⟨channels.mdns.map onMdns, channels.udp.map onUdp⟩ mode serviceType next where
  mdnsPresent := Option.isSome_map.trans advertise.mdnsPresent
  udpPresent := Option.isSome_map.trans advertise.udpPresent
  mdns changed found := by
    obtain ⟨before, present, rfl⟩ := Option.map_eq_some_iff.mp found
    exact mdns before (advertise.mdns before present)
  udp changed found := by
    obtain ⟨before, present, rfl⟩ := Option.map_eq_some_iff.mp found
    exact udp before (advertise.udp before present)

theorem advertises_advertiseProfile (udp : UdpWorker) (profile : Profile) :
    (udp.advertiseProfile profile).Advertises (some profile) := by
  refine ⟨rfl, ?_⟩
  rintro _ ⟨⟩
  rfl

/-- A call is answered as the current profile demands, and leaves the channels in step. -/
theorem Advertise.advertise (advertise : channels.Advertise mode serviceType current) (profile : Profile)
    (ips : Option (List IpAddr)) (answers : RegisterAnswers) :
    (channels.advertise serviceType profile ips answers).1 =
        (Advertised.advertise mode profile answers current).1 ∧
      (channels.advertise serviceType profile ips answers).2.Advertise mode serviceType
        (Advertised.advertise mode profile answers current).2 := by
  obtain ⟨mdns, udp⟩ := channels
  have present := advertise.mdnsPresent
  have onUdp : ∀ worker ∈ udp.map (·.advertiseProfile profile), UdpWorker.Advertises worker (some profile) := by
    intro changed found
    obtain ⟨worker, -, rfl⟩ := Option.map_eq_some_iff.mp found
    exact advertises_advertiseProfile worker profile
  cases mdns with
  | none =>
      have udpOnly : mode = .udpOnly := by simpa using present
      rw [Advertised.advertise, if_pos udpOnly]
      exact ⟨rfl, present, Option.isSome_map.trans advertise.udpPresent, by rintro _ ⟨⟩, onUdp⟩
  | some mdns =>
      have withMdns : mode ≠ .udpOnly := by simpa using present
      obtain ⟨result, next⟩ := (advertise.mdns mdns rfl).advertise withMdns profile ips answers
      cases outcome : (Advertised.advertise mode profile answers current).1 with
      | error e =>
          rw [outcome] at result
          rw [Advertised.advertise_of_error outcome] at next ⊢
          simp only [Channels.advertise, MdnsDiscovery.advertiseAny, result]
          exact ⟨trivial, present, advertise.udpPresent, by rintro _ ⟨⟩; exact next, advertise.udp⟩
      | ok =>
          rw [outcome] at result
          rw [Advertised.advertise_of_ok outcome] at next ⊢
          simp only [Channels.advertise, MdnsDiscovery.advertiseAny, result]
          exact ⟨trivial, present, Option.isSome_map.trans advertise.udpPresent, by rintro _ ⟨⟩; exact next, onUdp⟩

theorem advertise_some_mdns (mdns : MdnsDiscovery) (udp : Option UdpWorker) (profile : Profile)
    (ips : Option (List IpAddr)) (answers : RegisterAnswers) :
    (Channels.advertise serviceType ⟨some mdns, udp⟩ profile ips answers).2.mdns =
      some (mdns.advertise serviceType profile ips answers).2 := by
  cases result : (mdns.advertise serviceType profile ips answers).1 <;>
    simp [Channels.advertise, MdnsDiscovery.advertiseAny, result]

/-- One occurrence after another. -/
theorem advertise_undergo (advertise : channels.Advertise mode serviceType current) (occurrence : Occurrence) :
    (channels.undergo serviceType ttl config occurrence).Advertise mode serviceType
      (Advertised.after mode current occurrence) := by
  have stopped : ∀ worker : UdpWorker, worker.stopAdvertising.Advertises none := fun worker => ⟨rfl, by simp⟩
  cases occurrence with
  | advertise profile ips answers => exact (advertise.advertise profile ips answers).2
  | stopAdvertising unregister =>
      exact advertise.map (fun mdns _ => mdns.advertises_stopAdvertising serviceType unregister)
        fun worker _ => stopped worker
  | shutdown unregister daemon =>
      exact advertise.map (fun mdns _ => mdns.advertises_shutdown serviceType unregister daemon)
        fun worker _ => stopped worker
  | mdnsRound input =>
      simpa [undergo, Advertised.after] using advertise.map (fun mdns advertises => advertises.step ttl input)
        fun worker (advertises : (id worker).Advertises current) => advertises
  | udpRound input =>
      simpa [undergo, Advertised.after] using
        advertise.map (fun mdns (advertises : (id mdns).Advertises serviceType current) => advertises)
          fun worker advertises => advertises.step input

variable (mode serviceType ttl config) in
theorem advertise_undergoAll (occurrences : List Occurrence) :
    (undergoAll serviceType ttl config (new mode) occurrences).Advertise mode serviceType
      (occurrences.foldl (Advertised.after mode) none) := by
  induction occurrences using List.reverseRecOn with
  | nil => exact advertise_new mode serviceType
  | append_singleton occurrences occurrence ih =>
      rw [undergoAll_snoc, List.foldl_concat]
      exact advertise_undergo ih occurrence

/-- mDNS publishes a service of this name. -/
def Publish (channels : Channels) (fullname : String) : Prop :=
  ∃ mdns ∈ channels.mdns, fullname ∈ mdns.published

theorem publish_undergo (advertise : channels.Advertise mode serviceType current) (occurrence : Occurrence)
    (fullname : String) :
    (channels.undergo serviceType ttl config occurrence).Publish fullname ↔
      Advertised.Registers mode serviceType fullname current occurrence ∨
        channels.Publish fullname ∧ ¬ Advertised.Withdraws serviceType fullname current occurrence := by
  obtain ⟨mdns, udp⟩ := channels
  have present := advertise.mdnsPresent
  cases mdns with
  | none =>
      have udpOnly : mode = .udpOnly := by simpa using present
      cases occurrence <;> simp [Publish, undergo, stopAdvertising, shutdown, Channels.advertise,
        MdnsDiscovery.advertiseAny, Advertised.Registers, udpOnly]
  | some mdns =>
      have configured : mode ≠ .udpOnly := by simpa using present
      have advertises := advertise.mdns mdns rfl
      cases occurrence with
      | advertise profile ips answers =>
          simp [Publish, undergo, advertise_some_mdns, MdnsDiscovery.mem_published_advertise, Advertised.Registers,
            Advertised.Withdraws, configured, (advertises.advertise configured profile ips answers).1]
      | stopAdvertising unregister =>
          simp [Publish, undergo, stopAdvertising, advertises.mem_published_stopAdvertising, Advertised.Registers,
            Advertised.Withdraws]
      | shutdown unregister daemon =>
          cases daemon <;> simp [Publish, undergo, shutdown, MdnsDiscovery.shutdown,
            advertises.mem_published_stopAdvertising, Advertised.Registers, Advertised.Withdraws]
      | mdnsRound | udpRound => simp [Publish, undergo, Advertised.Registers, Advertised.Withdraws]

variable (mode serviceType ttl config) in
theorem publish_undergoAll (occurrences : List Occurrence) (fullname : String) :
    (undergoAll serviceType ttl config (new mode) occurrences).Publish fullname ↔
      Past.Since
        (fun before => Advertised.Registers mode serviceType fullname (before.foldl (Advertised.after mode) none))
        (fun before occurrence => ¬ Advertised.Withdraws serviceType fullname
          (before.foldl (Advertised.after mode) none) occurrence) occurrences := by
  refine Past.iff_since
    (fun occurrences => (undergoAll serviceType ttl config (new mode) occurrences).Publish fullname) ?_ ?_ _
  · rintro ⟨mdns, found, published⟩
    cases mode with
    | both | mdnsOnly =>
        cases found
        simp [MdnsDiscovery.new] at published
    | udpOnly => cases found
  · intro occurrences occurrence
    rw [undergoAll_snoc]
    exact publish_undergo (advertise_undergoAll mode serviceType ttl config occurrences) occurrence fullname

/-- Whatever is called and whatever the daemon answers, all channels take one profile or none to be
    advertised, and which call succeeds depends on that profile alone. mDNS publishes a service exactly
    since it was registered, if it has not been withdrawn and the daemon has not been shut down; so one
    whose withdrawal was refused is published on, while UDP tells nothing or another profile. -/
theorem channels_advertise_alike (mode : UnifiedDiscoveryMode) (serviceType : String) (ttl : Nat)
    (config : UdpConfig) (occurrences : List Occurrence) :
    let channels := undergoAll serviceType ttl config (new mode) occurrences
    let current := fun occurrences => occurrences.foldl (Advertised.after mode) none
    channels.Advertise mode serviceType (current occurrences) ∧
      (∀ profile ips answers, (channels.advertise serviceType profile ips answers).1 =
        (Advertised.advertise mode profile answers (current occurrences)).1) ∧
      ∀ fullname, channels.Publish fullname ↔
        Past.Since (fun before => Advertised.Registers mode serviceType fullname (current before))
          (fun before occurrence => ¬ Advertised.Withdraws serviceType fullname (current before) occurrence)
          occurrences := by
  intro channels current
  have advertise := advertise_undergoAll mode serviceType ttl config occurrences
  exact ⟨advertise, fun profile ips answers => (advertise.advertise profile ips answers).1,
    publish_undergoAll mode serviceType ttl config occurrences⟩

end Channels

end BridgeOS.Discovery
