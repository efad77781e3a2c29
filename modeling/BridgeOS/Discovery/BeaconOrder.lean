import BridgeOS.Discovery.Udp

/-! # Beacons in any order

A worker does not read the sequence numbers, so of a node's beacons the one that
arrives last decides whether the node is in the directory.
-/

namespace BridgeOS.Discovery

namespace BeaconMessage

def isAnnouncement : BeaconMessage → Bool
  | .announcement .. => true
  | _ => false

def isQuery : BeaconMessage → Bool
  | .query .. => true
  | _ => false

/-- An announcement that the receiver does not discard. -/
def isAudible : BeaconMessage → Bool
  | .announcement _ _ _ _ port _ _ => port ≠ 0
  | _ => false

end BeaconMessage

/-- The announcements and goodbyes of a node, as it sends them. -/
structure Emitted (n : NodeId) (beacons : List BeaconMessage) : Prop where
  own : ∀ beacon ∈ beacons, beacon.nodeId = n
  kinds : ∀ beacon ∈ beacons, beacon.isQuery = false
  sent : ∀ beacon ∈ beacons, ∃ bytes, encodeBeacon beacon = .ok bytes
  increasing : beacons.Pairwise fun a b => a.seq < b.seq

/-- The beacon with the greatest sequence number is an announcement. -/
def AnnouncedLast (beacons : List BeaconMessage) : Prop :=
  ∃ beacon ∈ beacons, beacon.isAnnouncement = true ∧ ∀ other ∈ beacons, other.seq ≤ beacon.seq

/-- A worker receives each of a node's beacons, in any order and any number of times. What
    else it wakes up for is anything but another announcement or goodbye of that node. -/
structure Reception (n : NodeId) (beacons : List BeaconMessage) (inputs : List UdpInput) : Prop where
  genuine : ∀ bytes src now, .datagram bytes src now ∈ inputs →
    ∀ heard, UdpWorker.hear bytes = .ok heard → heard.nodeId = n → heard.isQuery = false →
      ∃ beacon ∈ beacons, encodeBeacon beacon = .ok bytes
  complete : ∀ beacon ∈ beacons, ∃ bytes src now,
    encodeBeacon beacon = .ok bytes ∧ .datagram bytes src now ∈ inputs

/-- All of it happens within the time after which a peer expires. -/
def Timely (ttl : Nat) (inputs : List UdpInput) : Prop :=
  ∀ a ∈ inputs.filterMap UdpInput.time?, ∀ b ∈ inputs.filterMap UdpInput.time?, a ≤ b + ttl

variable {beacon : BeaconMessage}

section Effect

variable {config : UdpConfig} {worker : UdpWorker} {directory : PeerDirectory} {n : NodeId}
  {receiver : Option NodeId} {inputs : List UdpInput} {beacons : List BeaconMessage}

/-- Whether an input has the node put into the directory or taken out of it. -/
def verdict (receiver : Option NodeId) (n : NodeId) : UdpInput → Option Bool
  | .datagram bytes _ _ =>
      match UdpWorker.hear bytes with
      | .ok (.announcement _ nodeId _ _ _ _ _) => if nodeId = n ∧ receiver ≠ some n then some true else none
      | .ok (.goodbye nodeId _) => if nodeId = n ∧ receiver ≠ some n then some false else none
      | _ => none
  | _ => none

/-- The node was last seen at a time from which none of these is too far. -/
def Fresh (ttl : Nat) (times : List Nat) (n : NodeId) (directory : PeerDirectory) : Prop :=
  ∀ peer, directory.get n = some peer → ∀ t ∈ times, t ≤ peer.lastSeen + ttl

variable {times : List Nat}

theorem fresh_perform {operation : Operation} (fresh : Fresh config.ttl times n directory)
    (timely : ∀ now peer, operation = .insert now peer → ∀ t ∈ times, t ≤ now + config.ttl) :
    Fresh config.ttl times n (directory.perform operation).1 := by
  intro peer found t member
  rcases PeerDirectory.get_of_get_perform found with before | ⟨now, announced, admitted, -, seen⟩
  · exact fresh peer before t member
  · rw [seen]
    exact timely now announced admitted t member

variable (worker) in
theorem fresh_round {input : UdpInput} (fresh : Fresh config.ttl times n directory)
    (timely : ∀ a ∈ input.time?, ∀ t ∈ times, t ≤ a + config.ttl) :
    Fresh config.ttl times n (UdpWorker.round config (worker, directory) input).1.2 := by
  rw [UdpWorker.round]
  cases carried : (worker.step config input).2.1 with
  | none => exact fresh
  | some operation =>
      refine fresh_perform fresh fun now peer admits => timely now ?_
      rw [admits] at carried
      exact UdpWorker.time_of_insert carried

theorem mem_round {input : UdpInput} (fresh : Fresh config.ttl times n directory)
    (inside : ∀ t ∈ input.time?, t ∈ times) :
    n ∈ (UdpWorker.round config (worker, directory) input).1.2 ↔
      (verdict worker.localNodeId n input).getD (decide (n ∈ directory)) = true := by
  cases input with
  | prune now =>
      have kept : n ∈ (directory.perform (.prune now config.ttl)).1 ↔ n ∈ directory := by
        rw [PeerDirectory.mem_perform_prune, PeerDirectory.mem_iff]
        refine exists_congr fun peer => and_iff_left_of_imp fun found => ?_
        exact DiscoveredPeer.isExpired_of_le (fresh peer found now (inside now rfl))
      exact kept.trans decide_eq_true_iff.symm
  | beaconTick =>
      rw [UdpWorker.round, UdpWorker.step]
      cases worker.advertising with
      | none => exact decide_eq_true_iff.symm
      | some adv => exact decide_eq_true_iff.symm
  | datagram bytes src now =>
      rw [UdpWorker.round, UdpWorker.step, verdict]
      cases UdpWorker.hear bytes with
      | error => exact decide_eq_true_iff.symm
      | ok beacon =>
          unfold UdpWorker.handleBeacon
          dsimp only
          by_cases itself : worker.localNodeId = some beacon.nodeId
          · -- the worker's own beacon says nothing to it
            rw [if_pos itself]
            have silent : ∀ nodeId, beacon.nodeId = nodeId → ¬ (nodeId = n ∧ worker.localNodeId ≠ some n) := by
              rintro nodeId rfl ⟨rfl, other⟩
              exact other itself
            cases beacon with
            | announcement version nodeId deviceName deviceType port capabilities seq =>
                dsimp only
                rw [if_neg (silent nodeId rfl)]
                exact decide_eq_true_iff.symm
            | goodbye nodeId seq =>
                dsimp only
                rw [if_neg (silent nodeId rfl)]
                exact decide_eq_true_iff.symm
            | query => exact decide_eq_true_iff.symm
          · rw [if_neg itself]
            cases beacon with
            | announcement version nodeId deviceName deviceType port capabilities seq =>
                refine PeerDirectory.mem_perform_insert.trans ?_
                by_cases same : nodeId = n
                · subst same
                  simp [DiscoveredPeer.new, show worker.localNodeId ≠ some nodeId from itself]
                · simp [DiscoveredPeer.new, same, Ne.symm same]
            | goodbye nodeId seq =>
                refine PeerDirectory.mem_perform_dismiss.trans ?_
                by_cases same : nodeId = n
                · subst same
                  simp [show worker.localNodeId ≠ some nodeId from itself]
                · simp [same, Ne.symm same]
            | query senderId seq =>
                cases worker.advertising with
                | none => exact decide_eq_true_iff.symm
                | some adv => exact decide_eq_true_iff.symm

/-- The last beacon that says something about the node decides. -/
theorem mem_rounds (timely : ∀ a ∈ times, ∀ b ∈ times, a ≤ b + config.ttl)
    (fresh : Fresh config.ttl times n directory) (inside : ∀ t ∈ inputs.filterMap UdpInput.time?, t ∈ times) :
    n ∈ (UdpWorker.rounds config (worker, directory) inputs).2 ↔
      (inputs.filterMap (verdict worker.localNodeId n)).getLast?.getD (decide (n ∈ directory)) = true := by
  induction inputs generalizing worker directory with
  | nil => exact decide_eq_true_iff.symm
  | cons input inputs ih =>
      have first : ∀ t ∈ input.time?, t ∈ times := fun t here =>
        inside t (List.mem_filterMap.mpr ⟨input, List.mem_cons_self, here⟩)
      have rest : ∀ t ∈ inputs.filterMap UdpInput.time?, t ∈ times := by
        intro t member
        obtain ⟨later, found, here⟩ := List.mem_filterMap.mp member
        exact inside t (List.mem_filterMap.mpr ⟨later, List.mem_cons_of_mem _ found, here⟩)
      have next := fresh_round worker fresh fun a here t member =>
        timely t member a (first a here)
      have same : (UdpWorker.round config (worker, directory) input).1.1.localNodeId = worker.localNodeId :=
        UdpWorker.localNodeId_step input
      have effect : decide (n ∈ (UdpWorker.round config (worker, directory) input).1.2) =
          (verdict worker.localNodeId n input).getD (decide (n ∈ directory)) := by
        rw [Bool.eq_iff_iff, decide_eq_true_iff]
        exact mem_round fresh first
      refine (@ih (UdpWorker.round config (worker, directory) input).1.1 _ next rest).trans ?_
      rw [same, effect]
      cases verdict : verdict worker.localNodeId n input with
      | none => rw [List.filterMap_cons_none verdict, Option.getD_none]
      | some taken => rw [List.filterMap_cons_some verdict, List.getLast?_cons, Option.getD_some, Option.getD_some]

theorem mem_rounds_of_timely (timely : Timely config.ttl inputs) (absent : n ∉ directory) :
    n ∈ (UdpWorker.rounds config (worker, directory) inputs).2 ↔
      (inputs.filterMap (verdict worker.localNodeId n)).getLast? = some true := by
  have fresh : Fresh config.ttl (inputs.filterMap UdpInput.time?) n directory := fun peer found =>
    absurd (PeerDirectory.mem_iff.mpr ⟨peer, found⟩) absent
  rw [mem_rounds timely fresh fun _ => id, decide_eq_false absent]
  cases (inputs.filterMap (verdict worker.localNodeId n)).getLast? with
  | none => simp
  | some taken => simp

theorem heard_of_verdict {input : UdpInput} {taken : Bool} (told : verdict receiver n input = some taken) :
    ∃ bytes src now, input = .datagram bytes src now ∧
      ∃ heard, UdpWorker.hear bytes = .ok heard ∧ heard.nodeId = n ∧ heard.isQuery = false := by
  cases input with
  | prune => cases told
  | beaconTick => cases told
  | datagram bytes src now =>
      refine ⟨bytes, src, now, rfl, ?_⟩
      rw [verdict] at told
      split at told
      · rename_i understood
        split at told
        · rename_i about
          exact ⟨_, understood, about.1, rfl⟩
        · cases told
      · rename_i understood
        split at told
        · rename_i about
          exact ⟨_, understood, about.1, rfl⟩
        · cases told
      · cases told

/-- What a receiver makes of one of the node's beacons. -/
def tells (receiver : Option NodeId) (n : NodeId) (beacon : BeaconMessage) : Option Bool :=
  if receiver = some n then none
  else if beacon.isAudible then some true
  else if beacon.isAnnouncement then none
  else some false

theorem hear_encodeBeacon {bytes : Bytes} (sent : encodeBeacon beacon = .ok bytes) :
    UdpWorker.hear bytes = sanitize beacon := by
  have short : bytes.length ≤ 2048 := Nat.le_trans (length_encodeBeacon sent) (by decide)
  rw [UdpWorker.hear, List.take_of_length_le short]
  exact decodeBeacon_encodeBeacon sent

theorem verdict_of_sent {bytes : Bytes} (sent : encodeBeacon beacon = .ok bytes) (own : beacon.nodeId = n)
    (kind : beacon.isQuery = false) (src : SocketAddr) (now : Nat) :
    verdict receiver n (.datagram bytes src now) = tells receiver n beacon := by
  rw [verdict, hear_encodeBeacon sent, tells]
  cases beacon with
  | announcement version nodeId deviceName deviceType port capabilities seq =>
      have same : nodeId = n := own
      by_cases silent : port = 0
      · simp [sanitize, silent, BeaconMessage.isAudible, BeaconMessage.isAnnouncement]
      · simp [sanitize, silent, BeaconMessage.isAudible, same]
  | goodbye nodeId seq =>
      have same : nodeId = n := own
      simp [sanitize, BeaconMessage.isAudible, BeaconMessage.isAnnouncement, same]
  | query => cases kind

variable (receiver) in
/-- What the worker is told about the node is what the node's beacons say. -/
theorem mem_verdicts (emitted : Emitted n beacons) (reception : Reception n beacons inputs) (taken : Bool) :
    taken ∈ inputs.filterMap (verdict receiver n) ↔
      ∃ beacon ∈ beacons, tells receiver n beacon = some taken := by
  rw [List.mem_filterMap]
  constructor
  · rintro ⟨input, member, told⟩
    obtain ⟨bytes, src, now, rfl, heard, understood, own, kind⟩ := heard_of_verdict told
    obtain ⟨beacon, found, sent⟩ := reception.genuine bytes src now member heard understood own kind
    refine ⟨beacon, found, ?_⟩
    rw [← verdict_of_sent sent (emitted.own beacon found) (emitted.kinds beacon found) src now]
    exact told
  · rintro ⟨beacon, found, said⟩
    obtain ⟨bytes, src, now, sent, member⟩ := reception.complete beacon found
    refine ⟨_, member, ?_⟩
    rw [verdict_of_sent sent (emitted.own beacon found) (emitted.kinds beacon found) src now]
    exact said

end Effect

section Orders

/-- In every reception within the time to live, by a worker whose directory does not have
    the node yet, the beacon with the greatest sequence number decides. -/
def OrderFree (config : UdpConfig) (receiver : Option NodeId) (n : NodeId) (beacons : List BeaconMessage) :
    Prop :=
  ∀ (worker : UdpWorker) (directory : PeerDirectory) (inputs : List UdpInput),
    worker.localNodeId = receiver → n ∉ directory → Reception n beacons inputs →
    Timely config.ttl inputs →
      (n ∈ (UdpWorker.rounds config (worker, directory) inputs).2 ↔ AnnouncedLast beacons)

/-- The beacons are announcements, one at least that is taken up; or none is taken up and
    the last is not an announcement. -/
def Unanimous (receiver : Option NodeId) (n : NodeId) (beacons : List BeaconMessage) : Prop :=
  (receiver ≠ some n ∧ (∃ beacon ∈ beacons, beacon.isAudible = true) ∧
      ∀ beacon ∈ beacons, beacon.isAnnouncement = true) ∨
    (receiver = some n ∨ ∀ beacon ∈ beacons, beacon.isAudible = false) ∧ ¬ AnnouncedLast beacons

variable {receiver : Option NodeId} {n : NodeId} {beacons : List BeaconMessage}

/-- A beacon as it comes in. -/
def deliver (beacon : BeaconMessage) : UdpInput :=
  .datagram (match encodeBeacon beacon with
    | .ok bytes => bytes
    | .error _ => []) ⟨.v4 (.fill 4 0), 0⟩ 0

theorem deliver_eq {bytes : Bytes} (sent : encodeBeacon beacon = .ok bytes) :
    deliver beacon = .datagram bytes ⟨.v4 (.fill 4 0), 0⟩ 0 := by
  rw [deliver, sent]

theorem timely_deliver (ttl : Nat) (arranged : List BeaconMessage) : Timely ttl (arranged.map deliver) := by
  intro a first b second
  obtain ⟨input, delivered, time⟩ := List.mem_filterMap.mp first
  obtain ⟨beacon, -, rfl⟩ := List.mem_map.mp delivered
  rw [← Option.some.inj time]
  exact Nat.zero_le _

/-- Any arrangement of the beacons in which each occurs. -/
theorem reception_deliver (emitted : Emitted n beacons) {arranged : List BeaconMessage}
    (same : ∀ beacon, beacon ∈ arranged ↔ beacon ∈ beacons) :
    Reception n beacons (arranged.map deliver) where
  genuine bytes src now member heard _ _ _ := by
    obtain ⟨beacon, inside, delivered⟩ := List.mem_map.mp member
    obtain ⟨sentBytes, sent⟩ := emitted.sent beacon ((same beacon).mp inside)
    rw [deliver_eq sent] at delivered
    cases delivered
    exact ⟨beacon, (same beacon).mp inside, sent⟩
  complete beacon inside := by
    obtain ⟨bytes, sent⟩ := emitted.sent beacon inside
    refine ⟨bytes, ⟨.v4 (.fill 4 0), 0⟩, 0, sent, ?_⟩
    rw [← deliver_eq sent]
    exact List.mem_map_of_mem ((same beacon).mpr inside)

/-- A new worker to which the beacons come in this arrangement. -/
theorem mem_rounds_deliver (config : UdpConfig) (emitted : Emitted n beacons) {arranged : List BeaconMessage}
    (same : ∀ beacon, beacon ∈ arranged ↔ beacon ∈ beacons) :
    n ∈ (UdpWorker.rounds config (⟨receiver, none⟩, .empty) (arranged.map deliver)).2 ↔
      (arranged.filterMap (tells receiver n)).getLast? = some true := by
  have verdicts : (arranged.map deliver).filterMap (verdict receiver n) =
      arranged.filterMap (tells receiver n) := by
    rw [List.filterMap_map]
    apply List.filterMap_congr
    intro beacon inside
    obtain ⟨bytes, sent⟩ := emitted.sent beacon ((same beacon).mp inside)
    rw [Function.comp, deliver_eq sent]
    exact verdict_of_sent sent (emitted.own beacon ((same beacon).mp inside))
      (emitted.kinds beacon ((same beacon).mp inside)) _ _
  rw [mem_rounds_of_timely (timely_deliver _ _) PeerDirectory.not_mem_empty, verdicts]

/-- If the order does not matter, whatever the node's beacons say in any order decides. -/
theorem OrderFree.arranged {config : UdpConfig} (free : OrderFree config receiver n beacons)
    (emitted : Emitted n beacons) {arranged : List BeaconMessage}
    (same : ∀ beacon, beacon ∈ arranged ↔ beacon ∈ beacons) :
    (arranged.filterMap (tells receiver n)).getLast? = some true ↔ AnnouncedLast beacons := by
  have final := free ⟨receiver, none⟩ .empty (arranged.map deliver) rfl PeerDirectory.not_mem_empty
    (reception_deliver emitted same) (timely_deliver _ _)
  exact (mem_rounds_deliver config emitted same).symm.trans final

theorem mem_append_last {last : BeaconMessage} (member : last ∈ beacons) (beacon : BeaconMessage) :
    beacon ∈ beacons ++ [last] ↔ beacon ∈ beacons := by
  rw [List.mem_append, List.mem_singleton]
  refine or_iff_left_of_imp ?_
  rintro rfl
  exact member

theorem OrderFree.last {config : UdpConfig} (free : OrderFree config receiver n beacons)
    (emitted : Emitted n beacons) {last : BeaconMessage} (member : last ∈ beacons) {taken : Bool}
    (told : tells receiver n last = some taken) : taken = true ↔ AnnouncedLast beacons := by
  have decided := free.arranged emitted (mem_append_last member)
  rw [List.filterMap_append, List.filterMap_cons_some told, List.filterMap_nil,
    List.getLast?_append_of_ne_nil _ (List.cons_ne_nil _ _)] at decided
  simpa using decided

theorem tells_eq_true :
    tells receiver n beacon = some true ↔ receiver ≠ some n ∧ beacon.isAudible = true := by
  rw [tells]
  by_cases own : receiver = some n
  · simp [own]
  · cases beacon.isAudible with
    | true => simp [own]
    | false => cases beacon.isAnnouncement <;> simp [own]

theorem goodbye_of_tells (told : tells receiver n beacon = some false) :
    beacon.isAnnouncement = false := by
  rw [tells] at told
  split at told
  · cases told
  · split at told
    · cases told
    · split at told
      · cases told
      · exact Bool.not_eq_true _ ▸ ‹¬ beacon.isAnnouncement = true›

theorem tells_goodbye (other : receiver ≠ some n) (goodbye : beacon.isAnnouncement = false) :
    tells receiver n beacon = some false := by
  have silent : beacon.isAudible = false := by
    cases beacon with
    | announcement => cases goodbye
    | goodbye => rfl
    | query => rfl
  rw [tells, if_neg other, silent, goodbye]
  rfl

theorem exists_greatest (increasing : beacons.Pairwise fun a b => a.seq < b.seq) (some : beacons ≠ []) :
    ∃ greatest ∈ beacons, ∀ other ∈ beacons, other.seq ≤ greatest.seq := by
  rcases List.eq_nil_or_concat beacons with rfl | ⟨before, greatest, rfl⟩
  · exact absurd rfl some
  · rw [List.concat_eq_append] at *
    refine ⟨greatest, List.mem_append_right _ List.mem_cons_self, fun other member => ?_⟩
    rcases List.mem_append.mp member with earlier | same
    · exact UInt64.le_of_lt
        ((List.pairwise_append.mp increasing).2.2 other earlier greatest List.mem_cons_self)
    · rw [List.mem_singleton.mp same]
      exact UInt64.le_refl _

/-- Of any node's beacons, for any receiver. -/
theorem order_free_iff (config : UdpConfig) (receiver : Option NodeId) (n : NodeId)
    (beacons : List BeaconMessage) (emitted : Emitted n beacons) :
    OrderFree config receiver n beacons ↔ Unanimous receiver n beacons := by
  constructor
  · intro free
    by_cases heard : receiver ≠ some n ∧ ∃ beacon ∈ beacons, beacon.isAudible = true
    · obtain ⟨other, first, member, audible⟩ := heard
      refine .inl ⟨other, ⟨first, member, audible⟩, fun beacon inside => ?_⟩
      -- a goodbye that comes last and an announcement that comes last would both be right
      by_contra goodbye
      have announced := (free.last emitted member (tells_eq_true.mpr ⟨other, audible⟩)).mp rfl
      have gone := (free.last emitted inside (tells_goodbye other (Bool.not_eq_true _ ▸ goodbye))).mpr announced
      cases gone
    · refine .inr ⟨?_, fun announced => heard ?_⟩
      · by_contra neither
        push Not at neither
        obtain ⟨other, beacon, member, audible⟩ := neither
        exact heard ⟨other, beacon, member, by simpa using audible⟩
      · have final := (free.arranged emitted fun _ => Iff.rfl).mpr announced
        obtain ⟨beacon, member, told⟩ := List.mem_filterMap.mp (List.mem_of_getLast? final)
        obtain ⟨other, audible⟩ := tells_eq_true.mp told
        exact ⟨other, beacon, member, audible⟩
  · intro unanimous worker directory inputs same absent reception timely
    have verdicts := mem_verdicts receiver emitted reception
    rw [mem_rounds_of_timely timely absent, same]
    rcases unanimous with ⟨other, ⟨first, member, audible⟩, announcements⟩ | ⟨silent, notLast⟩
    · refine iff_of_true ?_ ?_
      · have taken : true ∈ inputs.filterMap (verdict receiver n) :=
          (verdicts true).mpr ⟨first, member, tells_eq_true.mpr ⟨other, audible⟩⟩
        cases final : (inputs.filterMap (verdict receiver n)).getLast? with
        | none =>
            rw [List.getLast?_eq_none_iff] at final
            rw [final] at taken
            cases taken
        | some decided =>
            cases decided with
            | true => rfl
            | false =>
                obtain ⟨beacon, inside, told⟩ := (verdicts false).mp (List.mem_of_getLast? final)
                have goodbye := goodbye_of_tells told
                rw [announcements beacon inside] at goodbye
                cases goodbye
      · obtain ⟨greatest, inside, most⟩ := exists_greatest emitted.increasing (List.ne_nil_of_mem member)
        exact ⟨greatest, inside, announcements greatest inside, most⟩
    · refine iff_of_false (fun final => ?_) notLast
      obtain ⟨beacon, inside, told⟩ := (verdicts true).mp (List.mem_of_getLast? final)
      obtain ⟨other, audible⟩ := tells_eq_true.mp told
      rcases silent with own | none
      · exact other own
      · rw [none beacon inside] at audible
        cases audible

end Orders

section Example

def exampleConfig : UdpConfig := ⟨[], 6000, true⟩

def exampleAdvertisement : LocalAdvertisement :=
  ⟨⟨.fill 32 1⟩, "phone", .android, 8443, ⟨0⟩, 2⟩

theorem exampleAdvertisement_emitted : Emitted exampleAdvertisement.nodeId
    [exampleAdvertisement.announcement, exampleAdvertisement.goodbye] where
  own beacon member := by
    rcases List.mem_pair.mp member with rfl | rfl
    · rfl
    · rfl
  kinds beacon member := by
    rcases List.mem_pair.mp member with rfl | rfl
    · rfl
    · rfl
  sent beacon member := by
    rcases List.mem_pair.mp member with rfl | rfl
    · exact ⟨_, rfl⟩
    · exact ⟨_, rfl⟩
  increasing := by
    have later : exampleAdvertisement.announcement.seq < exampleAdvertisement.goodbye.seq := by decide
    simpa using later

/-- A node that has only announced itself, more than once. -/
theorem announcements_order_free :
    OrderFree exampleConfig none exampleAdvertisement.nodeId
      ([2, 3, 4].map fun seq => { exampleAdvertisement with seq }.announcement) := by
  refine (order_free_iff exampleConfig none _ _ ⟨?_, ?_, ?_, by decide⟩).mpr
    (.inl ⟨nofun, ⟨_, List.mem_cons_self, rfl⟩, ?_⟩)
  all_goals
    intro beacon member
    obtain ⟨seq, listed, rfl⟩ := List.mem_map.mp member
  · rfl
  · rfl
  · simp only [List.mem_cons, List.not_mem_nil, or_false] at listed
    rcases listed with rfl | rfl | rfl <;> exact ⟨_, rfl⟩
  · rfl

/-- A node announces itself and says goodbye; the two beacons change places on the way,
    and it is in the directory. -/
theorem delayed_announcement_revives :
    let beacons := [exampleAdvertisement.announcement, exampleAdvertisement.goodbye]
    let inputs := [deliver exampleAdvertisement.goodbye, deliver exampleAdvertisement.announcement]
    Emitted exampleAdvertisement.nodeId beacons ∧ ¬ AnnouncedLast beacons ∧
      Reception exampleAdvertisement.nodeId beacons inputs ∧ Timely exampleConfig.ttl inputs ∧
      exampleAdvertisement.nodeId ∈ (UdpWorker.rounds exampleConfig (⟨none, none⟩, .empty) inputs).2 := by
  have emitted := exampleAdvertisement_emitted
  have same : ∀ beacon, beacon ∈ [exampleAdvertisement.goodbye, exampleAdvertisement.announcement] ↔
      beacon ∈ [exampleAdvertisement.announcement, exampleAdvertisement.goodbye] := by
    intro beacon
    rw [List.mem_pair, List.mem_pair, or_comm]
  refine ⟨emitted, ?_, reception_deliver emitted same,
    timely_deliver _ [exampleAdvertisement.goodbye, exampleAdvertisement.announcement], ?_⟩
  · rintro ⟨beacon, member, announced, most⟩
    rcases List.mem_pair.mp member with rfl | rfl
    · have late := most exampleAdvertisement.goodbye (by simp)
      revert late
      decide
    · cases announced
  · exact (mem_rounds_deliver exampleConfig emitted same).mpr rfl

end Example

end BridgeOS.Discovery
