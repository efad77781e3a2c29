import BridgeOS.Node.Hub

/-! # The map of sessions

A task puts its entry into the map when its session has become trusted, and takes out
whatever is there under its peer's id when the peer is gone. Entries are not taken out when
a task fails or a ceremony starts over, and one connection of a peer takes out the entry of
another.
-/

namespace BridgeOS.Node

open BridgeOS.Session hiding recvFrame
open BridgeOS.Transfer Proc

section Tracking

variable [Crypto] {σ : Type}

/-- A trusted session with `n` whose task has not returned. -/
def Member.Serves (n : NodeId) (state : SessionState) : Member → Prop
  | .active .node self p => self.remoteNodeId = n ∧ p ≠ .ok (.inr ()) ∧ state = .trusted
  | _ => False

def Member.Owes : Member → Prop
  | .active .node _ p => Owing p
  | _ => False

namespace Hub

def Serves (h : Hub σ) (i : Nat) (n : NodeId) : Prop := (h.member i).Serves n (h.state i)

/-- It is not still waiting for the lock to put itself into the map. -/
def Enlisted (h : Hub σ) (i : Nat) (n : NodeId) : Prop := h.Serves i n ∧ ¬ (h.member i).Owes

/-- The map has the entries that it should have. -/
structure Tracks (h : Hub σ) : Prop where
  live : ∀ n i, h.registry.lookup n = some i → h.Serves i n
  listed : ∀ n i, h.Enlisted i n → n ∈ h.registry

/-- No session with an entry fails or starts a ceremony, and nobody takes out an entry
    while another session with the peer needs it. -/
def Tended (h : Hub σ) : Move → Prop
  | .event i ⟨.session (.setState state), _⟩ => state ≠ .trusted → ∀ n, h.registry.lookup n ≠ some i
  | .event i ⟨.unregister n, _⟩ => ∀ j, j ≠ i → ¬ h.Enlisted j n
  | .fails i => ∀ n, h.registry.lookup n ≠ some i
  | _ => True

variable {machine : Machine σ} {h h' first : Hub σ} {move : Move} {visits : List (Hub σ × Move)} {i j : Nat}
  {n : NodeId}

theorem Fresh.tracks (fresh : h.Fresh) : h.Tracks where
  live n i found := by
    rw [fresh.registry] at found
    cases found
  listed n i enlisted := by
    have serves := enlisted.1
    rw [Serves, fresh.system.absent] at serves
    exact serves.elim

theorem tended_of_plain {event : NodeEvent} (plain : ∀ state, event.call ≠ .session (.setState state))
    (away : ¬ event.call.OnMap) : h.Tended (.event i event) := by
  obtain ⟨c, answer⟩ := event
  cases c with
  | session c =>
      cases c with
      | setState state => exact absurd rfl (plain state)
      | _ => trivial
  | unregister n => exact absurd trivial away
  | _ => trivial

section One

variable (others : ∀ j, j ≠ i → h'.member j = h.member j ∧ h'.state j = h.state j)
include others

theorem serves_iff (other : j ≠ i) : h'.Serves j n ↔ h.Serves j n := by
  obtain ⟨member, state⟩ := others j other
  rw [Serves, Serves, member, state]

theorem enlisted_iff (other : j ≠ i) : h'.Enlisted j n ↔ h.Enlisted j n := by
  rw [Enlisted, Enlisted, serves_iff others other, (others j other).1]

/-- A session goes on, and owes its entry or has it. -/
theorem Tracks.goes_on (tracks : h.Tracks) (registry : h'.registry = h.registry)
    (serves : ∀ n, h.Serves i n → h'.Serves i n) (enlisted : ∀ n, h'.Enlisted i n → h.Enlisted i n) :
    h'.Tracks where
  live n j found := by
    rw [registry] at found
    have before := tracks.live n j found
    by_cases same : j = i
    · subst same
      exact serves n before
    · exact (serves_iff others same).mpr before
  listed n j listed := by
    rw [registry]
    apply tracks.listed n j
    by_cases same : j = i
    · subst same
      exact enlisted n listed
    · exact (enlisted_iff others same).mp listed

theorem Tracks.same (tracks : h.Tracks) (registry : h'.registry = h.registry)
    (serves : ∀ n, h'.Serves i n ↔ h.Serves i n) (owes : (h'.member i).Owes ↔ (h.member i).Owes) :
    h'.Tracks :=
  tracks.goes_on others registry (fun n => (serves n).mpr) fun n enlisted =>
    ⟨(serves n).mp enlisted.1, fun owing => enlisted.2 (owes.mpr owing)⟩

/-- A session becomes trusted and has yet to put its entry into the map. -/
theorem Tracks.rises (tracks : h.Tracks) (registry : h'.registry = h.registry)
    (serves : ∀ n, h.Serves i n → h'.Serves i n) (owes : (h'.member i).Owes) : h'.Tracks :=
  tracks.goes_on others registry serves fun _ enlisted => absurd owes enlisted.2

/-- A session stops, and the map is left alone. -/
theorem Tracks.stops_iff (tracks : h.Tracks) (registry : h'.registry = h.registry)
    (stops : ∀ n, ¬ h'.Serves i n) : h'.Tracks ↔ ∀ n, h.registry.lookup n ≠ some i := by
  constructor
  · intro tracks' n found
    rw [← registry] at found
    exact stops n (tracks'.live n i found)
  · intro absent
    constructor
    · intro n j found
      rw [registry] at found
      have other : j ≠ i := by
        rintro rfl
        exact absent n found
      exact (serves_iff others other).mpr (tracks.live n j found)
    · intro n j enlisted
      rw [registry]
      have other : j ≠ i := by
        rintro rfl
        exact stops n enlisted.1
      exact tracks.listed n j ((enlisted_iff others other).mp enlisted)

/-- A session that does not serve still does not. -/
theorem Tracks.outside (tracks : h.Tracks) (registry : h'.registry = h.registry)
    (before : ∀ n, ¬ h.Serves i n) (after : ∀ n, ¬ h'.Serves i n) : h'.Tracks :=
  (tracks.stops_iff others registry after).mpr fun n found => before n (tracks.live n i found)

/-- A session puts its entry into the map. -/
theorem Tracks.enters (tracks : h.Tracks) (registry : h'.registry = h.registry.insert n i)
    (own : ∀ n', h.Serves i n' → n' = n) (serves : ∀ n', h'.Serves i n' ↔ n' = n) : h'.Tracks where
  live n' j found := by
    rw [registry] at found
    rcases AList.lookup_insert_eq_some.mp found with ⟨rfl, rfl⟩ | ⟨different, old⟩
    · exact (serves n').mpr rfl
    · have before := tracks.live n' j old
      have other : j ≠ i := by
        rintro rfl
        exact different (own n' before)
      exact (serves_iff others other).mpr before
  listed n' j enlisted := by
    rw [registry, AList.mem_insert]
    by_cases same : j = i
    · subst same
      exact .inl ((serves n').mp enlisted.1)
    · exact .inr (tracks.listed n' j ((enlisted_iff others same).mp enlisted))

/-- A session stops and takes an entry out. -/
theorem Tracks.exits_iff (tracks : h.Tracks) (registry : h'.registry = h.registry.erase n)
    (own : ∀ n', h.Serves i n' → n' = n) (stops : ∀ n', ¬ h'.Serves i n') :
    h'.Tracks ↔ ∀ j, j ≠ i → ¬ h.Enlisted j n := by
  constructor
  · intro tracks' j other enlisted
    have listed := tracks'.listed n j ((enlisted_iff others other).mpr enlisted)
    rw [registry, AList.mem_erase] at listed
    exact listed.1 rfl
  · intro alone
    constructor
    · intro n' j found
      rw [registry] at found
      obtain ⟨different, old⟩ := AList.lookup_erase_eq_some.mp found
      have before := tracks.live n' j old
      have other : j ≠ i := by
        rintro rfl
        exact different (own n' before)
      exact (serves_iff others other).mpr before
    · intro n' j enlisted
      have other : j ≠ i := by
        rintro rfl
        exact stops n' enlisted.1
      have before := (enlisted_iff others other).mp enlisted
      rw [registry, AList.mem_erase]
      refine ⟨?_, tracks.listed n' j before⟩
      rintro rfl
      exact alone j other before

end One

theorem serves_active {self : ActiveSession} {p : Task} (here : h.member i = .active .node self p) :
    h.Serves i n ↔ self.remoteNodeId = n ∧ p ≠ .ok (.inr ()) ∧ h.state i = .trusted := by
  rw [Serves, here]
  rfl

theorem owes_active {self : ActiveSession} {p : Task} (here : h.member i = .active .node self p) :
    (h.member i).Owes ↔ Owing p := by
  rw [here]
  rfl

/-- A task that has nothing to do with the map goes on. -/
theorem Tracks.resumes {self : ActiveSession} {p p' : Task} (tracks : h.Tracks)
    (others : ∀ j, j ≠ i → h'.member j = h.member j ∧ h'.state j = h.state j)
    (here : h.member i = .active .node self p) (there : h'.member i = .active .node self p')
    (state : h'.state i = h.state i) (registry : h'.registry = h.registry) (free : ¬ Owing p)
    (free' : ¬ Owing p') (lives : p ≠ .ok (.inr ())) (lives' : p' ≠ .ok (.inr ())) : h'.Tracks := by
  apply tracks.same others registry
  · intro n
    rw [serves_active here, serves_active there, state]
    exact and_congr_right fun _ => and_congr_left fun _ => iff_of_true lives' lives
  · rw [owes_active here, owes_active there]
    exact iff_of_false free' free

/-- What one answer does to the map. -/
theorem tracks_answered_iff {self : ActiveSession} {event : NodeEvent} {next : event.call.Answer → Task}
    {p : Task} {w : World σ} (sound : h.Sound) (tracks : h.Tracks)
    (here : h.member i = .active .node self (.ask event.call next)) (proceeds : Proceeds self event p)
    (works : Works machine (h.world i) event w)
    (others : ∀ j, j ≠ i → h'.member j = h.member j ∧ h'.state j = h.state j)
    (there : h'.member i = .active .node self p) (state : h'.state i = w.state)
    (registry : h'.registry = recorded i h.registry event) : h'.Tracks ↔ h.Tended (.event i event) := by
  have own : ∀ n, h.Serves i n → n = self.remoteNodeId := by
    intro n serves
    exact ((serves_active here).mp serves).1.symm
  have still : ¬ event.call.OnMap → (∀ s, event.call ≠ .session (.setState s)) → ¬ Owing p →
      p ≠ .ok (.inr ()) → (h'.Tracks ↔ h.Tended (.event i event)) := by
    intro away plain free lives
    rw [recorded_of_not_onMap away] at registry
    have asks : ¬ Owing (.ask event.call next) := fun owing => away owing.locking
    refine iff_of_true ?_ (tended_of_plain plain away)
    exact tracks.resumes others here there (state.trans (works.state plain)) registry asks free nofun lives
  cases proceeds with
  | registered phase =>
      have conducted := sound.conducted i
      rw [here] at conducted
      have trusted : h'.state i = .trusted := by
        rw [state, works.state nofun]
        exact conducted.2 trivial
      refine iff_of_true (tracks.enters others registry own fun n => ?_) trivial
      rw [serves_active there]
      constructor
      · rintro ⟨rfl, -⟩
        rfl
      · rintro rfl
        exact ⟨rfl, nofun, trusted⟩
  | unregistered =>
      apply tracks.exits_iff others registry own
      intro n serves
      exact ((serves_active there).mp serves).2.1 rfl
  | trusts next =>
      have trusted : h'.state i = .trusted := state.trans (congrArg World.state works)
      refine iff_of_true (tracks.rises others registry ?_ ?_) fun untrusted => absurd rfl untrusted
      · intro n serves
        exact (serves_active there).mpr ⟨(own n serves).symm, nofun, trusted⟩
      · exact (owes_active there).mpr trivial
  | leaves goodbye next => exact still goodbye.not_onMap goodbye.not_setState id nofun
  | goes away plain stays free lives =>
      by_cases sets : ∃ s, event.call = .session (.setState s)
      · obtain ⟨c, answer⟩ := event
        obtain ⟨s, rfl⟩ := sets
        have untrusted : s ≠ .trusted := by
          rintro rfl
          exact plain rfl
        have stops : ∀ n, ¬ h'.Serves i n := by
          intro n serves
          have trusted := ((serves_active there).mp serves).2.2
          rw [state] at trusted
          cases works
          exact untrusted trusted
        rw [tracks.stops_iff others registry stops]
        exact ⟨fun absent _ => absent, fun tended => tended untrusted⟩
      · exact still away (fun s same => sets ⟨s, same⟩) (fun owing => free owing.locking) lives

theorem Step.tracks_iff (taken : Step machine h move h') (sound : h.Sound) (tracks : h.Tracks) :
    h'.Tracks ↔ h.Tended move := by
  cases taken with
  | @connect i p free opens =>
      refine iff_of_true (tracks.outside (fun j other => System.assign_others _ other _) rfl ?_ ?_) trivial
      · intro n
        rw [Serves, free]
        exact id
      · intro n
        rw [Serves, System.assign_member]
        exact id
  | @greets i c next answer w here works =>
      refine iff_of_true (tracks.outside (fun j other => System.replace_others _ other _ _) rfl ?_ ?_) trivial
      · intro n
        rw [Serves, here]
        exact id
      · intro n
        rw [Serves, System.replace_member]
        exact id
  | @serve i self here =>
      have conducted := sound.conducted i
      rw [here] at conducted
      refine iff_of_true (tracks.outside (fun j other => System.assign_others _ other _) rfl ?_ ?_) trivial
      · intro n
        rw [Serves, here]
        exact id
      · intro n
        rw [Serves, System.assign_member]
        exact fun serves => conducted.1 serves.2.2
  | @answers i self c next answer w here works permits =>
      exact tracks_answered_iff sound tracks here (sound.answered here works).1 works
        (fun j other => System.replace_others _ other _ _) (System.replace_member ..)
        (System.replace_state ..) rfl
  | @round i self next phase here =>
      cases sound.returns_self here
      obtain ⟨free, lives⟩ := connectionRound_free self phase
      refine iff_of_true (tracks.resumes (fun j other => System.assign_others _ other _) here
        (System.assign_member ..) rfl rfl id (fun owing => free owing.locking) nofun lives) trivial
  | @fails i self e here =>
      refine tracks.stops_iff (fun j other => System.assign_others _ other _) rfl fun n serves => ?_
      rw [Serves, System.assign_member] at serves
      exact serves
  | revoke stored => exact iff_of_true ⟨tracks.live, tracks.listed⟩ trivial
  | offered free clipboard => exact iff_of_true ⟨tracks.live, tracks.listed⟩ trivial
  | locks ready order => exact iff_of_true ⟨tracks.live, tracks.listed⟩ trivial
  | sends next serving room => exact iff_of_true ⟨tracks.live, tracks.listed⟩ trivial
  | skips next closed => exact iff_of_true ⟨tracks.live, tracks.listed⟩ trivial
  | unlocks done => exact iff_of_true ⟨tracks.live, tracks.listed⟩ trivial
  | stops free => exact iff_of_true ⟨tracks.live, tracks.listed⟩ trivial

/-- In every run: the map has an entry for exactly those peers that have a trusted session
    with a live task, and it is the entry of such a session, as long as the map is tended. -/
theorem registry_tracks_iff (fresh : first.Fresh) (run : Run machine first visits h) :
    ((∀ visit ∈ visits, visit.1.Tracks) ∧ h.Tracks) ↔ ∀ visit ∈ visits, visit.1.Tended visit.2 :=
  run.always_iff fresh.sound Step.sound fresh.tracks Step.tracks_iff

end Hub

end Tracking

section Example

attribute [local instance] transparentCrypto

/-- The peer connects, and the map has its entry. -/
theorem connected_peer_listed : ∃ visits h, Hub.Run exampleMachine exampleHub visits h ∧
    h.registry.lookup examplePeer.nodeId = some 0 ∧ h.Serves 0 examplePeer.nodeId := by
  obtain ⟨visits, s, self, run, -, -, -, conduct⟩ := exampleHub_registered
  have listed : (exampleHub.registry.insert examplePeer.nodeId 0).lookup examplePeer.nodeId = some 0 :=
    AList.lookup_insert _
  have tended : ∀ visit ∈ visits, visit.1.Tended visit.2 := by
    rintro ⟨h, move⟩ member
    rcases conduct _ member with silent | ⟨-, trusts | registers⟩
    · cases silent
      trivial
    · cases trusts
      exact fun untrusted => absurd rfl untrusted
    · cases registers
      trivial
  have tracks := (Hub.registry_tracks_iff exampleHub_fresh run).mpr tended
  exact ⟨visits, _, run, listed, tracks.2.live _ _ listed⟩

/-- The stream breaks and the task fails: its entry stays in the map. -/
theorem failed_session_stays_listed : ∃ visits h, Hub.Run exampleMachine exampleHub visits h ∧
    h.registry.lookup examplePeer.nodeId = some 0 ∧ ¬ h.Serves 0 examplePeer.nodeId := by
  obtain ⟨visits, s, self, run, selecting, -, -, -⟩ := exampleHub_registered
  have breaks := Hub.Step.hears exampleMachine (h := { exampleHub with
    toSystem := s
    registry := exampleHub.registry.insert examplePeer.nodeId 0 }) selecting (.error (.framing "reset"))
  have fails := (run.step breaks).step (.fails (System.replace_member ..))
  refine ⟨_, _, fails, AList.lookup_insert _, ?_⟩
  rw [Hub.Serves, System.assign_member]
  exact id

end Example

end BridgeOS.Node
