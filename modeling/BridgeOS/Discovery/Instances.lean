import BridgeOS.Discovery.Mdns
import Mathlib.Logic.Function.Basic

/-! # Service instances and nodes

A node may be resolved under several service names, and a name may come to stand
for another node. The worker takes a node out of the directory with any one of
its names, and forgets the node that a name stood for before.
-/

namespace BridgeOS.Discovery

open PeerDirectory

/-- Which node each service name stands for. -/
abbrev Naming := String → Option NodeId

namespace Naming

variable {naming : Naming} {fullname : String} {n k : NodeId}

def Names (naming : Naming) (n : NodeId) : Prop := ∃ fullname, naming fullname = some n

theorem names_update_some : Names (Function.update naming fullname (some k)) n ↔
    n = k ∨ ∃ other, other ≠ fullname ∧ naming other = some n := by
  rw [Names, Function.exists_update_iff naming fun _ name => name = some n, Option.some_inj, eq_comm]

theorem names_update_none : Names (Function.update naming fullname none) n ↔
    ∃ other, other ≠ fullname ∧ naming other = some n := by
  rw [Names, Function.exists_update_iff naming fun _ name => name = some n]
  exact or_iff_right nofun

/-- The services that are resolved and not removed since. -/
def after (naming : Naming) : MdnsInput → Naming
  | .serviceResolved info now =>
      match parseResolvedService now info with
      | .ok peer => Function.update naming info.fullname (some peer.nodeId)
      | .error _ => naming
  | .serviceRemoved fullname => Function.update naming fullname none
  | _ => naming

def afterAll (inputs : List MdnsInput) : Naming := inputs.foldl after fun _ => none

/-- A name that is removed is the only one of its node; a name that is resolved stands for
    no other node, unless that has another name too. -/
def Safe (naming : Naming) : MdnsInput → Prop
  | .serviceResolved info now =>
      ∀ peer, parseResolvedService now info = .ok peer →
        ∀ former, naming info.fullname = some former → former ≠ peer.nodeId →
          ∃ other, other ≠ info.fullname ∧ naming other = some former
  | .serviceRemoved fullname =>
      ∀ n, naming fullname = some n → ∀ other, naming other = some n → other = fullname
  | _ => True

end Naming

/-- The nodes in the directory are those with a name. -/
def Exact (directory : PeerDirectory) (naming : Naming) : Prop := ∀ n, n ∈ directory ↔ naming.Names n

/-- An event about a service, and not about the node's own. -/
structure Foreign (receiver : Option NodeId) (input : MdnsInput) : Prop where
  noPrune : ∀ now, input ≠ .prune now
  noSelf : ∀ info now peer, input = .serviceResolved info now → parseResolvedService now info = .ok peer →
    receiver ≠ some peer.nodeId

theorem foreign_serviceRemoved (receiver : Option NodeId) (fullname : String) :
    Foreign receiver (.serviceRemoved fullname) where
  noPrune _ same := by cases same
  noSelf _ _ _ same := by cases same

section Round

variable {ttl : Nat} {worker : MdnsWorker} {directory : PeerDirectory} {naming : Naming} {input : MdnsInput}

/-- What is handled of the events: a service that can be read is resolved, a service is
    removed, and the rest changes nothing. -/
theorem step_cases (ttl : Nat) (naming : Naming) (foreign : Foreign worker.localNodeId input) :
    (∃ info now peer, input = .serviceResolved info now ∧ parseResolvedService now info = .ok peer ∧
        worker.step ttl input =
          ({ worker with fullnameToNode := worker.fullnameToNode.insert info.fullname peer.nodeId },
            some (.insert now peer)) ∧
        naming.after input = Function.update naming info.fullname (some peer.nodeId)) ∨
      (∃ fullname, input = .serviceRemoved fullname) ∨
      worker.step ttl input = (worker, none) ∧ naming.after input = naming ∧ naming.Safe input := by
  cases input with
  | prune now => exact absurd rfl (foreign.noPrune now)
  | serviceResolved info now =>
      cases parsed : parseResolvedService now info with
      | error e =>
          refine .inr (.inr ⟨?_, ?_, ?_⟩)
          · rw [MdnsWorker.step, parsed]
          · rw [Naming.after, parsed]
          · intro peer readable
            rw [parsed] at readable
            cases readable
      | ok peer =>
          have other := foreign.noSelf info now peer rfl parsed
          refine .inl ⟨info, now, peer, rfl, parsed, ?_, ?_⟩
          · rw [MdnsWorker.step, parsed]
            exact if_neg other
          · rw [Naming.after, parsed]
  | serviceRemoved fullname => exact .inr (.inl ⟨fullname, rfl⟩)
  | otherEvent => exact .inr (.inr ⟨rfl, rfl, trivial⟩)

theorem naming_step (foreign : Foreign worker.localNodeId input)
    (same : ∀ fullname, worker.fullnameToNode.lookup fullname = naming fullname) (fullname : String) :
    (worker.step ttl input).1.fullnameToNode.lookup fullname = naming.after input fullname := by
  rcases step_cases ttl naming foreign with
    ⟨info, now, peer, -, -, stepped, named⟩ | ⟨gone, rfl⟩ | ⟨stepped, named, -⟩
  · rw [stepped, named]
    by_cases here : fullname = info.fullname
    · rw [here, Function.update_self]
      exact AList.lookup_insert _
    · rw [Function.update_of_ne here, ← same]
      exact AList.lookup_insert_ne here
  · rw [Naming.after]
    by_cases here : fullname = gone
    · rw [here, Function.update_self]
      exact AList.lookup_erase _ _
    · rw [Function.update_of_ne here, ← same]
      exact AList.lookup_erase_ne here
  · rw [stepped, named]
    exact same fullname

theorem localNodeId_step (foreign : Foreign worker.localNodeId input) :
    (worker.step ttl input).1.localNodeId = worker.localNodeId := by
  rcases step_cases ttl (fun _ => none) foreign with ⟨_, _, _, -, -, stepped, -⟩ | ⟨_, rfl⟩ | ⟨stepped, -, -⟩
  · rw [stepped]
  · rfl
  · rw [stepped]

variable (ttl) in
/-- If the directory is right before an event, it is right after it exactly if the event
    is safe. -/
theorem exact_round_iff (foreign : Foreign worker.localNodeId input)
    (same : ∀ fullname, worker.fullnameToNode.lookup fullname = naming fullname)
    (before : Exact directory naming) :
    Exact (MdnsWorker.round ttl (worker, directory) input).1.2 (naming.after input) ↔ naming.Safe input := by
  rcases step_cases ttl naming foreign with
    ⟨info, now, peer, rfl, parsed, stepped, named⟩ | ⟨gone, rfl⟩ | ⟨stepped, named, safe⟩
  · rw [MdnsWorker.round, stepped, named]
    constructor
    · intro exactly other readable former stood apart
      rw [parsed] at readable
      cases readable
      have kept := (exactly former).mp (mem_perform_insert.mpr
        (.inr ((before former).mpr ⟨info.fullname, stood⟩)))
      exact (Naming.names_update_some.mp kept).resolve_left apart
    · intro safe n
      refine mem_perform_insert.trans (Iff.trans ?_ Naming.names_update_some.symm)
      rw [before]
      constructor
      · rintro (new | ⟨fullname, stood⟩)
        · exact .inl new
        · by_cases here : fullname = info.fullname
          · by_cases new : n = peer.nodeId
            · exact .inl new
            · rw [here] at stood
              exact .inr (safe peer parsed n stood new)
          · exact .inr ⟨fullname, here, stood⟩
      · rintro (new | ⟨fullname, -, stood⟩)
        · exact .inl new
        · exact .inr ⟨fullname, stood⟩
  · rw [MdnsWorker.round, MdnsWorker.step, same, Naming.after]
    cases stood : naming gone with
    | none =>
        have unchanged : Function.update naming gone none = naming := by
          rw [← stood]
          exact Function.update_eq_self ..
        rw [unchanged]
        refine iff_of_true before fun n named => ?_
        rw [stood] at named
        cases named
    | some k =>
        constructor
        · intro exactly n named other stands
          rw [stood] at named
          cases named
          by_contra apart
          have kept := (exactly k).mpr (Naming.names_update_none.mpr ⟨other, apart, stands⟩)
          exact (mem_perform_dismiss.mp kept).1 rfl
        · intro safe n
          refine mem_perform_dismiss.trans (Iff.trans ?_ Naming.names_update_none.symm)
          rw [before]
          constructor
          · rintro ⟨apart, fullname, stands⟩
            refine ⟨fullname, ?_, stands⟩
            rintro rfl
            rw [stood] at stands
            exact apart (Option.some.inj stands).symm
          · rintro ⟨fullname, apart, stands⟩
            refine ⟨?_, fullname, stands⟩
            rintro rfl
            exact apart (safe n stood fullname stands)
  · rw [MdnsWorker.round, stepped, named]
    exact iff_of_true before safe

/-- Each event of a run is safe when its turn comes. -/
def Naming.AllSafe : Naming → List MdnsInput → Prop
  | _, [] => True
  | naming, input :: rest => naming.Safe input ∧ AllSafe (naming.after input) rest

variable (worker) in
/-- The run lemma: the directory is right all along exactly if each event is safe. -/
theorem exact_rounds_iff {inputs : List MdnsInput}
    (foreign : ∀ input ∈ inputs, Foreign worker.localNodeId input)
    (same : ∀ fullname, worker.fullnameToNode.lookup fullname = naming fullname)
    (before : Exact directory naming) :
    (∀ handled, handled <+: inputs →
      Exact (MdnsWorker.rounds ttl (worker, directory) handled).2 (handled.foldl Naming.after naming)) ↔
      naming.AllSafe inputs := by
  induction inputs generalizing worker directory naming with
  | nil =>
      refine iff_of_true (fun handled initial => ?_) trivial
      rw [List.prefix_nil.mp initial]
      exact before
  | cons input inputs ih =>
      have first := foreign input List.mem_cons_self
      have rest : ∀ later ∈ inputs, Foreign (worker.step ttl input).1.localNodeId later := by
        intro later member
        rw [localNodeId_step first]
        exact foreign later (List.mem_cons_of_mem _ member)
      have round_iff := exact_round_iff ttl first same before
      constructor
      · intro right
        have once := right [input] (List.prefix_append [input] inputs)
        refine ⟨round_iff.mp once, (ih _ rest (naming_step first same) once).mp fun handled initial => ?_⟩
        exact right (input :: handled) (List.prefix_cons_inj input |>.mpr initial)
      · rintro ⟨safe, later⟩ handled initial
        rcases List.prefix_cons_iff.mp initial with rfl | ⟨tail, rfl, within⟩
        · exact before
        · exact (ih _ rest (naming_step first same) (round_iff.mpr safe)).mpr later tail within

end Round

/-- For every sequence of service events of other nodes, from a new worker on. -/
theorem departures_tracked_iff (ttl : Nat) (receiver : Option NodeId) (inputs : List MdnsInput)
    (foreign : ∀ input ∈ inputs, Foreign receiver input) :
    (∀ handled, handled <+: inputs →
      Exact (MdnsWorker.rounds ttl (⟨receiver, ∅⟩, .empty) handled).2 (Naming.afterAll handled)) ↔
      Naming.AllSafe (fun _ => none) inputs := by
  refine exact_rounds_iff ⟨receiver, ∅⟩ foreign (fun _ => rfl) fun n => ?_
  refine iff_of_false not_mem_empty ?_
  rintro ⟨fullname, named⟩
  cases named

section Example

def exampleNode (n : UInt8) : NodeId := ⟨.fill 32 n⟩

/-- A node that is resolved under a name. -/
def exampleService (fullname : String) (n : UInt8) : MdnsInput :=
  .serviceResolved ⟨fullname, 8443, [], some (exampleNode n).toHex, none, none, none⟩ 0

def examplePeer (fullname : String) (n : UInt8) : DiscoveredPeer :=
  .new 0 (exampleNode n) fullname .unknown [] ⟨0⟩

theorem exampleService_parsed (fullname : String) (n : UInt8) :
    parseResolvedService 0 ⟨fullname, 8443, [], some (exampleNode n).toHex, none, none, none⟩ =
      .ok (examplePeer fullname n) := by
  rw [parseResolvedService, parseDiscoveredPeer, NodeId.fromHex_toHex]
  rfl

theorem exampleService_foreign (fullname : String) (n : UInt8) :
    Foreign none (exampleService fullname n) where
  noPrune now same := by
    rw [exampleService] at same
    cases same
  noSelf _ _ _ _ _ same := by cases same

theorem exampleService_round (fullname : String) (n : UInt8) (names : AList fun _ : String => NodeId)
    (directory : PeerDirectory) :
    (MdnsWorker.round 0 (⟨none, names⟩, directory) (exampleService fullname n)).1 =
      (⟨none, names.insert fullname (exampleNode n)⟩,
        (directory.perform (.insert 0 (examplePeer fullname n))).1) := by
  rw [MdnsWorker.round, exampleService, MdnsWorker.step, exampleService_parsed]
  rfl

theorem exampleService_after (fullname : String) (n : UInt8) (naming : Naming) :
    naming.after (exampleService fullname n) = Function.update naming fullname (some (exampleNode n)) := by
  rw [exampleService, Naming.after, exampleService_parsed]
  rfl

/-- A node comes and goes under one name. -/
theorem single_name_tracked :
    Exact (MdnsWorker.rounds 0 (⟨none, ∅⟩, .empty) [exampleService "a" 1]).2
        (Naming.afterAll [exampleService "a" 1]) ∧
      Exact (MdnsWorker.rounds 0 (⟨none, ∅⟩, .empty) [exampleService "a" 1, .serviceRemoved "a"]).2
        (Naming.afterAll [exampleService "a" 1, .serviceRemoved "a"]) := by
  have tracked := (departures_tracked_iff 0 none [exampleService "a" 1, .serviceRemoved "a"] ?_).mpr
    ⟨?_, ?_, trivial⟩
  · exact ⟨tracked _ ⟨[_], rfl⟩, tracked _ ⟨[], rfl⟩⟩
  · intro input member
    rcases List.mem_pair.mp member with rfl | rfl
    · exact exampleService_foreign "a" 1
    · exact foreign_serviceRemoved none "a"
  · intro peer _ former stood
    cases stood
  · intro n stood other named
    rw [exampleService_after] at named
    by_contra apart
    rw [Function.update_of_ne apart] at named
    cases named

def renamed : List MdnsInput := [exampleService "old" 1, exampleService "new" 1, .serviceRemoved "old"]

def reused : List MdnsInput := [exampleService "a" 1, exampleService "a" 2]

/-- A node is resolved under a new name and its old name is removed: it is gone, though it
    still has a name. A name comes to stand for another node: the former node stays. -/
theorem names_mistaken_for_nodes :
    (Naming.Names (Naming.afterAll renamed) (exampleNode 1) ∧
        exampleNode 1 ∉ (MdnsWorker.rounds 0 (⟨none, ∅⟩, .empty) renamed).2) ∧
      ¬ Naming.Names (Naming.afterAll reused) (exampleNode 1) ∧
        exampleNode 1 ∈ (MdnsWorker.rounds 0 (⟨none, ∅⟩, .empty) reused).2 := by
  refine ⟨⟨⟨"new", ?_⟩, ?_⟩, ?_, ?_⟩
  · rw [Naming.afterAll, renamed, List.foldl_cons, List.foldl_cons, List.foldl_cons, List.foldl_nil,
      exampleService_after, exampleService_after, Naming.after, Function.update_of_ne (by decide),
      Function.update_self]
  · rw [MdnsWorker.rounds, renamed, List.foldl_cons, List.foldl_cons, List.foldl_cons, List.foldl_nil,
      exampleService_round, exampleService_round, MdnsWorker.round, MdnsWorker.step]
    have named : (((∅ : AList fun _ : String => NodeId).insert "old" (exampleNode 1)).insert "new"
        (exampleNode 1)).lookup "old" = some (exampleNode 1) := by
      rw [AList.lookup_insert_ne (by decide), AList.lookup_insert]
    simp only [named, Option.map_some, carryOut]
    intro kept
    exact (mem_perform_dismiss.mp kept).1 rfl
  · rw [Naming.afterAll, reused, List.foldl_cons, List.foldl_cons, List.foldl_nil, exampleService_after,
      exampleService_after, Naming.names_update_some]
    rintro (same | ⟨other, apart, stands⟩)
    · revert same
      decide
    · rw [Function.update_of_ne apart] at stands
      cases stands
  · rw [MdnsWorker.rounds, reused, List.foldl_cons, List.foldl_cons, List.foldl_nil, exampleService_round,
      exampleService_round]
    have there : exampleNode 1 ∈ (PeerDirectory.empty.perform (.insert 0 (examplePeer "a" 1))).1 :=
      mem_perform_insert.mpr (.inl rfl)
    dsimp only
    exact mem_perform_insert.mpr (.inr there)

end Example

end BridgeOS.Discovery
