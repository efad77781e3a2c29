import BridgeOS.Clipboard.Applied
import BridgeOS.Clipboard.Restart
import Mathlib.Data.List.Sort

/-! # Any number of nodes

Stations that send each other what their monitors broadcast, over a network that may
lose, repeat and reorder frames as it likes. A frame is never passed on: what a station
applies was copied by the user of the station that the entry names, and is applied in the order
of the copies and at most once.
-/

namespace BridgeOS.Clipboard

open ClipboardSyncEngine

/-- An entry with this content is not longer than memory. -/
def ClipboardContent.Fits (content : ClipboardContent) : Prop :=
  ∀ metadata, (ClipboardMessage.codec.encode (.sync ⟨metadata, content⟩)).length < 2 ^ 64

/-- The entry that a frame carries. -/
def carried (frame : DataFrame) : Option ClipboardEntry :=
  match ClipboardMessage.fromDataFrame frame with
  | .ok (.sync entry) => some entry
  | _ => none

variable {frame : DataFrame} {entry : ClipboardEntry}

theorem carried_eq_some :
    carried frame = some entry ↔ ClipboardMessage.fromDataFrame frame = .ok (.sync entry) := by
  unfold carried
  cases ClipboardMessage.fromDataFrame frame with
  | error e => simp
  | ok message => cases message <;> simp

theorem carried_toDataFrame (fits : entry.content.Fits) :
    carried (ClipboardMessage.sync entry).toDataFrame = some entry :=
  carried_eq_some.mpr (ClipboardMessage.fromDataFrame_toDataFrame (fits entry.metadata))

/-- Two entries of one sender, the first of which was numbered first. -/
def Before (a b : ClipboardEntry) : Prop := a.metadata.sequence < b.metadata.sequence

instance : Std.Antisymm Before := ⟨fun _ _ ab ba => absurd ba (UInt64.lt_asymm ab)⟩

instance : Std.Irrefl Before := ⟨fun _ => UInt64.lt_irrefl _⟩

namespace Station

variable {blake3 : Bytes → FixedBytes 32} {nodeId : NodeId} {policy : ClipboardPolicy}
  {initial : Option ClipboardContent} {s : Station} {ledger : Ledger}

theorem Run.mem_copies (run : Run blake3 (Station.start nodeId policy initial) s ledger)
    {content : ClipboardContent} (listed : (some (Change.user content), frame) ∈ ledger.broadcasts) :
    content ∈ ledger.copies := by
  refine run.sound.drawn.subset (List.mem_append_left _ ?_)
  exact List.mem_filterMap.mpr ⟨_, listed, rfl⟩

/-- What a round of the monitor leaves as it is, and where its frame comes from. -/
structure TakeSpec (blake3 : Bytes → FixedBytes 32) (timestampMs : UInt64) (s : Station) (sent : Option DataFrame)
    (s' : Station) : Prop where
  policy : s'.policy = s.policy
  content : s'.content = s.content
  sequences : ∀ origin, s'.guard.lastSequence origin = s.guard.lastSequence origin
  pending : ∀ content ∈ s'.pending, content ∈ s.pending
  sent : ∀ frame ∈ sent, ∃ content ∈ s.pending, frame = s.announcement blake3 timestampMs content ∧
    s.policy.validate content false = .ok ()

theorem take_spec {timestampMs : UInt64} {sent : Option DataFrame} {s' : Station}
    (taken : s.take blake3 timestampMs = some (sent, s')) : TakeSpec blake3 timestampMs s sent s' := by
  cases takes_of_take taken with
  | lagged => exact ⟨rfl, rfl, fun _ => rfl, fun _ => id, by simp⟩
  | skipped running queue =>
      exact ⟨rfl, rfl, fun _ => rfl, fun _ waits => queue ▸ List.mem_cons_of_mem _ waits, by simp⟩
  | @sent content rest running queue near allowed unseen =>
      refine ⟨rfl, rfl, fun _ => congrArg _ EchoGuard.pushHash_sequences,
        fun _ waits => queue ▸ List.mem_cons_of_mem _ waits, ?_⟩
      rintro frame ⟨⟩
      exact ⟨content, queue ▸ List.mem_cons_self, rfl, allowed⟩

variable (run : Run blake3 (Station.start nodeId policy initial) s ledger)
  (fits : ∀ content ∈ ledger.copies, content.Fits)

include run fits

/-- What a broadcast frame carries. -/
theorem Run.broadcast_carries {k : Nat} {record : Option Change × DataFrame}
    (found : ledger.broadcasts[k]? = some record) :
    ∃ entry, carried record.2 = some entry ∧ record.1 = some (.user entry.content) ∧
      entry.metadata.origin = nodeId ∧ entry.metadata.sequence = UInt64.ofNat (k + 1) ∧
      entry.metadata.isSensitive = false := by
  obtain ⟨content, timestampMs, rfl⟩ := run.sound.numbered k record found
  have copied : content ∈ ledger.copies := run.mem_copies (List.mem_of_getElem? found)
  exact ⟨_, carried_toDataFrame (fits content copied), rfl, rfl, rfl, rfl⟩

/-- The entries that the station has broadcast. -/
def entries (ledger : Ledger) : List ClipboardEntry :=
  (ledger.broadcasts.map Prod.snd).filterMap carried

theorem Run.map_content_entries : (entries ledger).map ClipboardEntry.content = ledger.sentContents := by
  unfold entries Ledger.sentContents
  rw [List.filterMap_map, List.map_filterMap]
  refine List.filterMap_congr fun record listed => ?_
  obtain ⟨k, found⟩ := List.getElem?_of_mem listed
  obtain ⟨entry, carries, who, -⟩ := run.broadcast_carries fits found
  simp [carries, who, Change.copied?]

theorem Run.entries_pairwise (few : ledger.copies.length < 2 ^ 64) : (entries ledger).Pairwise Before := by
  unfold entries
  rw [List.filterMap_map, List.pairwise_filterMap, List.pairwise_iff_getElem]
  intro k l inside inside' earlier a first b second
  have number : ∀ {k : Nat} {entry : ClipboardEntry} (inside : k < ledger.broadcasts.length),
      carried ledger.broadcasts[k].2 = some entry → entry.metadata.sequence = UInt64.ofNat (k + 1) := by
    intro k entry inside carries
    obtain ⟨found, same, -, -, number, -⟩ := run.broadcast_carries fits (List.getElem?_eq_getElem inside)
    rw [carries] at same
    cases same
    exact number
  have all : ledger.broadcasts.length ≤ ledger.copies.length := by
    rw [← length_sentContents run.sound.users]
    exact ((List.sublist_append_left _ _).trans run.sound.drawn).length_le
  rw [Before, number inside first, number inside' second, UInt64.lt_iff_toNat_lt, UInt64.toNat_ofNat',
    UInt64.toNat_ofNat', Nat.mod_eq_of_lt, Nat.mod_eq_of_lt]
  · omega
  · omega
  · omega

end Station

/-- What has been put on a clipboard, by its user or from a peer. -/
inductive Write where
  | copied (content : ClipboardContent)
  | applied (entry : ClipboardEntry)
  deriving DecidableEq

namespace Write

def content : Write → ClipboardContent
  | .copied content => content
  | .applied entry => entry.content

def copied? : Write → Option ClipboardContent
  | .copied content => some content
  | .applied _ => none

/-- The entry that was applied in the name of this node. -/
def applied? (origin : NodeId) : Write → Option ClipboardEntry
  | .copied _ => none
  | .applied entry => if entry.metadata.origin = origin then some entry else none

theorem mem_applied {writes : List Write} {origin : NodeId} :
    entry ∈ writes.filterMap (applied? origin) ↔ .applied entry ∈ writes ∧ entry.metadata.origin = origin := by
  rw [List.mem_filterMap]
  constructor
  · rintro ⟨write, listed, same⟩
    cases write with
    | copied content => cases same
    | applied other =>
        simp only [applied?, Option.ite_none_right_eq_some, Option.some.injEq] at same
        obtain ⟨named, rfl⟩ := same
        exact ⟨listed, named⟩
  · rintro ⟨listed, named⟩
    exact ⟨_, listed, if_pos named⟩

end Write

/-- The stations, every frame that each of them has broadcast so far, and what has been put on
    their clipboards. -/
structure Mesh (ι : Type) where
  station : ι → Station
  broadcasts : ι → List DataFrame
  writes : ι → List Write

namespace Mesh

variable {ι : Type} [DecidableEq ι] (blake3 : Bytes → FixedBytes 32)

def start (nodeId : ι → NodeId) (policy : ι → ClipboardPolicy) (initial : ι → Option ClipboardContent) : Mesh ι :=
  ⟨fun i => .start (nodeId i) (policy i) (initial i), fun _ => [], fun _ => []⟩

/-- What `handle_incoming_frame` puts on the clipboard. -/
def applies (s : Station) (frame : DataFrame) : List Write :=
  ((s.engine.appliedEntry blake3 MemoryClipboard.backend frame).map Write.applied).toList

inductive Step (m : Mesh ι) : Mesh ι → Prop where
  | copy (i : ι) (content : ClipboardContent) (fits : content.Fits) : Step m { m with
      station := Function.update m.station i ((m.station i).copy content)
      writes := Function.update m.writes i (m.writes i ++ [.copied content]) }
  | take {i : ι} {timestampMs : UInt64} {sent : Option DataFrame} {s : Station}
      (taken : (m.station i).take blake3 timestampMs = some (sent, s)) : Step m { m with
        station := Function.update m.station i s
        broadcasts := Function.update m.broadcasts i (m.broadcasts i ++ sent.toList) }
  -- frames may be late, may arrive again and again, and need not arrive
  | deliver {i j : ι} {frame : DataFrame} (sent : frame ∈ m.broadcasts j) : Step m { m with
      station := Function.update m.station i ((m.station i).receive blake3 frame)
      writes := Function.update m.writes i (m.writes i ++ applies blake3 (m.station i) frame) }

def Reachable (first : Mesh ι) : Mesh ι → Prop := Relation.ReflTransGen (Step blake3) first

/-- The contents that a user copied. -/
def copies (m : Mesh ι) (i : ι) : List ClipboardContent := (m.writes i).filterMap Write.copied?

/-- The entries that a station applied in the name of this node. -/
def applied (m : Mesh ι) (i : ι) (origin : NodeId) : List ClipboardEntry :=
  (m.writes i).filterMap (Write.applied? origin)

/-- Some station has broadcast the frame. -/
def Sent (broadcasts : ι → List DataFrame) (frame : DataFrame) : Prop := ∃ j, frame ∈ broadcasts j

/-- A frame that carries an entry is applied, or nothing happens. -/
inductive Arrives (s : Station) (frame : DataFrame) (entry : ClipboardEntry) : Prop where
  | declined (same : s.receive blake3 frame = s) (none : applies blake3 s frame = [])
  | accepted (admits : ClipboardSyncEngine.Admits blake3 s.engine.toClipboardSyncEngine entry)
      (received : s.receive blake3 frame = { s with
        engine.guard := s.guard.noted entry.metadata.origin entry.metadata.sequence entry.metadata.contentHash
        engine.clipboard := s.engine.clipboard.setContent entry.content })
      (written : applies blake3 s frame = [.applied entry])

variable {blake3} in
theorem appliedEntry_of_admits {engine : ClipboardSyncEngine MemoryClipboard}
    (message : ClipboardMessage.fromDataFrame frame = .ok (.sync entry))
    (admits : ClipboardSyncEngine.Admits blake3 engine entry) :
    engine.appliedEntry blake3 MemoryClipboard.backend frame = some entry := by
  have noted := EchoGuard.recordReceived_of_fresh admits.fresh
  simp [appliedEntry, handleIncomingFrame, message,
    applySync, admits.foreign, admits.intact, admits.allowed, noted, MemoryClipboard.backend]

theorem arrives (carries : carried frame = some entry) (s : Station) :
    Arrives blake3 s frame entry := by
  have message := carried_eq_some.mp carries
  by_cases admits : ClipboardSyncEngine.Admits blake3 s.engine.toClipboardSyncEngine entry
  · refine .accepted admits ?_ (by simp [applies, appliedEntry_of_admits message admits])
    unfold Station.receive
    rw [handleIncomingFrame_of_sync blake3 MemoryClipboard.backend message admits]
    rfl
  · refine .declined ?_ ?_
    · unfold Station.receive
      simp only [handleIncomingFrame, message,
        applySync_of_not_admits blake3 MemoryClipboard.backend admits]
    · unfold applies
      cases found : s.engine.appliedEntry blake3 MemoryClipboard.backend frame with
      | none => rfl
      | some other =>
          obtain ⟨decoded, passes⟩ := admits_of_appliedEntry found
          rw [message] at decoded
          cases decoded
          exact absurd passes admits

variable {blake3}

/-- What is true of one station of a mesh in which these frames have been sent. -/
structure Kept (blake3 : Bytes → FixedBytes 32) (nodeId : NodeId) (policy : ClipboardPolicy)
    (initial : Option ClipboardContent) (Sent : DataFrame → Prop) (s : Station) (broadcasts : List DataFrame)
    (writes : List Write) : Prop where
  run : ∃ ledger, Station.Run blake3 (.start nodeId policy initial) s ledger ∧
    ledger.copies = writes.filterMap Write.copied? ∧ ledger.broadcasts.map Prod.snd = broadcasts
  ruled : s.policy = policy
  fits : ∀ content ∈ writes.filterMap Write.copied?, content.Fits
  shown : s.content = (writes.getLast?.map Write.content).or initial
  came : ∀ entry, .applied entry ∈ writes → (∃ frame, Sent frame ∧ carried frame = some entry) ∧
    entry.metadata.origin ≠ nodeId ∧ policy.validate entry.content entry.metadata.isSensitive = .ok ()
  rising : ∀ origin, (writes.filterMap (Write.applied? origin)).Pairwise Before
  noticed : ∀ entry, .applied entry ∈ writes →
    ∃ last ∈ s.guard.lastSequence entry.metadata.origin, entry.metadata.sequence ≤ last
  queued : ∀ content ∈ s.pending, content.Fits
  announced : ∀ frame ∈ broadcasts, ∀ entry, carried frame = some entry → policy.validate entry.content false = .ok ()

namespace Kept

variable {nodeId : NodeId} {policy : ClipboardPolicy} {initial : Option ClipboardContent}
  {Sent Sent' : DataFrame → Prop}
  {s s' : Station} {broadcasts : List DataFrame} {writes : List Write}

theorem start : Kept blake3 nodeId policy initial Sent (.start nodeId policy initial) [] [] where
  run := ⟨_, .start, rfl, rfl⟩
  ruled := rfl
  fits := by simp
  shown := rfl
  came := by simp
  rising := by simp
  noticed := by simp
  queued := by simp [Station.start, Station.pending, LocalEngine.new]
  announced := by simp

variable (kept : Kept blake3 nodeId policy initial Sent s broadcasts writes)

include kept

theorem mono
    (more : ∀ frame, Sent frame → Sent' frame) : Kept blake3 nodeId policy initial Sent' s broadcasts writes :=
  { kept with
    came := by
      intro entry listed
      obtain ⟨⟨frame, sent, carries⟩, rest⟩ := kept.came entry listed
      exact ⟨⟨frame, more frame sent, carries⟩, rest⟩ }

theorem named : s.nodeId = nodeId := by
  obtain ⟨ledger, run, -⟩ := kept.run
  exact run.sound.named

theorem copy {content : ClipboardContent} (fits : content.Fits) :
    Kept blake3 nodeId policy initial Sent (s.copy content) broadcasts (writes ++ [.copied content]) where
  run := by
    obtain ⟨ledger, run, copies, sent⟩ := kept.run
    exact ⟨_, run.copied content, by simp [copies, Write.copied?], sent⟩
  ruled := kept.ruled
  fits := by
    intro other listed
    rw [List.filterMap_append] at listed
    rcases List.mem_append.mp listed with old | new
    · exact kept.fits other old
    · cases List.mem_singleton.mp new
      exact fits
  shown := by simp [Station.copy, Station.content, MemoryClipboard.setContent, Write.content]
  came entry listed := kept.came entry (by simpa using listed)
  rising origin := by simpa [List.filterMap_cons, Write.applied?] using kept.rising origin
  noticed entry listed := kept.noticed entry (by simpa using listed)
  queued := by
    intro other waits
    rcases List.mem_append.mp waits with old | new
    · exact kept.queued other old
    · cases List.mem_singleton.mp new
      exact fits
  announced := kept.announced

theorem take {timestampMs : UInt64}
    {sent : Option DataFrame} (taken : s.take blake3 timestampMs = some (sent, s')) :
    Kept blake3 nodeId policy initial Sent s' (broadcasts ++ sent.toList) writes := by
  obtain ⟨ledger, run, copies, listed⟩ := kept.run
  have spec := Station.take_spec taken
  exact
    { run := ⟨_, run.took taken, copies, by cases sent <;> simp [listed]⟩
      ruled := spec.policy.trans kept.ruled
      fits := kept.fits
      shown := spec.content.trans kept.shown
      came := kept.came
      rising := kept.rising
      noticed := by
        intro entry listed
        rw [spec.sequences]
        exact kept.noticed entry listed
      queued := fun content waits => kept.queued content (spec.pending content waits)
      announced := by
        intro frame listed entry carries
        rcases List.mem_append.mp listed with old | new
        · exact kept.announced frame old entry carries
        · obtain ⟨content, waits, rfl, allowed⟩ := spec.sent frame (Option.mem_toList.mp new)
          have told : carried (s.announcement blake3 timestampMs content) = some _ :=
            carried_toDataFrame (kept.queued content waits)
          cases told.symm.trans carries
          exact kept.ruled ▸ allowed }

theorem deliver (sent : Sent frame) (carries : carried frame = some entry) (fits : entry.content.Fits) :
    Kept blake3 nodeId policy initial Sent (s.receive blake3 frame) broadcasts (writes ++ applies blake3 s frame) := by
  obtain ⟨ledger, run, copies, listed⟩ := kept.run
  cases arrives blake3 carries s with
  | declined same none =>
      rw [same, none, List.append_nil]
      exact kept
  | accepted admits received written =>
      have recorded : ∀ origin, (s.receive blake3 frame).guard.lastSequence origin =
          if origin = entry.metadata.origin then some entry.metadata.sequence else s.guard.lastSequence origin := by
        intro origin
        rw [received]
        exact EchoGuard.lastSequence_noted origin
      have above : ∀ earlier, .applied earlier ∈ writes → earlier.metadata.origin = entry.metadata.origin →
          Before earlier entry := by
        intro earlier old named
        obtain ⟨last, known, below⟩ := kept.noticed earlier old
        rw [named] at known
        exact UInt64.lt_of_le_of_lt below (admits.fresh.ahead last known)
      refine ⟨⟨_, run.received frame, ?_, listed⟩, ?_, ?_, ?_, ?_, ?_, ?_, ?_, kept.announced⟩
      · simp [copies, written, Write.copied?]
      · rw [received]
        exact kept.ruled
      · simpa [written, List.filterMap_cons, Write.copied?] using kept.fits
      · rw [received, written]
        simp [Station.content, MemoryClipboard.setContent, Write.content]
      · intro other found
        rw [written] at found
        rcases List.mem_append.mp found with old | new
        · exact kept.came other old
        · cases List.mem_singleton.mp new
          have foreign := admits.foreign
          have allowed := admits.allowed
          exact ⟨⟨frame, sent, carries⟩, by rwa [← kept.named], by rwa [← kept.ruled]⟩
      · intro origin
        rw [written, List.filterMap_append, List.pairwise_append]
        refine ⟨kept.rising origin, ?_, ?_⟩
        · by_cases named : entry.metadata.origin = origin <;> simp [Write.applied?, named]
        · intro earlier old later new
          obtain ⟨old, named⟩ := Write.mem_applied.mp old
          obtain ⟨new, named'⟩ := Write.mem_applied.mp new
          cases List.mem_singleton.mp new
          exact above earlier old (named.trans named'.symm)
      · intro other found
        rw [written] at found
        rw [recorded]
        rcases List.mem_append.mp found with old | new
        · by_cases named : other.metadata.origin = entry.metadata.origin
          · exact ⟨_, if_pos named, UInt64.le_of_lt (above other old named)⟩
          · rw [if_neg named]
            exact kept.noticed other old
        · cases List.mem_singleton.mp new
          exact ⟨_, if_pos rfl, UInt64.le_refl _⟩
      · intro content waits
        rw [received] at waits
        rcases List.mem_append.mp waits with old | new
        · exact kept.queued content old
        · cases List.mem_singleton.mp new
          exact fits

/-- A station broadcasts what its user has copied, under its own name. -/
theorem broadcast (sent : frame ∈ broadcasts) :
    ∃ entry, carried frame = some entry ∧ entry.metadata.origin = nodeId ∧
      entry.metadata.isSensitive = false ∧ entry.content.Fits := by
  obtain ⟨ledger, run, copies, rfl⟩ := kept.run
  have fits : ∀ content ∈ ledger.copies, content.Fits := by simpa [copies] using kept.fits
  obtain ⟨⟨change, frame⟩, listed, rfl⟩ := List.mem_map.mp sent
  obtain ⟨k, found⟩ := List.getElem?_of_mem listed
  obtain ⟨entry, carries, rfl, named, -, plain⟩ := run.broadcast_carries fits found
  exact ⟨entry, carries, named, plain, fits _ (run.mem_copies listed)⟩

/-- And in the order of the copies, with rising numbers. -/
theorem carried_sublist (few : (writes.filterMap Write.copied?).length < 2 ^ 64) :
    (broadcasts.filterMap carried).Pairwise Before ∧
      ((broadcasts.filterMap carried).map ClipboardEntry.content).Sublist (writes.filterMap Write.copied?) := by
  obtain ⟨ledger, run, copies, rfl⟩ := kept.run
  have fits : ∀ content ∈ ledger.copies, content.Fits := by simpa [copies] using kept.fits
  constructor
  · exact run.entries_pairwise fits (by rwa [copies])
  · have contents := run.map_content_entries fits
    rw [← copies]
    exact contents ▸ (List.sublist_append_left _ _).trans run.sound.drawn

end Kept

variable {nodeId : ι → NodeId} {policy : ι → ClipboardPolicy} {initial : ι → Option ClipboardContent} {m m' : Mesh ι}

/-- Every station of the mesh keeps to it. -/
def Sound (blake3 : Bytes → FixedBytes 32) (nodeId : ι → NodeId) (policy : ι → ClipboardPolicy)
    (initial : ι → Option ClipboardContent) (m : Mesh ι) : Prop :=
  ∀ i, Kept blake3 (nodeId i) (policy i) (initial i) (Sent m.broadcasts) (m.station i) (m.broadcasts i) (m.writes i)

theorem Step.sound (step : Step blake3 m m') (sound : Sound blake3 nodeId policy initial m) :
    Sound blake3 nodeId policy initial m' := by
  intro k
  cases step with
  | copy i content fits =>
      by_cases same : k = i
      · subst same
        simpa using (sound k).copy fits
      · simpa [same] using sound k
  | @take i timestampMs sent s taken =>
      have more : ∀ frame, Sent m.broadcasts frame →
          Sent (Function.update m.broadcasts i (m.broadcasts i ++ sent.toList)) frame := by
        rintro frame ⟨j, listed⟩
        refine ⟨j, ?_⟩
        by_cases same : j = i
        · subst same
          simpa using .inl listed
        · simpa [same] using listed
      by_cases same : k = i
      · subst same
        simpa using ((sound k).take taken).mono more
      · simpa [same] using (sound k).mono more
  | @deliver i j frame sent =>
      obtain ⟨entry, carries, -, -, fits⟩ := (sound j).broadcast sent
      by_cases same : k = i
      · subst same
        simpa using (sound k).deliver ⟨j, sent⟩ carries fits
      · simpa [same] using sound k

theorem Reachable.sound (reachable : Reachable blake3 (start nodeId policy initial) m) :
    Sound blake3 nodeId policy initial m := by
  induction reachable with
  | refl => exact fun i => .start
  | tail _ step ih => exact step.sound ih

omit [DecidableEq ι] in
/-- Who has applied an entry has it from the station that the entry names. -/
theorem Sound.applied_broadcast (sound : Sound blake3 nodeId policy initial m) (i : ι)
    (listed : .applied entry ∈ m.writes i) :
    ∃ j, j ≠ i ∧ entry.metadata.origin = nodeId j ∧ entry ∈ (m.broadcasts j).filterMap carried ∧
      (policy j).validate entry.content false = .ok () ∧ (policy i).validate entry.content false = .ok () := by
  obtain ⟨⟨frame, ⟨j, sent⟩, carries⟩, foreign, allowed⟩ := (sound i).came entry listed
  obtain ⟨other, same, named, plain, -⟩ := (sound j).broadcast sent
  rw [carries] at same
  cases same
  rw [plain] at allowed
  refine ⟨j, ?_, named, List.mem_filterMap.mpr ⟨frame, sent, carries⟩, (sound j).announced frame sent entry carries,
    allowed⟩
  rintro rfl
  exact foreign named

/-- The policies of both stations let it pass. -/
def Crosses (policy : ι → ClipboardPolicy) (j i : ι) (content : ClipboardContent) : Prop :=
  (policy j).validate content false = .ok () ∧ (policy i).validate content false = .ok ()

instance (policy : ι → ClipboardPolicy) (j i : ι) (content : ClipboardContent) :
    Decidable (Crosses policy j i content) :=
  inferInstanceAs (Decidable (_ ∧ _))

/-- In every state that any number of engines with their monitors can reach, over a network that
    loses, repeats and reorders the frames they broadcast: each clipboard shows what was put on it last;
    what was not put there by its own user was applied from an entry of another station; and what a station has
    applied from another are, in this order, some of the copies of that station's user which both policies
    allow, none of them twice. -/
theorem writes_come_from_users (distinct : Function.Injective nodeId)
    (reachable : Reachable blake3 (start nodeId policy initial) m) (few : ∀ i, (m.copies i).length < 2 ^ 64) :
    (∀ i, (m.station i).content = ((m.writes i).getLast?.map Write.content).or (initial i)) ∧
      (∀ i entry, .applied entry ∈ m.writes i → ∃ j, j ≠ i ∧ entry.metadata.origin = nodeId j) ∧
      ∀ i j, ((m.applied i (nodeId j)).map ClipboardEntry.content).Sublist
        ((m.copies j).filter (Crosses policy j i)) := by
  have sound := reachable.sound
  refine ⟨fun i => (sound i).shown, ?_, ?_⟩
  · intro i entry listed
    obtain ⟨j, other, named, -⟩ := sound.applied_broadcast i listed
    exact ⟨j, other, named⟩
  · intro i j
    have source : ∀ entry ∈ m.applied i (nodeId j), entry ∈ (m.broadcasts j).filterMap carried ∧
        Crosses policy j i entry.content := by
      intro entry inside
      obtain ⟨listed, named⟩ := Write.mem_applied.mp inside
      obtain ⟨k, -, named', sent, allowed⟩ := sound.applied_broadcast i listed
      cases distinct (named.symm.trans named')
      exact ⟨sent, allowed⟩
    obtain ⟨rising, copied⟩ := (sound j).carried_sublist (few j)
    have ordered : (m.applied i (nodeId j)).Sublist ((m.broadcasts j).filterMap carried) := by
      have applied := (sound i).rising (nodeId j)
      exact List.sublist_of_subperm_of_pairwise
        (List.subperm_of_subset applied.nodup fun entry inside => (source entry inside).1) applied rising
    have crossing : ((m.applied i (nodeId j)).map ClipboardEntry.content).filter (Crosses policy j i) =
        (m.applied i (nodeId j)).map ClipboardEntry.content := by
      rw [List.filter_eq_self]
      intro content inside
      obtain ⟨entry, listed, rfl⟩ := List.mem_map.mp inside
      exact decide_eq_true (source entry listed).2
    rw [← crossing]
    exact ((ordered.map _).trans copied).filter _

section Example

def threeNodes : Mesh (Fin 3) :=
  start (fun i => ⟨.fill 32 (UInt8.ofNat i.val)⟩) (fun _ => .default) fun _ => none

theorem fits_text {body : String} (sized : (utf8 body).length < 2 ^ 63) : (ClipboardContent.text body).Fits :=
  fun metadata => Nat.lt_of_le_of_lt (ClipboardMessage.length_encode_text metadata body) (by omega)

/-- The first user copies a text, and the third node applies it. -/
theorem third_node_applies_copy :
    ∃ m, Reachable spread threeNodes m ∧ (m.station 2).content = some (.text "a") ∧
      (m.applied 2 ⟨.fill 32 0⟩).map ClipboardEntry.content = [.text "a"] ∧
      ((m.applied 2 ⟨.fill 32 0⟩).map ClipboardEntry.content).Sublist
        ((m.copies 0).filter (Crosses (fun _ => .default) 0 2)) := by
  have sized : (utf8 "a").length < 2 ^ 63 := by decide
  let entry : ClipboardEntry := .new spread 0 ⟨.fill 32 0⟩ 1 (.text "a") false
  have message : ClipboardMessage.fromDataFrame (ClipboardMessage.sync entry).toDataFrame = .ok (.sync entry) :=
    ClipboardEntry.fromDataFrame_new _ _ _ _ _ sized
  have admits : ClipboardSyncEngine.Admits spread (threeNodes.station 2).engine.toClipboardSyncEngine entry :=
    ⟨by decide, ClipboardEntry.validateIntegrity_new _ _ _ _ _ sized, rfl, by decide,
      by simp [threeNodes, start, Station.start, LocalEngine.new, EchoGuard.lastSequence, EchoGuard.new]⟩
  -- the copy, the round of the monitor, and the frame
  let m₁ : Mesh (Fin 3) := { threeNodes with
    station := Function.update threeNodes.station 0 ((threeNodes.station 0).copy (.text "a"))
    writes := Function.update threeNodes.writes 0 [.copied (.text "a")] }
  have copied : Step spread threeNodes m₁ := .copy 0 (.text "a") (fits_text sized)
  obtain ⟨s, taken⟩ : ∃ s, (m₁.station 0).take spread 0 = some (some (ClipboardMessage.sync entry).toDataFrame, s) :=
    ⟨_, Station.take_of_sent rfl rfl (by decide) rfl (by decide)⟩
  let m₂ : Mesh (Fin 3) := { m₁ with
    station := Function.update m₁.station 0 s
    broadcasts := Function.update m₁.broadcasts 0 [(ClipboardMessage.sync entry).toDataFrame] }
  have took : Step spread m₁ m₂ := .take taken
  have sent : (ClipboardMessage.sync entry).toDataFrame ∈ m₂.broadcasts 0 := List.mem_singleton_self _
  have reachable := ((Relation.ReflTransGen.single copied).tail took).tail (.deliver (i := 2) sent)
  have applied : applies spread (m₂.station 2) (ClipboardMessage.sync entry).toDataFrame = [.applied entry] := by
    have fresh : m₂.station 2 = threeNodes.station 2 := rfl
    simp [applies, fresh, appliedEntry_of_admits message admits]
  generalize named : Mesh.mk _ _ _ = m₃ at reachable
  have writes : m₃.writes 2 = [.applied entry] := by
    rw [← named]
    exact applied
  have copies : ∀ i, (m₃.copies i).length < 2 ^ 64 := by
    have first : m₃.writes 0 = [.copied (.text "a")] ∧ m₃.writes 1 = [] := by
      rw [← named]
      exact ⟨rfl, rfl⟩
    intro i
    obtain rfl | rfl | rfl : i = 0 ∨ i = 1 ∨ i = 2 := by omega
    · simp [Mesh.copies, first.1, Write.copied?]
    · simp [Mesh.copies, first.2]
    · simp [Mesh.copies, writes, List.filterMap_cons, Write.copied?]
  have distinct : Function.Injective fun i : Fin 3 => (⟨.fill 32 (UInt8.ofNat i.val)⟩ : NodeId) := by
    intro i j
    revert i j
    decide
  obtain ⟨shown, -, ordered⟩ := writes_come_from_users distinct reachable copies
  refine ⟨m₃, reachable, ?_, ?_, ordered 2 0⟩
  · rw [shown, writes]
    rfl
  · rw [Mesh.applied, writes]
    rfl

end Example

end Mesh

end BridgeOS.Clipboard
