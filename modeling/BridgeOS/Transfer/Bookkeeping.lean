import BridgeOS.Transfer.Receiver

/-! # What a receiver has counted

A receiver decides by a number whether it is complete and by a search where to go
on; the two agree because the set holds no index that the manifest does not have.
`receive_chunk` is written here with the state that it leaves at each of its exits,
and the search with the `u32` that it counts in.
-/

namespace BridgeOS.Transfer

open PathBuf (Location)

namespace FileReceiver

/-- A receiver and the disk it is on. -/
abbrev Site := FileReceiver × Disk Location

/-- The loop of `next_expected_chunk` in as many rounds. An addition that overflows
    panics, so there is no result then, nor if the rounds run out. -/
def scan (received : Finset Nat) : Nat → UInt32 → Option UInt32
  | 0, _ => none
  | rounds + 1, expected =>
      if expected.toNat ∈ received then
        if expected.toNat + 1 < UInt32.size then scan received rounds (expected + 1) else none
      else some expected

namespace Site

/-- The bytes that a receiver writes to. -/
def destination (site : Site) : Bytes :=
  match site.1.target with
  | .file _ _ handle => site.2.content handle
  | .memory buffer => buffer

def note (site : Site) (chunk : FileChunk) : Site :=
  ({ site.1 with receivedChunks := insert chunk.chunkIndex.toNat site.1.receivedChunks }, site.2)

section Calls

variable (blake3 : Bytes → FixedBytes 32)

/-- How `receive_chunk` ends and what it leaves. -/
def call (site : Site) (chunk : FileChunk) : Except Failure Unit × Site :=
  match checkChunk blake3 site.1.manifest chunk with
  | .error e => (.error (.error e), site)
  | .ok () =>
      match site.1.target with
      | .file _ _ handle =>
          let written : Site := (site.1, site.2.write handle chunk.offset.toNat chunk.data)
          (.ok (), written.note chunk)
      | .memory buffer =>
          if chunk.offset.toNat + chunk.data.length ≤ buffer.length then
            let written : Site :=
              ({ site.1 with target := .memory (writeAt 0 buffer chunk.offset.toNat chunk.data) }, site.2)
            (.ok (), written.note chunk)
          else (.error .panic, site)

def callAll (site : Site) (chunks : List FileChunk) : Site :=
  chunks.foldl (fun site chunk => (site.call blake3 chunk).2) site

end Calls

variable {blake3 : Bytes → FixedBytes 32} {site : Site} {chunk : FileChunk}

/-- A call whose failures leave nothing behind is what `receiveChunk` says. -/
theorem receiveChunk_eq_call (blake3 : Bytes → FixedBytes 32) (site : Site) (chunk : FileChunk) :
    site.1.receiveChunk blake3 site.2 chunk =
      (site.call blake3 chunk).1.map fun _ => (site.call blake3 chunk).2 := by
  cases passed : checkChunk blake3 site.1.manifest chunk with
  | error e => simp [receiveChunk, call, passed, Except.map]
  | ok =>
      cases target : site.1.target with
      | file finalPath partPath handle => simp [receiveChunk, call, passed, target, note, Except.map]
      | memory buffer =>
          by_cases fits : chunk.offset.toNat + chunk.data.length ≤ buffer.length <;>
            simp [receiveChunk, call, passed, target, fits, note, Except.map]

/-- What an accepted chunk changes: its own index and its own bytes. A file that ends
    before those is filled up with zeros. -/
structure Writes (site : Site) (chunk : FileChunk) (after : Site) : Prop where
  manifest : after.1.manifest = site.1.manifest
  index : chunk.chunkIndex.toNat < site.1.manifest.totalChunks.toNat
  received : after.1.receivedChunks = insert chunk.chunkIndex.toNat site.1.receivedChunks
  offset : chunk.offset.toNat = chunk.chunkIndex.toNat * chunkSize
  length : chunk.data.length ≤ chunkSize
  written : slice after.destination chunk.offset.toNat chunk.data.length = chunk.data
  kept : ∀ i < site.destination.length,
    i < chunk.offset.toNat ∨ chunk.offset.toNat + chunk.data.length ≤ i →
      after.destination[i]? = site.destination[i]?
  filled : ∀ i ≥ site.destination.length,
    i < chunk.offset.toNat ∨ chunk.offset.toNat + chunk.data.length ≤ i →
      after.destination[i]? = none ∨ after.destination[i]? = some 0
  inPlace : chunk.offset.toNat + chunk.data.length ≤ site.destination.length →
    after.destination.length = site.destination.length
  names : after.2.file = site.2.file
  others : ∀ file, (∀ finalPath partPath, site.1.target ≠ .file finalPath partPath file) →
    after.2.content file = site.2.content file

/-- All that is told of the bytes follows from one write. -/
theorem writes_of_destination {after : Site} (manifest : after.1.manifest = site.1.manifest)
    (received : after.1.receivedChunks = insert chunk.chunkIndex.toNat site.1.receivedChunks)
    (passed : checkChunk blake3 site.1.manifest chunk = .ok ())
    (destination : after.destination = writeAt 0 site.destination chunk.offset.toNat chunk.data)
    (names : after.2.file = site.2.file)
    (others : ∀ file, (∀ finalPath partPath, site.1.target ≠ .file finalPath partPath file) →
      after.2.content file = site.2.content file) : site.Writes chunk after := by
  obtain ⟨-, -, sized, placed⟩ := (checkChunk_eq_ok blake3).mp passed
  refine ⟨manifest, (FileManifest.expectedChunkSize_eq_ok.mp sized).1, received, placed,
    FileManifest.expectedChunkSize_le sized, ?_, ?_, ?_, ?_, names, others⟩
  · rw [destination, slice_writeAt_self]
  · rintro i there (before | behind)
    · rw [destination, getElem?_writeAt_before 0 before there]
    · rw [destination, getElem?_writeAt_after 0 behind]
  · rintro i beyond (before | behind)
    · rw [destination]
      exact getElem?_writeAt_gap 0 before beyond
    · left
      rw [destination, getElem?_writeAt_after 0 behind]
      exact List.getElem?_eq_none beyond
  · intro fits
    by_cases empty : chunk.data = []
    · rw [destination, empty, writeAt_nil]
    · rw [destination, length_writeAt 0 _ empty]
      omega

/-- A call that is refused, or that panics, has changed nothing; every other one writes. -/
theorem call_cases (blake3 : Bytes → FixedBytes 32) (site : Site) (chunk : FileChunk) :
    (∃ failure, site.call blake3 chunk = (.error failure, site)) ∨
      ∃ after, site.call blake3 chunk = (.ok (), after) ∧ site.Writes chunk after := by
  cases passed : checkChunk blake3 site.1.manifest chunk with
  | error e => exact .inl ⟨.error e, by simp [call, passed]⟩
  | ok =>
      cases target : site.1.target with
      | file finalPath partPath handle =>
          refine .inr ⟨_, by simp only [call, passed, target]; rfl, ?_⟩
          refine writes_of_destination rfl rfl passed ?_ rfl ?_
          · simp [destination, note, target]
          · intro file other
            have apart : file ≠ handle := by
              rintro rfl
              exact other _ _ target
            exact Function.update_of_ne apart ..
      | memory buffer =>
          by_cases fits : chunk.offset.toNat + chunk.data.length ≤ buffer.length
          · refine .inr ⟨_, by simp only [call, passed, target, fits, if_true]; rfl, ?_⟩
            refine writes_of_destination rfl rfl passed ?_ rfl fun _ _ => rfl
            simp [destination, note, target]
          · exact .inl ⟨.panic, by simp [call, passed, target, fits]⟩

/-- The counter and the set agree. -/
structure Counted (site : Site) : Prop where
  inside : ∀ i ∈ site.1.receivedChunks, i < site.1.manifest.totalChunks.toNat
  complete : site.1.isComplete = true ↔ site.1.nextExpectedChunk = site.1.manifest.totalChunks
  expected : site.1.nextExpectedChunk = site.1.manifest.totalChunks ↔
    ∀ i < site.1.manifest.totalChunks.toNat, i ∈ site.1.receivedChunks
  scanned : ∃ rounds expected, scan site.1.receivedChunks rounds 0 = some expected ∧
    site.1.nextExpectedChunk.toNat = min expected.toNat site.1.manifest.totalChunks.toNat

/-- The search ends at the first missing index, which is a `u32` if all that are
    received are below one. -/
theorem scan_eq_some {received : Finset Nat} {missing : UInt32} (gap : missing.toNat ∉ received)
    (start : UInt32) (before : start.toNat ≤ missing.toNat)
    (between : ∀ i, start.toNat ≤ i → i < missing.toNat → i ∈ received) :
    ∃ rounds, scan received rounds start = some missing := by
  have bound := missing.toNat_lt
  obtain ⟨distance, far⟩ : ∃ n, n = missing.toNat - start.toNat := ⟨_, rfl⟩
  induction distance generalizing start with
  | zero =>
      have same : start = missing := UInt32.toNat_inj.mp (by omega)
      exact ⟨1, by simp [scan, same, gap]⟩
  | succ n ih =>
      have found : start.toNat ∈ received := between _ (Nat.le_refl _) (by omega)
      have next : (start + 1).toNat = start.toNat + 1 := by
        rw [UInt32.toNat_add, UInt32.toNat_one, Nat.mod_eq_of_lt (by omega)]
      obtain ⟨rounds, ends⟩ := ih (start + 1) (by omega) (fun i above => between i (by omega)) (by omega)
      refine ⟨rounds + 1, ?_⟩
      rw [scan, if_pos found, if_pos, ends]
      show start.toNat + 1 < 2 ^ 32
      omega

theorem counted_of_inside (inside : ∀ i ∈ site.1.receivedChunks, i < site.1.manifest.totalChunks.toNat) :
    site.Counted := by
  obtain ⟨least, below, missing⟩ := nextExpectedChunk_spec inside
  have last : site.1.nextExpectedChunk = site.1.manifest.totalChunks ↔
      ∀ i < site.1.manifest.totalChunks.toNat, i ∈ site.1.receivedChunks := by
    constructor
    · intro same
      rwa [same] at below
    · intro all
      by_contra other
      exact missing (all _ (Nat.lt_of_le_of_ne least fun same => other (UInt32.toNat_inj.mp same)))
  refine ⟨inside, (isComplete_iff inside).trans last.symm, last, ?_⟩
  obtain ⟨rounds, ends⟩ := scan_eq_some missing 0 (Nat.zero_le _) fun i _ => below i
  exact ⟨rounds, _, ends, (Nat.min_eq_left least).symm⟩

theorem inside_call (inside : ∀ i ∈ site.1.receivedChunks, i < site.1.manifest.totalChunks.toNat)
    (chunk : FileChunk) :
    ∀ i ∈ (site.call blake3 chunk).2.1.receivedChunks,
      i < (site.call blake3 chunk).2.1.manifest.totalChunks.toNat := by
  rcases call_cases blake3 site chunk with ⟨failure, failed⟩ | ⟨after, accepted, writes⟩
  · rw [failed]
    exact inside
  · rw [accepted, writes.manifest, writes.received]
    simp only [Finset.forall_mem_insert]
    exact ⟨writes.index, inside⟩

/-- No sequence of calls notes an index that the manifest does not have. -/
theorem inside_callAll (chunks : List FileChunk)
    (inside : ∀ i ∈ site.1.receivedChunks, i < site.1.manifest.totalChunks.toNat) :
    ∀ i ∈ (site.callAll blake3 chunks).1.receivedChunks,
      i < (site.callAll blake3 chunks).1.manifest.totalChunks.toNat := by
  induction chunks generalizing site with
  | nil => exact inside
  | cons chunk chunks ih => exact ih (inside_call inside chunk)

end Site

/-- The two ways to open a receiver. -/
inductive Opening where
  | toMemory
  | toDir (destDir : PathBuf)

def Opening.site (disk : Disk Location) (m : FileManifest) : Opening → Site
  | .toMemory => (FileReceiver.toMemory m, disk)
  | .toDir destDir => FileReceiver.toDir disk destDir m

theorem Opening.inside (opening : Opening) (disk : Disk Location) (m : FileManifest) :
    ∀ i ∈ (opening.site disk m).1.receivedChunks,
      i < (opening.site disk m).1.manifest.totalChunks.toNat := by
  cases opening with
  | toMemory => simp [site, FileReceiver.toMemory]
  | toDir destDir =>
      obtain ⟨handle, opened, -⟩ := toDir_spec disk destDir m
      rw [site, opened]
      intro i member
      exact Nat.lt_of_lt_of_le (Finset.mem_range.mp member) (validChunks_le_total m _)

/-- However a receiver is opened and whatever it has been handed, its set, its count and
    its search agree, and one more chunk changes nothing or no more than is its own. -/
theorem bookkeeping_is_exact (blake3 : Bytes → FixedBytes 32) (disk : Disk Location) (m : FileManifest)
    (opening : Opening) (chunks : List FileChunk) (chunk : FileChunk) :
    let site := (opening.site disk m).callAll blake3 chunks
    site.Counted ∧
      ((∃ failure, site.call blake3 chunk = (.error failure, site)) ∨
        ∃ after, site.call blake3 chunk = (.ok (), after) ∧ site.Writes chunk after) := by
  intro site
  constructor
  · exact Site.counted_of_inside (Site.inside_callAll chunks (opening.inside disk m))
  · exact site.call_cases blake3 chunk

end FileReceiver

end BridgeOS.Transfer
