import BridgeOS.Clipboard.ContentHash
import BridgeOS.Lib.Utf16

/-! # The Windows clipboard

The backend stores Unicode text and nothing else, so of a rich text it keeps the
rich part as text and an image it refuses. Its listener reads back what is stored
whenever the clipboard changes, also after the backend's own writes: these must
then be known to the guard. What the system keeps is the buffer as it was stored;
how its calls end is an input of each operation.
-/

namespace BridgeOS.Clipboard

/-- How the calls of one operation end. -/
structure Win32 where
  globalAlloc : Bool
  globalLock : Bool
  /-- Attempt by attempt. -/
  openClipboard : Nat → Bool
  /-- A failure comes with what `GetLastError` reads. -/
  emptyClipboard : Except Nat Unit
  setClipboardData : Bool
  getClipboardData : Bool

namespace Win32

/-- Every call succeeds. -/
def smooth : Win32 := ⟨true, true, fun _ => true, .ok (), true, true⟩

def clipboardRetryCount : Nat := 10

def openClipboardWithRetry (calls : Win32) : Except ClipboardError Unit :=
  if (List.range clipboardRetryCount).any calls.openClipboard then .ok ()
  else .error (.backendError
    "Failed to open Windows clipboard: access locked by another application")

end Win32

namespace WindowsClipboard

/-- The units stored as Unicode text, if any are. -/
abbrev Stored := Option (List UInt16)

/-- What of a content is stored. -/
def written : ClipboardContent → Except ClipboardError String
  | .text body => .ok body
  | .html rich _ => .ok rich
  | .image _ _ _ _ => .error (.unsupportedFormat
      "Image clipboard writing is not yet implemented in WindowsClipboardBackend")

def setContent (calls : Win32) (stored : Stored) (content : ClipboardContent) :
    Except ClipboardError Unit × Stored :=
  match written content with
  | .error e => (.error e, stored)
  | .ok text =>
      let units := Utf16.encode text.toList ++ [0]
      if !calls.globalAlloc then
        (.error (.backendError "Failed to allocate global memory for Windows clipboard"), stored)
      else if !calls.globalLock then
        (.error (.backendError "Failed to lock allocated global memory"), stored)
      else match calls.openClipboardWithRetry with
        | .error e => (.error e, stored)
        | .ok () =>
            match calls.emptyClipboard with
            | .error code =>
                (.error (.backendError
                  s!"Failed to empty Windows clipboard (GetLastError={code})"), stored)
            | .ok () =>
                -- by now the old content is gone
                if !calls.setClipboardData then
                  (.error (.backendError "Failed to set Windows clipboard data"), none)
                else (.ok (), some units)

def clear (calls : Win32) (stored : Stored) : Except ClipboardError Unit × Stored :=
  match calls.openClipboardWithRetry with
  | .error e => (.error e, stored)
  | .ok () =>
      match calls.emptyClipboard with
      | .error _ => (.error (.backendError "Failed to clear Windows clipboard"), stored)
      | .ok () => (.ok (), none)

def backend (calls : Win32) : ClipboardBackend Stored := ⟨setContent calls, clear calls⟩

/-- The buffer up to its first zero. -/
def textOf (units : List UInt16) : String :=
  .ofList (Utf16.decodeLossy (units.takeWhile (· ≠ 0)))

def readClipboardTextDirect (calls : Win32) : Stored → Except ClipboardError (Option ClipboardContent)
  | none => .ok none
  | some units =>
      match calls.openClipboardWithRetry with
      | .error e => .error e
      | .ok () =>
          if !calls.getClipboardData then .ok none
          else if !calls.globalLock then .ok none
          else .ok (some (.text (textOf units)))

/-- What the listener sends to its subscribers on a change. -/
def broadcast (calls : Win32) (stored : Stored) : Option ClipboardContent :=
  match readClipboardTextDirect calls stored with
  | .ok (some (.text text)) => some (.text text)
  | _ => none

theorem textOf_encode (text : String) :
    textOf (Utf16.encode text.toList ++ [0]) = .ofList (text.toList.takeWhile (· ≠ '\x00')) := by
  rw [textOf, Utf16.takeWhile_encode, Utf16.decodeLossy_encode]

theorem stored_of_setContent {calls : Win32} {stored stored' : Stored} {content : ClipboardContent}
    (accepted : setContent calls stored content = (.ok (), stored')) :
    ∃ text, written content = .ok text ∧ stored' = some (Utf16.encode text.toList ++ [0]) := by
  unfold setContent at accepted
  split at accepted
  · cases accepted
  · rename_i text kept
    refine ⟨text, kept, ?_⟩
    dsimp only at accepted
    repeat' split at accepted
    all_goals cases accepted
    rfl

theorem setContent_smooth {content : ClipboardContent} {text : String}
    (kept : written content = .ok text) (stored : Stored) :
    setContent .smooth stored content = (.ok (), some (Utf16.encode text.toList ++ [0])) := by
  simp only [setContent, kept]
  rfl

theorem broadcast_eq_some {calls : Win32} {units : List UInt16} {heard : ClipboardContent}
    (sent : broadcast calls (some units) = some heard) : heard = .text (textOf units) := by
  unfold broadcast readClipboardTextDirect at sent
  split at sent
  · rename_i text read
    cases sent
    dsimp only at read
    repeat' split at read
    all_goals cases read
    rfl
  · cases sent

theorem broadcast_smooth (units : List UInt16) :
    broadcast .smooth (some units) = some (.text (textOf units)) := rfl

/-- What the listener hears of a write of the backend is known to a guard that knows
    what was written. -/
structure Echoed (blake3 : Bytes → FixedBytes 32) (content : ClipboardContent) : Prop where
  hash : ∀ set read stored stored' heard, setContent set stored content = (.ok (), stored') →
    broadcast read stored' = some heard → heard.computeHash blake3 = content.computeHash blake3
  suppressed : ∀ set read stored stored' heard, setContent set stored content = (.ok (), stored') →
    broadcast read stored' = some heard → ∀ (engine : LocalEngine Stored) (timestampMs : UInt64),
      engine.guard.shouldSuppress (content.computeHash blake3) = true →
        ∀ frame, (engine.handleLocalChange blake3 timestampMs heard false).result ≠ .ok (some frame)

/-- Plain text without a null character. An image is never accepted. -/
def Readable : ClipboardContent → Prop
  | .text body => '\x00' ∉ body.toList
  | .html _ _ => False
  | .image _ _ _ _ => True

theorem ofList_takeWhile_eq_iff {text : String} {c : Char} :
    String.ofList (text.toList.takeWhile (· ≠ c)) = text ↔ c ∉ text.toList := by
  rw [← String.toList_inj, String.toList_ofList, List.takeWhile_eq_self_iff]
  constructor
  · intro all member
    exact absurd (all c member) (by simp)
  · intro absent other member
    refine decide_eq_true ?_
    rintro rfl
    exact absent member

theorem handleLocalChange_of_known {σ : Type} {blake3 : Bytes → FixedBytes 32}
    {engine : LocalEngine σ} {content : ClipboardContent} (timestampMs : UInt64) (isSensitive : Bool)
    (known : engine.guard.shouldSuppress (content.computeHash blake3) = true) (frame : DataFrame) :
    (engine.handleLocalChange blake3 timestampMs content isSensitive).result ≠ .ok (some frame) := by
  unfold LocalEngine.handleLocalChange
  split
  · simp
  · simp [known]

/-- Where no other text has the hash of this one. -/
theorem echoed_iff (blake3 : Bytes → FixedBytes 32) (content : ClipboardContent)
    (alone : ∀ bytes, blake3 content.hashed = blake3 bytes → content.hashed = bytes) :
    Echoed blake3 content ↔ Readable content := by
  have read_back : ∀ {text}, written content = .ok text → Echoed blake3 content →
      content = .text (.ofList (text.toList.takeWhile (· ≠ '\x00'))) := by
    intro text kept echoed
    have same := echoed.hash .smooth .smooth none _ _ (setContent_smooth kept none) (broadcast_smooth _)
    rw [textOf_encode] at same
    exact ClipboardContent.hashed_text_eq_iff.mp (alone _ same.symm)
  constructor
  · intro echoed
    cases content with
    | text body =>
        have same := ClipboardContent.text.inj (read_back rfl echoed)
        exact ofList_takeWhile_eq_iff.mp same.symm
    | html rich plain => cases read_back rfl echoed
    | image format data width height => trivial
  · intro readable
    have hash : ∀ set read stored stored' heard, setContent set stored content = (.ok (), stored') →
        broadcast read stored' = some heard →
          heard.computeHash blake3 = content.computeHash blake3 := by
      intro set read stored stored' heard accepted sent
      obtain ⟨text, kept, rfl⟩ := stored_of_setContent accepted
      rw [broadcast_eq_some sent, textOf_encode]
      cases content with
      | text body =>
          cases kept
          rw [ofList_takeWhile_eq_iff.mpr readable]
      | html rich plain => exact readable.elim
      | image format data width height => cases kept
    refine ⟨hash, ?_⟩
    intro set read stored stored' heard accepted sent engine timestampMs known
    apply handleLocalChange_of_known
    rw [hash set read stored stored' heard accepted sent]
    exact known

theorem short_text_echoed :
    Echoed (ClipboardContent.singling (ClipboardContent.text "a").hashed) (.text "a") :=
  (echoed_iff _ _ (ClipboardContent.singling_alone _)).mpr (show '\x00' ∉ "a".toList by decide)

/-- An engine that has just applied a content, as far as its guard can tell. -/
def exampleEngine (blake3 : Bytes → FixedBytes 32) (content : ClipboardContent) : LocalEngine Stored :=
  { LocalEngine.new ⟨.fill 32 0⟩ none .default with
    guard := (EchoGuard.new 256).recordSent (content.computeHash blake3) }

/-- Rich text comes back as plain text, which the guard does not know. -/
theorem html_echo_is_broadcast :
    setContent .smooth none (.html "a" none) = (.ok (), some [97, 0]) ∧
      broadcast .smooth (some [97, 0]) = some (.text "a") ∧
      ∃ frame, ((exampleEngine (ClipboardContent.singling (ClipboardContent.html "a" none).hashed)
        (.html "a" none)).handleLocalChange
          (ClipboardContent.singling (ClipboardContent.html "a" none).hashed) 0 (.text "a")
          false).result = .ok (some frame) :=
  ⟨rfl, rfl, _, rfl⟩

end WindowsClipboard

end BridgeOS.Clipboard
