import BridgeOS.Lib.Boundary
import BridgeOS.Notifications.Types

/-! # The size limits of a notification

Title and text are cut at a character boundary and the icon wherever it is too long.
The other fields are as long as they came. The search for a boundary goes down without
a lower bound of its own: what stops it is that a text always begins at one.
-/

namespace BridgeOS.Notifications

theorem walkBack_eq (text : List Char) (limit : Nat) :
    walkBack text limit =
      Nat.findGreatest (fun position => Text.isCharBoundary text position = true) limit :=
  Text.eq_last_of_steps rfl (fun _ => rfl) limit

theorem truncateStrBytes_eq (text : String) (limit : Nat) :
    truncateStrBytes text limit = String.ofList (Text.cut text.toList limit) := by
  rw [truncateStrBytes]
  split
  · rename_i fits
    rw [Text.length_utf8] at fits
    rw [Text.cut_of_fits fits, String.ofList_toList]
  · rw [walkBack_eq, Text.cut]

theorem length_truncateStrBytes_le (text : String) (limit : Nat) :
    (utf8 (truncateStrBytes text limit)).length ≤ limit := by
  rw [truncateStrBytes_eq, Text.length_utf8_ofList]
  exact Text.utf8Len_cut_le text.toList limit

theorem longestPrefix_truncateStrBytes (text : String) (limit : Nat) :
    Text.LongestPrefix limit text (truncateStrBytes text limit) := by
  rw [truncateStrBytes_eq]
  exact Text.longestPrefix_cut limit text

section Panics

/-- The loop as it is written: at 0 its counter underflows, and the call has no result. -/
def scanBack (text : List Char) : Nat → Option Nat
  | 0 => if Text.isCharBoundary text 0 then some 0 else none
  | boundary + 1 =>
      if Text.isCharBoundary text (boundary + 1) then some (boundary + 1) else scanBack text boundary

/-- The assertion is that of `String::truncate`. -/
def truncateStrBytesChecked (text : String) (maxBytes : Nat) : Option String :=
  if (utf8 text).length ≤ maxBytes then some text
  else (scanBack text.toList maxBytes).bind fun boundary =>
    if Text.isCharBoundary text.toList boundary then
      some (String.ofList (Text.truncate text.toList boundary))
    else none

/-- It never gets below 0, and stops where `walkBack` does. -/
theorem scanBack_eq (text : List Char) (limit : Nat) : scanBack text limit = some (walkBack text limit) := by
  induction limit with
  | zero => simp [scanBack, walkBack, Text.isCharBoundary_zero]
  | succ limit ih =>
      rw [scanBack, walkBack]
      split
      · rfl
      · exact ih

theorem truncateStrBytesChecked_eq (text : String) (limit : Nat) :
    truncateStrBytesChecked text limit = some (truncateStrBytes text limit) := by
  have found : Text.isCharBoundary text.toList (walkBack text.toList limit) = true := by
    rw [walkBack_eq]
    exact Text.isCharBoundary_last text.toList limit
  rw [truncateStrBytesChecked, truncateStrBytes]
  split
  · rfl
  · simp [scanBack_eq, found]

end Panics

namespace NotificationEntry

variable (blake3 : Bytes → FixedBytes 32)

/-- Title, text and icon are within the limits. -/
structure Limited (entry : NotificationEntry) : Prop where
  title : (utf8 entry.title).length ≤ 256
  text : (utf8 entry.text).length ≤ 4096
  icon : ∀ icon ∈ entry.iconData, icon.length ≤ 65536

theorem limited_enforceSizeLimits (entry : NotificationEntry) : (entry.enforceSizeLimits blake3).Limited := by
  rw [enforceSizeLimits_eq]
  refine ⟨length_truncateStrBytes_le entry.title 256, length_truncateStrBytes_le entry.text 4096, ?_⟩
  intro icon member
  obtain ⟨data, -, rfl⟩ := Option.mem_map.mp member
  exact List.length_take_le ..

/-- The whole call with everything that may panic in it. -/
def enforceSizeLimitsChecked (entry : NotificationEntry) : Option NotificationEntry :=
  (truncateStrBytesChecked entry.title 256).bind fun title =>
    (truncateStrBytesChecked entry.text 4096).bind fun text =>
      let entry := { entry with title, text }
      match entry.iconData with
      | none => some entry
      | some icon =>
          if icon.length > 65536 then
            some { entry with
              iconData := some (icon.take 65536)
              iconHash := some (blake3 (icon.take 65536)) }
          else some entry

theorem enforceSizeLimitsChecked_eq (entry : NotificationEntry) :
    entry.enforceSizeLimitsChecked blake3 = some (entry.enforceSizeLimits blake3) := by
  rw [enforceSizeLimitsChecked, enforceSizeLimits, truncateStrBytesChecked_eq, truncateStrBytesChecked_eq]
  cases icon : entry.iconData with
  | none => simp
  | some data =>
      simp only [Option.bind_some]
      split
      · rfl
      · rfl

/-- What is to become of an entry: its title and text lose what does not fit, an icon that
    is too long loses its end and gets the hash of the rest, and that is all. -/
structure Shortened (entry short : NotificationEntry) : Prop where
  title : Text.LongestPrefix 256 entry.title short.title
  text : Text.LongestPrefix 4096 entry.text short.text
  icon : short.iconData = entry.iconData.map (List.take 65536)
  cut : ∀ icon ∈ entry.iconData, 65536 < icon.length → short.iconHash = some (blake3 (icon.take 65536))
  uncut : (∀ icon ∈ entry.iconData, icon.length ≤ 65536) → short.iconHash = entry.iconHash
  others : short = { entry with
    title := short.title, text := short.text, iconHash := short.iconHash, iconData := short.iconData }

theorem shortened_enforceSizeLimits (entry : NotificationEntry) :
    Shortened blake3 entry (entry.enforceSizeLimits blake3) := by
  rw [enforceSizeLimits_eq]
  refine ⟨longestPrefix_truncateStrBytes entry.title 256, longestPrefix_truncateStrBytes entry.text 4096,
    rfl, fun icon member long => ?_, fun small => ?_, rfl⟩
  · simp [limitedIconHash, Option.mem_def.mp member, long]
  · unfold limitedIconHash
    split
    · rfl
    · rename_i icon found
      exact if_neg (Nat.not_lt_of_le (small icon found))

/-- An entry that keeps to the limits is left alone. -/
theorem enforceSizeLimits_of_limited {entry : NotificationEntry} (limited : entry.Limited) :
    entry.enforceSizeLimits blake3 = entry := by
  have title : truncateStrBytes entry.title 256 = entry.title := if_pos limited.title
  have text : truncateStrBytes entry.text 4096 = entry.text := if_pos limited.text
  rw [enforceSizeLimits, title, text]
  dsimp only
  split
  · rfl
  · rename_i data icon
    exact if_neg (Nat.not_lt_of_le (limited.icon data icon))

/-- The limits are met exactly, without a panic on the way, and once is enough. -/
theorem enforceSizeLimits_exact (entry : NotificationEntry) :
    entry.enforceSizeLimitsChecked blake3 = some (entry.enforceSizeLimits blake3) ∧
      Shortened blake3 entry (entry.enforceSizeLimits blake3) ∧
      (∀ icon ∈ (entry.enforceSizeLimits blake3).iconData, icon.length ≤ 65536) ∧
      (entry.enforceSizeLimits blake3).enforceSizeLimits blake3 = entry.enforceSizeLimits blake3 := by
  have limited := entry.limited_enforceSizeLimits blake3
  exact ⟨entry.enforceSizeLimitsChecked_eq blake3, entry.shortened_enforceSizeLimits blake3, limited.icon,
    enforceSizeLimits_of_limited blake3 limited⟩

end NotificationEntry

end BridgeOS.Notifications
