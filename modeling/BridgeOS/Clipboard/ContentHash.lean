import BridgeOS.Clipboard.Applied

/-! # What the content hash tells

The hash is taken of a text put together from a tag and the parts of the content.
Text and images can be read back from theirs. Rich text cannot: the mark in front
of the plain part may stand in the rich part itself.
-/

namespace BridgeOS.Clipboard

theorem leBytes_inj {a b : UInt32} : leBytes a = leBytes b ↔ a = b := by
  constructor
  · intro same
    simp only [leBytes, List.cons.injEq, and_true, ← UInt8.toNat_inj, UInt8.toNat_ofNat'] at same
    have first := a.toNat_lt
    have second := b.toNat_lt
    rw [← UInt32.toNat_inj]
    omega
  · rintro rfl
    rfl

theorem ImageFormat.asU8_inj {a b : ImageFormat} : a.asU8 = b.asU8 ↔ a = b := by
  cases a <;> cases b <;> decide

namespace ClipboardContent

/-- The mark between the rich and the plain part. -/
def mark : String := "|PLN:"

/-- The rich and the plain part in one text. -/
def joined (rich : String) : Option String → String
  | none => rich
  | some plain => rich ++ mark ++ plain

def tag : ClipboardContent → String
  | .text _ => "TXT:"
  | .html _ _ => "HTM:"
  | .image _ _ _ _ => "IMG:"

/-- What is hashed behind the tag. -/
def inner : ClipboardContent → Bytes
  | .text body => utf8 body
  | .html rich plain => utf8 (joined rich plain)
  | .image format data width height => format.asU8 :: (leBytes width ++ leBytes height ++ data)

theorem hashed_eq (content : ClipboardContent) : content.hashed = utf8 content.tag ++ content.inner := by
  cases content with
  | text body => rfl
  | html rich plain =>
      cases plain with
      | none => rfl
      | some plain => simp only [hashed, tag, inner, joined, mark, utf8_append, List.append_assoc]
  | image format data width height => simp [hashed, tag, inner]

theorem length_tag (content : ClipboardContent) : (utf8 content.tag).length = 4 := by
  cases content <;> rfl

theorem hashed_eq_iff {a b : ClipboardContent} :
    a.hashed = b.hashed ↔ a.tag = b.tag ∧ a.inner = b.inner := by
  rw [hashed_eq, hashed_eq]
  constructor
  · intro same
    obtain ⟨tags, inners⟩ := List.append_inj same ((length_tag a).trans (length_tag b).symm)
    exact ⟨utf8_inj.mp tags, inners⟩
  · rintro ⟨tags, inners⟩
    rw [tags, inners]

theorem hashed_text_eq_iff {body : String} {other : ClipboardContent} :
    other.hashed = (text body).hashed ↔ other = text body := by
  rw [hashed_eq_iff]
  cases other with
  | text other => simp [tag, inner, utf8_inj]
  | html rich plain => simp [tag]
  | image format data width height => simp [tag]

theorem hashed_html_eq_iff {rich : String} {plain : Option String} {other : ClipboardContent} :
    other.hashed = (html rich plain).hashed ↔
      ∃ rich' plain', other = html rich' plain' ∧ joined rich' plain' = joined rich plain := by
  rw [hashed_eq_iff]
  cases other with
  | text other => simp [tag]
  | html rich' plain' => simp [tag, inner, utf8_inj]
  | image format data width height => simp [tag]

theorem hashed_image_eq_iff {format : ImageFormat} {data : Bytes} {width height : UInt32}
    {other : ClipboardContent} :
    other.hashed = (image format data width height).hashed ↔ other = image format data width height := by
  rw [hashed_eq_iff]
  cases other with
  | text other => simp [tag]
  | html rich plain => simp [tag]
  | image format' data' width' height' =>
      simp only [tag, inner, List.cons.injEq, ImageFormat.asU8_inj, true_and, image.injEq]
      constructor
      · rintro ⟨formats, rest⟩
        -- both dimensions take four bytes
        obtain ⟨dimensions, datas⟩ := List.append_inj rest rfl
        obtain ⟨widths, heights⟩ := List.append_inj dimensions rfl
        exact ⟨formats, datas, leBytes_inj.mp widths, leBytes_inj.mp heights⟩
      · rintro ⟨rfl, rfl, rfl, rfl⟩
        exact ⟨rfl, rfl⟩

/-- No other content has the same text: not so for rich text with a plain part, nor for
    rich text in which the mark occurs. -/
def Unambiguous : ClipboardContent → Prop
  | .text _ => True
  | .html rich none => ¬ mark.toList <:+: rich.toList
  | .html _ (some _) => False
  | .image _ _ _ _ => True

theorem joined_none_unique_iff {rich : String} :
    (∀ rich' plain', joined rich' plain' = rich → rich' = rich ∧ plain' = none) ↔
      ¬ mark.toList <:+: rich.toList := by
  constructor
  · rintro unique ⟨before, behind, split⟩
    have other := unique (.ofList before) (some (.ofList behind)) ?_
    · cases other.2
    · rw [← String.toList_inj]
      simp [joined, split]
  · intro unmarked rich' plain' same
    cases plain' with
    | none => exact ⟨same, rfl⟩
    | some plain =>
        refine absurd ⟨rich'.toList, plain.toList, ?_⟩ unmarked
        rw [← same]
        simp [joined]

theorem unambiguous_iff (content : ClipboardContent) :
    (∀ other : ClipboardContent, other.hashed = content.hashed → other = content) ↔
      content.Unambiguous := by
  cases content with
  | text body => simp [hashed_text_eq_iff, Unambiguous]
  | image format data width height => simp [hashed_image_eq_iff, Unambiguous]
  | html rich plain =>
      cases plain with
      | some plain =>
          simp only [Unambiguous, iff_false]
          intro unique
          -- the same text without a plain part
          have other := unique (html (joined rich (some plain)) none)
            (hashed_html_eq_iff.mpr ⟨_, _, rfl, rfl⟩)
          cases (html.inj other).2
      | none =>
          rw [Unambiguous, ← joined_none_unique_iff]
          constructor
          · intro unique rich' plain' same
            have other := unique (html rich' plain') (hashed_html_eq_iff.mpr ⟨_, _, rfl, same⟩)
            cases other
            exact ⟨rfl, rfl⟩
          · intro unique other same
            obtain ⟨rich', plain', rfl, joint⟩ := hashed_html_eq_iff.mp same
            obtain ⟨rfl, rfl⟩ := unique rich' plain' joint
            rfl

/-- Whoever has the hash has the content, and a guard that knows only other contents
    lets it pass. -/
structure Identified (blake3 : Bytes → FixedBytes 32) (content : ClipboardContent) : Prop where
  same : ∀ other : ClipboardContent, content.computeHash blake3 = other.computeHash blake3 →
    content = other
  accepted : ∀ entry : ClipboardEntry, entry.metadata.contentHash = content.computeHash blake3 →
    entry.validateIntegrity blake3 = .ok () → entry.content = content
  unsuppressed : ∀ (guard : EchoGuard) (known : Set ClipboardContent),
    (∀ hash ∈ guard.seenHashes, ∃ other ∈ known, hash = other.computeHash blake3) →
      content ∉ known → guard.shouldSuppress (content.computeHash blake3) = false

/-- Where no other text has the hash of this one. -/
theorem identified_iff (blake3 : Bytes → FixedBytes 32) (content : ClipboardContent)
    (alone : ∀ bytes, blake3 content.hashed = blake3 bytes → content.hashed = bytes) :
    Identified blake3 content ↔ content.Unambiguous := by
  rw [← unambiguous_iff]
  constructor
  · intro identified other same
    exact (identified.same other (congrArg blake3 same).symm).symm
  · intro unique
    have identifies : ∀ other : ClipboardContent,
        content.computeHash blake3 = other.computeHash blake3 → content = other := by
      intro other same
      exact (unique other (alone _ same).symm).symm
    refine ⟨identifies, ?_, ?_⟩
    · intro entry named intact
      have hash := (ClipboardEntry.validateIntegrity_eq_ok intact).1
      exact (identifies entry.content (named.symm.trans hash)).symm
    · intro guard known recorded new
      rw [EchoGuard.shouldSuppress, decide_eq_false_iff_not]
      intro seen
      obtain ⟨other, member, same⟩ := recorded _ seen
      rw [← identifies other same] at member
      exact new member

/-- A hash under which one text stands alone. -/
def singling (text : Bytes) (bytes : Bytes) : FixedBytes 32 :=
  if bytes = text then .fill 32 0 else .fill 32 1

theorem singling_alone (text bytes : Bytes) (same : singling text text = singling text bytes) :
    text = bytes := by
  by_contra different
  rw [singling, singling, if_pos rfl, if_neg (Ne.symm different)] at same
  cases same

theorem short_text_identified : Identified (singling (text "a").hashed) (text "a") :=
  (identified_iff _ _ (singling_alone _)).mpr trivial

/-- One text, two contents of one size, whatever the hash. -/
theorem mark_in_either_part :
    html "x" (some "y|PLN:z") ≠ html "x|PLN:y" (some "z") ∧
      ∀ blake3 : Bytes → FixedBytes 32,
        (html "x" (some "y|PLN:z")).computeHash blake3 =
            (html "x|PLN:y" (some "z")).computeHash blake3 ∧
          ClipboardEntry.validateIntegrity blake3
            ⟨(ClipboardEntry.new blake3 0 ⟨.fill 32 0⟩ 1 (html "x" (some "y|PLN:z")) false).metadata,
              html "x|PLN:y" (some "z")⟩ = .ok () := by
  have texts : (html "x" (some "y|PLN:z")).hashed = (html "x|PLN:y" (some "z")).hashed := by decide
  refine ⟨by decide, fun blake3 => ⟨congrArg blake3 texts, ?_⟩⟩
  have hash : (html "x|PLN:y" (some "z")).computeHash blake3 =
      (html "x" (some "y|PLN:z")).computeHash blake3 := (congrArg blake3 texts).symm
  simp only [ClipboardEntry.validateIntegrity, ClipboardEntry.new, hash, ne_eq, not_true_eq_false,
    if_false]
  rfl

end ClipboardContent

end BridgeOS.Clipboard
