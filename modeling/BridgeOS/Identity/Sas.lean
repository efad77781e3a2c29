import BridgeOS.Identity.Pairing
import Mathlib.Data.Sym.Sym2

/-! # The short authentication string

Both sides show a number derived from the two identifiers and nonces, put in an
order that does not depend on who asks. The order is that of the identifiers alone:
between equal ones the nonces stay as they come.
-/

namespace BridgeOS

/-- An identifier with the nonce of its side. -/
abbrev Participant := NodeId × FixedBytes 32

/-- The smaller identifier first. -/
def inOrder (p q : Participant) : Participant × Participant :=
  if p.1.bytes.bytes ≤ q.1.bytes.bytes then (p, q) else (q, p)

theorem mk_inOrder (p q : Participant) : s((inOrder p q).1, (inOrder p q).2) = s(p, q) := by
  unfold inOrder
  split
  · rfl
  · exact Sym2.eq_swap

section Texts

variable {a b a' b' : NodeId} {nonceA nonceB nonceA' nonceB' : FixedBytes 32}

theorem sasText_eq : sasText a b nonceA nonceB = utf8 "BridgeOS-Pairing-SAS-v1" ++
    ((inOrder (a, nonceA) (b, nonceB)).1.1.bytes.bytes ++
      ((inOrder (a, nonceA) (b, nonceB)).2.1.bytes.bytes ++
        ((inOrder (a, nonceA) (b, nonceB)).1.2.bytes ++
          (inOrder (a, nonceA) (b, nonceB)).2.2.bytes))) := by
  unfold sasText inOrder
  split <;> simp only [List.append_assoc]

/-- Every part has its own length, so the text tells the ordered parties. -/
theorem sasText_eq_iff : sasText a b nonceA nonceB = sasText a' b' nonceA' nonceB' ↔
    inOrder (a, nonceA) (b, nonceB) = inOrder (a', nonceA') (b', nonceB') := by
  rw [sasText_eq, sasText_eq]
  constructor
  · intro same
    obtain ⟨firstId, rest⟩ := FixedBytes.append_inj (List.append_cancel_left same)
    obtain ⟨secondId, rest⟩ := FixedBytes.append_inj rest
    obtain ⟨firstNonce, rest⟩ := FixedBytes.append_inj rest
    have secondNonce := FixedBytes.ext rest
    exact Prod.ext (Prod.ext (congrArg NodeId.mk firstId) firstNonce)
      (Prod.ext (congrArg NodeId.mk secondId) secondNonce)
  · intro same
    rw [same]

theorem inOrder_comm_iff :
    inOrder (a, nonceA) (b, nonceB) = inOrder (b, nonceB) (a, nonceA) ↔ a ≠ b ∨ nonceA = nonceB := by
  by_cases same : a = b
  · subst same
    have kept : ∀ x y : FixedBytes 32, inOrder (a, x) (a, y) = ((a, x), (a, y)) :=
      fun _ _ => if_pos (List.le_refl a.bytes.bytes)
    rw [kept, kept]
    simp only [Prod.mk.injEq, true_and, ne_eq, not_true_eq_false, false_or]
    exact ⟨And.left, fun nonces => ⟨nonces, nonces.symm⟩⟩
  · simp only [ne_eq, same, not_false_eq_true, true_or, iff_true]
    exact ordered_comm same ((a, nonceA), (b, nonceB)) ((b, nonceB), (a, nonceA))

end Texts

/-- What both sides show for a digest. -/
def SasVerification.ofDigest (digest : Bytes) : SasVerification :=
  let pin := beNat (digest.take 8) % 1000000
  { numericPin := UInt32.ofNat pin
    formattedPin := Text.threeDigits (pin / 1000) ++ "-" ++ Text.threeDigits (pin % 1000)
    hexFingerprint := Hex.encode (digest.take 4) }

theorem SasVerification.derive_eq [Crypto] (a b : NodeId) (nonceA nonceB : FixedBytes 32) :
    derive a b nonceA nonceB = ofDigest (Crypto.sha256 (sasText a b nonceA nonceB)).bytes := rfl

namespace SasVerification

def digit (n : Nat) : Char := Char.ofNat (48 + n)

/-- Three digits, a hyphen and three digits, which read as one number give `numeric`. -/
def Shows (formatted : String) (numeric : UInt32) : Prop :=
  ∃ a b c d e f : Nat, (a < 10 ∧ b < 10 ∧ c < 10 ∧ d < 10 ∧ e < 10 ∧ f < 10) ∧
    formatted = String.ofList [digit a, digit b, digit c, '-', digit d, digit e, digit f] ∧
    numeric.toNat = 100000 * a + 10000 * b + 1000 * c + 100 * d + 10 * e + f

theorem digit_inj {m n : Nat} (small : m < 10) (small' : n < 10) (same : digit m = digit n) : m = n := by
  have decoded : ∀ k < 10, (digit k).toNat = 48 + k := by decide
  have numbers := congrArg Char.toNat same
  rw [decoded m small, decoded n small'] at numbers
  omega

theorem shows (digest : Bytes) :
    Shows (ofDigest digest).formattedPin (ofDigest digest).numericPin := by
  have small := Nat.mod_lt (beNat (digest.take 8)) (show 1000000 > 0 by decide)
  unfold ofDigest
  generalize beNat (digest.take 8) % 1000000 = pin at small
  refine ⟨pin / 1000 / 100, pin / 1000 / 10 % 10, pin / 1000 % 10, pin % 1000 / 100,
    pin % 1000 / 10 % 10, pin % 1000 % 10, by omega, ?_, ?_⟩
  · rw [← String.toList_inj]
    simp [Text.threeDigits, digit]
  · dsimp only
    rw [UInt32.toNat_ofNat', Nat.mod_eq_of_lt (by omega)]
    omega

theorem Shows.unique {formatted : String} {m n : UInt32} (first : Shows formatted m)
    (second : Shows formatted n) : m = n := by
  obtain ⟨a, b, c, d, e, f, small, shown, value⟩ := first
  obtain ⟨a', b', c', d', e', f', small', shown', value'⟩ := second
  have same := congrArg String.toList (shown.symm.trans shown')
  simp only [String.toList_ofList, List.cons.injEq, and_true, true_and] at same
  obtain ⟨first, second, third, fourth, fifth, sixth⟩ := same
  rw [← UInt32.toNat_inj, value, value', digit_inj small.1 small'.1 first,
    digit_inj small.2.1 small'.2.1 second, digit_inj small.2.2.1 small'.2.2.1 third,
    digit_inj small.2.2.2.1 small'.2.2.2.1 fourth,
    digit_inj small.2.2.2.2.1 small'.2.2.2.2.1 fifth,
    digit_inj small.2.2.2.2.2 small'.2.2.2.2.2 sixth]

end SasVerification

/-- A digest that singles out one text. -/
@[reducible] def singlingCrypto (text : Bytes) : Crypto :=
  { transparentCrypto with sha256 := fun other => if other = text then .fill 32 0 else .fill 32 1 }

/-- If the strings agree whatever the digest, so do the texts. -/
theorem sasText_eq_of_derive {a b a' b' : NodeId} {nonceA nonceB nonceA' nonceB' : FixedBytes 32}
    (same : ∀ crypto : Crypto, @SasVerification.derive crypto a b nonceA nonceB =
      @SasVerification.derive crypto a' b' nonceA' nonceB') :
    sasText a b nonceA nonceB = sasText a' b' nonceA' nonceB' := by
  by_contra different
  let crypto := singlingCrypto (sasText a b nonceA nonceB)
  have pins := congrArg SasVerification.numericPin (same crypto)
  have first : crypto.sha256 (sasText a b nonceA nonceB) = .fill 32 0 := if_pos rfl
  have second : crypto.sha256 (sasText a' b' nonceA' nonceB') = .fill 32 1 :=
    if_neg (Ne.symm different)
  rw [@SasVerification.derive_eq crypto, @SasVerification.derive_eq crypto, first, second] at pins
  exact absurd pins (by decide)

/-- Symmetry, unambiguity and the form of the number, at one pair of parties. -/
structure SasSound (a b : NodeId) (nonceA nonceB : FixedBytes 32) : Prop where
  symmetric : ∀ crypto : Crypto, @SasVerification.derive crypto a b nonceA nonceB =
    @SasVerification.derive crypto b a nonceB nonceA
  unambiguous : ∀ a' b' nonceA' nonceB',
    sasText a b nonceA nonceB = sasText a' b' nonceA' nonceB' →
      s((a, nonceA), (b, nonceB)) = s((a', nonceA'), (b', nonceB'))
  shown : ∀ digest : FixedBytes 32, SasVerification.Shows (SasVerification.ofDigest digest.bytes).formattedPin
    (SasVerification.ofDigest digest.bytes).numericPin
  determined : ∀ digest other : FixedBytes 32,
    (SasVerification.ofDigest digest.bytes).formattedPin =
        (SasVerification.ofDigest other.bytes).formattedPin →
      (SasVerification.ofDigest digest.bytes).numericPin =
        (SasVerification.ofDigest other.bytes).numericPin

/-- It is the symmetry that fails, where a node is paired with itself. -/
theorem sasSound_iff (a b : NodeId) (nonceA nonceB : FixedBytes 32) :
    SasSound a b nonceA nonceB ↔ a ≠ b ∨ nonceA = nonceB := by
  constructor
  · intro sound
    have texts := sasText_eq_of_derive sound.symmetric
    exact inOrder_comm_iff.mp (sasText_eq_iff.mp texts)
  · intro different
    refine ⟨?_, ?_, fun digest => SasVerification.shows _, ?_⟩
    · intro crypto
      have texts : sasText a b nonceA nonceB = sasText b a nonceB nonceA :=
        sasText_eq_iff.mpr (inOrder_comm_iff.mpr different)
      rw [SasVerification.derive_eq, SasVerification.derive_eq, texts]
    · intro a' b' nonceA' nonceB' same
      have ordered := sasText_eq_iff.mp same
      rw [← mk_inOrder, ordered, mk_inOrder]
    · intro digest other same
      have shown := SasVerification.shows other.bytes
      rw [← same] at shown
      exact (SasVerification.shows digest.bytes).unique shown

/-- One identifier, two nonces. -/
theorem same_node_asymmetric :
    @SasVerification.derive transparentCrypto ⟨.fill 32 5⟩ ⟨.fill 32 5⟩ (.fill 32 0) (.fill 32 1) ≠
      @SasVerification.derive transparentCrypto ⟨.fill 32 5⟩ ⟨.fill 32 5⟩ (.fill 32 1) (.fill 32 0) := by
  intro same
  exact absurd (congrArg SasVerification.numericPin same) (by decide)

end BridgeOS
