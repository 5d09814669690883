import SpriteStage.Datum.Arithmetic
import Mathlib

/-!
# The sign of numbers

To turn the sign of a number twice gives the number back, of a whole number as well as of a double
(`Number.neg_neg`). A whole number and its negation become doubles that are each other's negation,
since rounding goes alike on both sides of zero; only for zero itself does the double stay as it is,
for a whole number has no negative zero (`Datum.floatOf_neg`).

A double is kept packed in bits. What is said of its sign is proved of the unpacked form and carried
over: the sign has a bit of its own, and to turn it changes no other bit.
-/

namespace SpriteStage

namespace Double

open Float.Model

theorem unpacked_neg_neg (u : UnpackedFloat) : u.neg.neg = u := by
  have hsign (s : UnpackedFloat.Sign) : - -s = s := by cases s <;> rfl
  cases u <;> simp [UnpackedFloat.neg, hsign]

/-- Packed, the sign stands apart from all else. -/
theorem exists_packComponents {u : UnpackedFloat} (h : u ≠ .notANumber) :
    ∃ s e m, u.pack .binary64 = UnpackedFloat.packComponents .binary64 s e m ∧
      u.neg.pack .binary64 = UnpackedFloat.packComponents .binary64 (-s) e m := by
  cases u with
  | notANumber => exact absurd rfl h
  | infinity s => exact ⟨s, _, _, rfl, rfl⟩
  | zero s => exact ⟨s, _, _, rfl, rfl⟩
  | finite s m e hm =>
    simp only [UnpackedFloat.neg, UnpackedFloat.pack]
    split_ifs
    · exact ⟨s, _, _, rfl, rfl⟩
    · exact ⟨s, _, _, rfl, rfl⟩
    · exact ⟨s, _, _, rfl, rfl⟩

theorem unpack_packComponents_neg (s : UnpackedFloat.Sign)
    (e : BitVec Format.binary64.exponentBits)
    (m : BitVec Format.binary64.mantissaBitsWithoutImplicit) :
    UnpackedFloat.unpack .binary64 (UnpackedFloat.packComponents .binary64 (-s) e m) =
      (UnpackedFloat.unpack .binary64 (UnpackedFloat.packComponents .binary64 s e m)).neg := by
  simp only [UnpackedFloat.unpack, UnpackedFloat.unpackSign_packComponents,
    UnpackedFloat.unpackExponent_packComponents, UnpackedFloat.unpackMantissa_packComponents,
    UnpackedFloat.Sign.ofBitVec_toBitVec]
  split_ifs <;> rfl

/-- What is packed with its sign turned is unpacked with its sign turned. -/
theorem unpack_pack_neg (u : UnpackedFloat) :
    UnpackedFloat.unpack .binary64 (u.neg.pack .binary64) =
      (UnpackedFloat.unpack .binary64 (u.pack .binary64)).neg := by
  by_cases h : u = .notANumber
  · subst h
    rw [UnpackedFloat.neg, UnpackedFloat.pack, UnpackedFloat.unpack_packedNaN]
    rfl
  · obtain ⟨s, e, m, hu, hneg⟩ := exists_packComponents h
    rw [hu, hneg, unpack_packComponents_neg]

theorem exists_ofModel_pack (x : Float) : ∃ u, x = Float.ofModel (pack u) := by
  obtain ⟨⟨⟨b⟩, hb⟩⟩ := x
  have hpack := UnpackedFloat.pack_unpack_of_valid hb
  refine ⟨UnpackedFloat.unpack .binary64 b, ?_⟩
  unfold pack
  simp only [hpack]

theorem neg_ofModel_pack (u : UnpackedFloat) :
    -Float.ofModel (pack u) = Float.ofModel (pack u.neg) := by
  have hpack : (UnpackedFloat.unpack .binary64 (u.pack .binary64)).neg.pack .binary64 =
      u.neg.pack .binary64 := by
    rw [← unpack_pack_neg]
    exact UnpackedFloat.pack_unpack_of_valid UnpackedFloat.valid_pack
  show Float.ofModel (pack (UnpackedFloat.unpack .binary64 (u.pack .binary64)).neg) = _
  unfold pack
  simp only [hpack]

protected theorem neg_neg (x : Float) : - -x = x := by
  obtain ⟨u, rfl⟩ := exists_ofModel_pack x
  rw [neg_ofModel_pack, neg_ofModel_pack, unpacked_neg_neg]

theorem isInf_neg (x : Float) : (-x).isInf = x.isInf := by
  obtain ⟨u, rfl⟩ := exists_ofModel_pack x
  rw [neg_ofModel_pack]
  show (UnpackedFloat.unpack .binary64 (u.neg.pack .binary64)).isInf =
    (UnpackedFloat.unpack .binary64 (u.pack .binary64)).isInf
  rw [unpack_pack_neg]
  cases UnpackedFloat.unpack .binary64 (u.pack .binary64) <;> rfl

/-! ### Rounding -/

theorem round_neg (s : UnpackedFloat.Sign) (m : Nat) (e : Int) :
    UnpackedFloat.round .binary64 (-s) m e = (UnpackedFloat.round .binary64 s m e).neg := by
  simp only [UnpackedFloat.round, UnpackedFloat.roundWithAccuracy]
  split_ifs <;> rfl

theorem normalize_neg {m : Int} (hm : m ≠ 0) (e : Int) (zeroSign : UnpackedFloat.Sign) :
    UnpackedFloat.normalize .binary64 (-m) e zeroSign =
      (UnpackedFloat.normalize .binary64 m e zeroSign).neg := by
  rcases lt_or_gt_of_ne hm with h | h
  · have hneg : 0 < -m := by omega
    simp only [UnpackedFloat.normalize, compare_lt_iff_lt.mpr h, compare_gt_iff_gt.mpr hneg]
    exact round_neg .negative _ e
  · have hneg : -m < 0 := by omega
    simp only [UnpackedFloat.normalize, compare_gt_iff_gt.mpr h, compare_lt_iff_lt.mpr hneg, neg_neg]
    exact round_neg .positive _ e

theorem ofScaled_neg {m : Int} (hm : m ≠ 0) (e : Int) : ofScaled (-m) e = -ofScaled m e := by
  unfold ofScaled
  rw [normalize_neg hm, neg_ofModel_pack]

/-- Rounding goes alike on both sides of zero. -/
theorem ofInt?_neg {n : Int} (hn : n ≠ 0) : ofInt? (-n) = (ofInt? n).map (-·) := by
  simp only [ofInt?, ofScaled_neg hn, isInf_neg]
  split_ifs <;> rfl

/-- The second double is the first with its sign turned; a zero is opposed to itself. -/
def Opposed (x y : Float) : Prop := y = -x ∨ x = zero ∧ y = zero

end Double

namespace Number

theorem neg_neg (n : Number) : n.neg.neg = n := by
  cases n with
  | int n => exact congrArg Number.int (Int.neg_neg n)
  | float x => exact congrArg Number.float (Double.neg_neg x)

end Number

/-- A number with its sign turned becomes the opposed double. -/
theorem Datum.floatOf_neg {n : Number} {x : Float} (h : Datum.floatOf n = .ok x) :
    ∃ y, Datum.floatOf n.neg = .ok y ∧ Double.Opposed x y := by
  cases n with
  | float z =>
    cases h
    exact ⟨-x, rfl, .inl rfl⟩
  | int n =>
    by_cases hn : n = 0
    · subst hn
      have hzero : Datum.floatOf (.int 0) = .ok Double.zero := by decide +kernel
      rw [hzero] at h
      cases h
      exact ⟨Double.zero, hzero, .inr ⟨rfl, rfl⟩⟩
    · simp only [Datum.floatOf, Number.toFloat?] at h
      cases hfloat : Double.ofInt? n with
      | none => simp [hfloat] at h
      | some z =>
        simp only [hfloat, Except.ok.injEq] at h
        subst h
        refine ⟨-z, ?_, .inl rfl⟩
        simp [Datum.floatOf, Number.neg, Number.toFloat?, Double.ofInt?_neg hn, hfloat]

end SpriteStage
