import SpriteStage.Json.Writer
import SpriteStage.Proofs.Json.Grammar
import Mathlib.Tactic

/-!
# Numbers as they are written

Digits that are made from a number do not begin with a zero unless they are a single one. The
decimal that stands for a double that is no zero is no zero either
(`Decimal.shortest_digits_ne_zero`), so both layouts of it are numbers of the grammar
(`Number.unsigned_layout`).
-/

namespace SpriteStage

open Json

/-! ### Digits -/

namespace Json

/-- Zeros before digits. -/
theorem Digits.zeros {cs : List Char} (h : Digits cs) (n : Nat) :
    Digits (List.replicate n '0' ++ cs) := by
  refine ⟨List.append_ne_nil_of_right_ne_nil _ h.1, fun c hc => ?_⟩
  rcases List.mem_append.mp hc with hc | hc
  · cases List.eq_of_mem_replicate hc
    rfl
  · exact h.2 c hc

theorem digits_toDigits (n : Nat) : Digits (Nat.toDigits 10 n) :=
  ⟨Nat.toDigits_ne_nil, fun _ hc => Nat.isDigit_of_mem_toDigits (by omega) (by omega) hc⟩

theorem head?_toDigits {n : Nat} (hn : n ≠ 0) : (Nat.toDigits 10 n).head? ≠ some '0' := by
  have hdigit : ∀ d < 10, d ≠ 0 → Nat.digitChar d ≠ '0' := by decide
  induction n using Nat.strong_induction_on with
  | _ n ih =>
    by_cases hsmall : n < 10
    · rw [Nat.toDigits_of_lt_base hsmall]
      simpa using hdigit n hsmall hn
    · rw [Nat.toDigits_of_base_le (by omega) (by omega),
        List.head?_append_of_ne_nil _ Nat.toDigits_ne_nil]
      exact ih (n / 10) (by omega) (by omega)

theorem whole_toDigits (n : Nat) : Whole (Nat.toDigits 10 n) := by
  by_cases hn : n = 0
  · subst hn
    exact .inl rfl
  · exact .inr ⟨digits_toDigits n, head?_toDigits hn⟩

theorem Unsigned.of_whole {cs : List Char} (h : Whole cs) : Unsigned cs := by
  have hmk := Unsigned.mk h .absent .absent
  rwa [List.append_nil, List.append_nil] at hmk

end Json

/-! ### Decimals that stand for doubles -/

namespace Decimal

variable {m : Nat} {e : Int}

/-- Zero rounds to no double but zero. -/
theorem readsBack_zero (hm : 0 < m) (g : Int) : (⟨0, g⟩ : Decimal).readsBack m e = false := by
  have hbelow (low : Nat) (hlow : 0 < low) : compareScaled 0 g low (e - 2) = .lt := by
    have hpos : 0 < low * Nat.pow 2 (e - 2).toNat * Nat.pow 10 (-g).toNat :=
      Nat.mul_pos (Nat.mul_pos hlow (Nat.pow_pos (by decide))) (Nat.pow_pos (by decide))
    rw [compareScaled, Nat.zero_mul, Nat.zero_mul, Nat.compare_eq_lt]
    exact hpos
  unfold readsBack
  simp only
  split_ifs
  · simp [hbelow (4 * m - 1) (by omega)]
  · simp [hbelow (4 * m - 2) (by omega)]

theorem onGrid?_digits_ne_zero (hm : 0 < m) {g : Int} {d : Decimal} (h : onGrid? m e g = some d) :
    d.digits ≠ 0 := by
  have hback : (∃ low, d = ⟨low + 1, g⟩) ∨ d.readsBack m e := by
    unfold onGrid? at h
    simp only at h
    split at h <;> rename_i hbelow habove
    · split_ifs at h <;> cases h
      · exact .inl ⟨_, rfl⟩
      · exact .inr hbelow
    · cases h
      exact .inr hbelow
    · cases h
      exact .inl ⟨_, rfl⟩
    · cases h
  rcases hback with ⟨low, rfl⟩ | hback
  · exact Nat.succ_ne_zero low
  · rintro hzero
    obtain ⟨digits, exponent⟩ := d
    obtain rfl : digits = 0 := hzero
    rw [readsBack_zero hm] at hback
    cases hback

theorem strip_digits_ne_zero {d : Decimal} (h : d.digits ≠ 0) (fuel : Nat) :
    (d.strip fuel).digits ≠ 0 := by
  induction fuel generalizing d with
  | zero => exact h
  | succ fuel ih =>
    rw [strip]
    split_ifs with hten
    · simp only [Bool.and_eq_true, beq_iff_eq] at hten
      exact ih (d := ⟨d.digits / 10, d.exponent + 1⟩) (show d.digits / 10 ≠ 0 by omega)
    · exact h

/-- The decimal that stands for a double is zero for none but zero. -/
theorem shortest_digits_ne_zero (hm : 0 < m) (e : Int) : (shortest m e).digits ≠ 0 := by
  refine strip_digits_ne_zero ?_ 800
  generalize hfound : List.findSome? (onGrid? m e) _ = found
  cases found with
  | some d =>
    obtain ⟨g, -, hg⟩ := List.exists_of_findSome?_eq_some hfound
    exact onGrid?_digits_ne_zero hm hg
  | none =>
    have hpos : 0 < m * Nat.pow 2 e.toNat * Nat.pow 5 (-e).toNat :=
      Nat.mul_pos (Nat.mul_pos hm (Nat.pow_pos (by decide))) (Nat.pow_pos (by decide))
    exact Nat.ne_of_gt hpos

end Decimal

/-! ### Numbers -/

namespace Number

/-- The digits before a point that stands after the first of them or later. -/
theorem whole_take {digits : List Char} (hdigits : Digits digits)
    (hhead : digits.head? ≠ some '0') {n : Nat} (hn : 0 < n) (zeros : Nat) :
    Whole (digits.take n ++ List.replicate zeros '0') := by
  obtain ⟨hne, hall⟩ := hdigits
  cases digits with
  | nil => exact absurd rfl hne
  | cons first rest =>
    obtain ⟨n, rfl⟩ := Nat.exists_eq_add_one_of_ne_zero (Nat.ne_of_gt hn)
    refine .inr ⟨⟨by simp, fun c hc => ?_⟩, hhead⟩
    rcases List.mem_append.mp hc with hc | hc
    · exact hall c (List.mem_of_mem_take hc)
    · cases List.eq_of_mem_replicate hc
      rfl

theorem digits_orZero {fraction : List Char} (h : ∀ c ∈ fraction, c.isDigit) :
    Digits (if fraction.isEmpty then ['0'] else fraction) := by
  split_ifs with hempty
  · exact ⟨List.cons_ne_nil _ _, List.forall_mem_singleton.mpr (by decide)⟩
  · exact ⟨by simpa using hempty, h⟩

theorem unsigned_positional {digits : List Char} (hdigits : Digits digits)
    (hhead : digits.head? ≠ some '0') (point : Int) : Unsigned (positional digits point) := by
  have hfraction : Fraction ('.' ::
      let fraction := List.replicate (-point).toNat '0' ++ digits.drop point.toNat
      if fraction.isEmpty then ['0'] else fraction) := by
    refine .present (digits_orZero fun c hc => ?_)
    rcases List.mem_append.mp hc with hc | hc
    · cases List.eq_of_mem_replicate hc
      rfl
    · exact hdigits.2 c (List.mem_of_mem_drop hc)
  have hwhole : Whole (if point ≤ 0 then ['0'] else
      digits.take point.toNat ++ List.replicate (point.toNat - digits.length) '0') := by
    split_ifs with hpoint
    · exact .inl rfl
    · exact whole_take hdigits hhead (by omega) _
  have hmk := Unsigned.mk hwhole hfraction .absent
  rwa [List.append_nil] at hmk

theorem unsigned_scientific {digits : List Char} (hdigits : Digits digits)
    (hhead : digits.head? ≠ some '0') (exponent : Int) :
    Unsigned (scientific digits exponent) := by
  let power := Nat.toDigits 10 exponent.natAbs
  let sign : List Char := [if exponent < 0 then '-' else '+']
  have hexponent :
      Exponent ('e' :: (sign ++ (List.replicate (2 - power.length) '0' ++ power))) := by
    refine .present (by decide) ?_ ((digits_toDigits _).zeros _)
    simp only [sign]
    split_ifs <;> decide
  obtain ⟨hne, hall⟩ := hdigits
  rcases digits with _ | ⟨first, more⟩
  · exact absurd rfl hne
  have hfirst : Whole [first] :=
    .inr ⟨⟨List.cons_ne_nil _ _, fun c hc => hall c (List.mem_singleton.mp hc ▸ by simp)⟩, hhead⟩
  rcases more with _ | ⟨second, more⟩
  · have hmk := Unsigned.mk hfirst .absent hexponent
    simpa [scientific, sign, power] using hmk
  · have hfraction : Fraction ('.' :: second :: more) :=
      .present ⟨List.cons_ne_nil _ _, fun c hc => hall c (List.mem_cons_of_mem _ hc)⟩
    have hmk := Unsigned.mk hfirst hfraction hexponent
    simpa [scientific, sign, power] using hmk

/-- A decimal that is no zero is a number of the grammar, however it is laid out. -/
theorem unsigned_layout {d : Decimal} (h : d.digits ≠ 0) : Unsigned (layout d) := by
  unfold layout
  simp only
  split_ifs
  · exact unsigned_positional (digits_toDigits _) (head?_toDigits h) _
  · exact unsigned_scientific (digits_toDigits _) (head?_toDigits h) _

/-- Whether the number has digits: it is no infinity, and it is a number at all. -/
def isFinite : Number → Bool
  | .int _ => true
  | .float x => x.isFinite

theorem numeral_int (n : Int) : Numeral (toString n).toList := by
  cases n with
  | ofNat n =>
    have htext : (toString (Int.ofNat n)).toList = Nat.toDigits 10 n := Nat.toList_repr
    rw [htext]
    exact .positive (.of_whole (whole_toDigits n))
  | negSucc n =>
    have htext : (toString (Int.negSucc n)).toList = '-' :: Nat.toDigits 10 (n + 1) := by
      rw [← Nat.toList_repr]
      exact String.toList_append
    rw [htext]
    exact .negative (.of_whole (whole_toDigits (n + 1)))

open Float.Model in
/-- A number is written as the grammar has it, or as one of three words. -/
theorem numeral_cases (n : Number) :
    n.isFinite ∧ Numeral (n.numeral words).toList ∨
      n.isFinite = false ∧ n.numeral words ∈ ["NaN", "Infinity", "-Infinity"] := by
  cases n with
  | int n => exact .inl ⟨rfl, numeral_int n⟩
  | float x =>
    simp only [isFinite, Float.isFinite, Float.Model.isFinite, numeral, floatText]
    cases x.toModel.unpack with
    | notANumber => exact .inr ⟨rfl, .head _⟩
    | infinity s => cases s <;> exact .inr ⟨rfl, by decide⟩
    | zero s =>
      have hfraction : Fraction ['.', '0'] := .present (digits_toDigits 0)
      have hzero : Unsigned "0.0".toList := .mk (.inl rfl) hfraction .absent
      cases s with
      | positive => exact .inl ⟨rfl, .positive hzero⟩
      | negative => exact .inl ⟨rfl, .negative hzero⟩
    | finite s m e hm =>
      have hlayout := unsigned_layout (Decimal.shortest_digits_ne_zero hm e)
      cases s with
      | positive => exact .inl ⟨rfl, String.toList_ofList ▸ .positive hlayout⟩
      | negative =>
        refine .inl ⟨rfl, ?_⟩
        simp only [String.toList_append, String.toList_ofList]
        exact .negative hlayout

end Number

end SpriteStage
