import SpriteStage.Datum.Basic

/-!
# Equality by value

Keys are equal by value in both directions or in neither, whatever their kinds
(`Datum.sameValue_comm`). For doubles this is read off their unpacked form, where a comparison the
other way round gives the other answer.
-/

namespace SpriteStage

namespace Double

open Float.Model

/-- To compare the other way round gives the other answer. -/
theorem compare_swap (u v : UnpackedFloat) : v.compare u = (u.compare v).map Ordering.swap := by
  have hfinite (e e' : Int) (m m' : Nat) : (compare e' e).then (compare m' m) =
      ((compare e e').then (compare m m')).swap := by
    rw [Ordering.swap_then, ← Std.OrientedCmp.eq_swap, ← Std.OrientedCmp.eq_swap]
  cases u with
  | notANumber => cases v <;> rfl
  | infinity s =>
    cases v with
    | infinity t => cases s <;> cases t <;> rfl
    | _ => cases s <;> rfl
  | zero s =>
    cases v with
    | infinity t => cases t <;> rfl
    | finite t => cases t <;> rfl
    | _ => rfl
  | finite s m e hm =>
    cases v with
    | notANumber => cases s <;> rfl
    | infinity t => cases s <;> cases t <;> rfl
    | zero t => cases s <;> rfl
    | finite t m' e' hm' =>
      cases s <;> cases t
      · exact congrArg some (congrArg Ordering.swap (hfinite e e' m m'))
      · rfl
      · rfl
      · exact congrArg some (hfinite e e' m m')

/-- Doubles compare as they do when unpacked. -/
theorem compare?_eq (x y : Float) :
    compare? x y = x.toModel.unpack.compare y.toModel.unpack := by
  have hlt (x y : Float) : x < y ↔ x.toModel.unpack.compare y.toModel.unpack = some .lt := by
    show Float.lt x y = true ↔ _
    simp [Float.lt, LT.lt, Float.Model.lt, UnpackedFloat.lt]
  have heq : x == y ↔ x.toModel.unpack.compare y.toModel.unpack = some .eq := by
    show (x.toModel.unpack.compare y.toModel.unpack == some .eq) = true ↔ _
    exact beq_iff_eq
  have hgt : y < x ↔ x.toModel.unpack.compare y.toModel.unpack = some .gt := by
    rw [hlt, compare_swap]
    cases x.toModel.unpack.compare y.toModel.unpack with
    | none => simp
    | some o => cases o <;> simp
  rw [compare?]
  simp only [hlt x y, heq, hgt]
  cases x.toModel.unpack.compare y.toModel.unpack with
  | none => rfl
  | some o => cases o <;> rfl

end Double

namespace Number

theorem compare?_swap (a b : Number) : b.compare? a = (a.compare? b).map Ordering.swap := by
  cases a with
  | int m =>
    cases b with
    | int n => exact congrArg some Std.OrientedCmp.eq_swap
    | float y =>
      simp only [compare?, Option.map_map]
      cases Double.compareInt? y m with
      | none => rfl
      | some o => cases o <;> rfl
  | float x =>
    cases b with
    | int n => rfl
    | float y =>
      simp only [compare?, Double.compare?_eq]
      exact Double.compare_swap _ _

theorem sameValue_comm (a b : Number) : a.sameValue b = b.sameValue a := by
  rw [sameValue, sameValue, compare?_swap a b]
  cases a.compare? b with
  | none => rfl
  | some o => cases o <;> rfl

end Number

namespace Datum

/-- The data can be looked up: it is neither a list nor an object. -/
def IsKey (d : Datum) : Prop := Fault.of? d.asKey = none

/-- **Keys are equal by value** in both directions or in neither. -/
theorem sameValue_comm {a b : Datum} (ha : a.IsKey) (hb : b.IsKey) :
    a.sameValue b = b.sameValue a := by
  cases a with
  | list | object => cases ha
  | null => cases b <;> simp [sameValue, asNumber?]
  | bool p =>
    cases b with
    | list | object => cases hb
    | null | str => rfl
    | bool q => exact Number.sameValue_comm _ _
    | num n => exact Number.sameValue_comm _ _
  | num m =>
    cases b with
    | list | object => cases hb
    | null | str => rfl
    | bool q => exact Number.sameValue_comm _ _
    | num n => exact Number.sameValue_comm _ _
  | str s =>
    cases b with
    | list | object => cases hb
    | str t =>
      rw [sameValue_str, sameValue_str]
      exact BEq.comm
    | null | bool | num => rfl

end Datum

end SpriteStage
