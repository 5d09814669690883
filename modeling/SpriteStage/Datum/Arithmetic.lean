import SpriteStage.Datum.Basic

/-!
# Arithmetic on data

Parameters and attributes are used as numbers, and whether they are some shows only then. A truth
value counts as one or zero. Texts convert to numbers by `Number.readFloat?` and `Number.readInt`,
but do not take part in sums.
-/

namespace SpriteStage.Datum

/-- A number as a double. -/
def floatOf (n : Number) : Except Fault Float :=
  match n.toFloat? with
  | some x => .ok x
  | none => .error .intTooLarge

/-- The value as a double; texts are read. -/
def toFloat (d : Datum) : Except Fault Float :=
  match d, d.asNumber? with
  | _, some n => floatOf n
  | .str s, _ =>
    match Number.readFloat? s with
    | some x => .ok x
    | none => .error (.notFloatText s)
  | d, _ => .error (.notFloat d.kind)

/-- The value as a whole number; texts are read, doubles lose their fraction. -/
def toInt : Datum → Except Fault Int
  | .bool b => .ok (if b then 1 else 0)
  | .num (.int n) => .ok n
  | .num (.float x) =>
    match Double.truncate? x with
    | some n => .ok n
    | none => .error (if x.isNaN then .nanToInt else .infinityToInt)
  | .str s =>
    match Number.readInt s with
    | .ok n => .ok n
    | .error .malformed => .error (.notIntText s)
    | .error (.tooLong digits) => .error (.tooManyDigits digits)
  | d => .error (.notInt d.kind)

/-- The value as an angle in degrees, in radians; texts are not read. -/
def toRadians (d : Datum) : Except Fault Float :=
  match d.asNumber? with
  | some n => (floatOf n).map Double.radians
  | none => .error (.notReal d.kind)

/-- The result of an operation that fails for a whole number beyond the range of doubles. -/
def ofNumber? (n : Option Number) : Except Fault Datum :=
  match n with
  | some n => .ok (.num n)
  | none => .error .intTooLarge

/-- Why two pieces of data of these kinds have no sum: to a text or a list, only its like can be
appended. -/
def noSum (left right : DataKind) : Fault :=
  if left = .string ∨ left = .list then .badConcatenation left right
  else .badOperands .add left right

/-- The sum of two numbers, or two texts or two lists one after the other. -/
def add (a b : Datum) : Except Fault Datum :=
  match a.asNumber?, b.asNumber? with
  | some m, some n => ofNumber? (m.add? n)
  | _, _ =>
    match a, b with
    | .str s, .str t => .ok (.str (s ++ t))
    | .list xs, .list ys => .ok (.list (xs ++ ys))
    | _, _ => .error (noSum a.kind b.kind)

/-- The sum of a number and a double. -/
def addFloat (d : Datum) (x : Float) : Except Fault Float :=
  match d.asNumber? with
  | some n => (floatOf n).map (· + x)
  | none => .error (noSum d.kind .float)

/-- The sum of a number and data that counts as one. -/
def addTo (n : Number) (d : Datum) : Except Fault Number :=
  match d.asNumber? with
  | some m =>
    match n.add? m with
    | some sum => .ok sum
    | none => .error .intTooLarge
  | none => .error (noSum (Datum.num n).kind d.kind)

/-- The difference of two numbers. -/
def sub (a b : Datum) : Except Fault Datum :=
  match a.asNumber?, b.asNumber? with
  | some m, some n => ofNumber? (m.sub? n)
  | _, _ => .error (.badOperands .sub a.kind b.kind)

/-- Half of a number; half of a whole number is a double. -/
def half (d : Datum) : Except Fault Float :=
  match d.asNumber? with
  | some (.int n) =>
    match Double.halfOfInt? n with
    | some x => .ok x
    | none => .error .quotientTooLarge
  | some (.float x) => .ok (x / 2.0)
  | none => .error (.badOperands .div d.kind .int)

end SpriteStage.Datum
