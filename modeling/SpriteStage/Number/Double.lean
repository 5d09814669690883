/-!
# Doubles as exact numbers

A finite double is a whole number times a power of two. The functions here use that: they compute
with the whole number exactly and round once at the end, to the nearest double, a tie going to the
even neighbour.
-/

namespace SpriteStage.Double

open Float.Model

/-- The double that is no number. -/
def nan : Float := .ofModel (pack .notANumber)

/-- Positive infinity. -/
def infinity : Float := .ofModel (pack (.infinity .positive))

/-- Negative infinity. -/
def negInfinity : Float := .ofModel (pack (.infinity .negative))

/-- Positive zero. -/
def zero : Float := .ofModel (pack (.zero .positive))

/-- The double nearest to `m * 2 ^ e`; an infinity where no double is large enough. -/
def ofScaled (m e : Int) : Float :=
  .ofModel (pack (UnpackedFloat.normalize .binary64 m e .positive))

/-- A finite double as `m * 2 ^ e`. -/
def scaled? (x : Float) : Option (Int × Int) :=
  match x.toModel.unpack with
  | .finite s m e _ => some (s.apply m, e)
  | .zero _ => some (0, 0)
  | .infinity _ | .notANumber => none

/-- The double nearest to a whole number, if its size is within the range of doubles. -/
def ofInt? (n : Int) : Option Float :=
  let x := ofScaled n 0
  if x.isInf then none else some x

/-- The double nearest to half a whole number, if its size is within the range of doubles. -/
def halfOfInt? (n : Int) : Option Float :=
  let x := ofScaled n (-1)
  if x.isInf then none else some x

/-- The whole part of a finite double, towards zero. -/
def truncate? (x : Float) : Option Int :=
  (scaled? x).map fun (m, e) =>
    if 0 ≤ e then m * Int.pow 2 e.toNat else m.tdiv (Int.pow 2 (-e).toNat)

/-- Compares a double with a whole number exactly; a double that is no number compares with none. -/
def compareInt? (x : Float) (n : Int) : Option Ordering :=
  match x.toModel.unpack with
  | .notANumber => none
  | .infinity .positive => some .gt
  | .infinity .negative => some .lt
  | .zero _ => some (compare 0 n)
  | .finite s m e _ =>
    let m := s.apply m
    if 0 ≤ e then some (compare (m * Int.pow 2 e.toNat) n)
    else some (compare m (n * Int.pow 2 (-e).toNat))

/-- Compares two doubles; the two zeros are equal, and what is no number compares with nothing. -/
def compare? (x y : Float) : Option Ordering :=
  if x < y then some .lt else if x == y then some .eq else if y < x then some .gt else none

/-- The remainder of `x` on division by a positive `n`, between zero and `n`. The exact remainder
has the sign of `x`; a negative one has `n` added, rounded, so that it can come out as `n`. -/
def floorMod (x : Float) (n : Nat) : Float :=
  match x.toModel.unpack with
  | .notANumber | .infinity _ => nan
  | .zero _ => zero
  | .finite s m e _ =>
    let r := if 0 ≤ e then m * Nat.pow 2 e.toNat % n else m % (n * Nat.pow 2 (-e).toNat)
    let e := min e 0
    match r, s with
    | 0, _ => zero
    | r + 1, .positive => ofScaled (r + 1) e
    | r + 1, .negative => ofScaled (-(r + 1)) e + ofScaled n 0

/-- The root of `square * 2 ^ (2 * e)`. It is rounded to as many bits as a double of usual size has,
and then to a double, which rounds it once more if doubles of its size have fewer bits. -/
def rootOfScaled (square : Nat) (e : Int) : Float :=
  if h : square = 0 then zero
  else
    let half : Int := square.log2 / 2
    let root := UnpackedFloat.sqrt .binary64
      (.finite .positive square (-2 * half) (Nat.pos_of_ne_zero h))
    match scaled? (.ofModel (pack root)) with
    | some (m, i) => ofScaled m (i + half + e)
    | none => zero

/-- The length of the vector of two finite sides: the root of the exact sum of their squares. -/
def lengthOf (m d n e : Int) : Float :=
  let low := min d e
  let squareOf (k i : Int) : Nat := Nat.pow k.natAbs 2 * Nat.pow 2 (2 * (i - low)).toNat
  rootOfScaled (squareOf m d + squareOf n e) low

/-- The size below which the length of a vector is found from the quotient of its sides. -/
def tiny : Float := ofScaled 1 (-1024)

/-- The length of the vector of two sides that are not negative, the second not zero and not the
shorter one, in doubles: the longer side times the root of one plus the square of the quotient. -/
def lengthByQuotient (short long : Float) : Float :=
  let q := short / long
  long * (1.0 + q * q).sqrt

/-- The length of the vector `(x, y)`. An infinite side makes the length infinite, whatever the
other side is. -/
def hypot (x y : Float) : Float :=
  if x.isInf || y.isInf then infinity else
  match scaled? x, scaled? y with
  | some (m, d), some (n, e) =>
    let (short, long) := if x.abs < y.abs then (x.abs, y.abs) else (y.abs, x.abs)
    if zero < long && long < tiny then lengthByQuotient short long else lengthOf m d n e
  | _, _ => nan

/-- An angle in degrees as radians. The factor is the quotient of the double nearest to the circle
constant by 180. -/
def radians (degrees : Float) : Float :=
  degrees * (.ofBits 0x400921FB54442D18 / 180.0)

end SpriteStage.Double
