import SpriteStage.Number.Double

/-!
# Numbers

A number is a whole number of any size or a double, and keeps its kind: the negation of a whole
number is a whole number. Where the two kinds meet, the whole number becomes a double first, which
fails for one that is too large.
-/

namespace SpriteStage

/-- A whole number of any size, or a double. -/
inductive Number where
  | int (value : Int)
  | float (value : Float)
  deriving DecidableEq, Inhabited

namespace Number

/-- The number with its sign turned. -/
def neg : Number → Number
  | .int n => .int (-n)
  | .float x => .float (-x)

/-- The number as a double; none for a whole number beyond the range of doubles. -/
def toFloat? : Number → Option Float
  | .int n => Double.ofInt? n
  | .float x => some x

/-- Applies the operation of the kind that both numbers have, or that of doubles. -/
def combine? (ints : Int → Int → Int) (floats : Float → Float → Float) (a b : Number) :
    Option Number :=
  match a, b with
  | .int m, .int n => some (.int (ints m n))
  | a, b => do return .float (floats (← a.toFloat?) (← b.toFloat?))

/-- The sum; none if a whole number is too large to become a double. -/
def add? : Number → Number → Option Number := combine? (· + ·) (· + ·)

/-- The difference; none if a whole number is too large to become a double. -/
def sub? : Number → Number → Option Number := combine? (· - ·) (· - ·)

/-- The product; none if a whole number is too large to become a double. -/
def mul? : Number → Number → Option Number := combine? (· * ·) (· * ·)

/-- Compares by value, across the two kinds. -/
def compare? : Number → Number → Option Ordering
  | .int m, .int n => some (compare m n)
  | .float x, .float y => Double.compare? x y
  | .float x, .int n => Double.compareInt? x n
  | .int m, .float y => (Double.compareInt? y m).map Ordering.swap

/-- Whether the two are equal by value. -/
def sameValue (a b : Number) : Bool := a.compare? b == some .eq

/-- Whether the first is smaller by value. -/
def below (a b : Number) : Bool := a.compare? b == some .lt

/-- Whether the number is zero. -/
def isZero : Number → Bool
  | .int n => n == 0
  | .float x => x == Double.zero

end Number

end SpriteStage
