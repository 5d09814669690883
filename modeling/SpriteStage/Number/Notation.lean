import SpriteStage.Number.Reading
import SpriteStage.Number.Shortest

/-!
# How numbers are written

A whole number is written in decimal. A double is written with the fewest digits that read back:
positionally, with at least one digit on each side of the point, as long as its decimal exponent is
from -4 to 15, and otherwise with a signed exponent of at least two digits. So `1.0`, `0.0001`,
`1e-05`, `1e+16`. A whole number of more than 4300 digits has a numeral like any other, but cannot
be written.
-/

namespace SpriteStage.Number

/-- The words for the doubles that have no digits. -/
structure Words where
  nan : String
  infinity : String

/-- The digits with a point after the first `point` of them, filled up with zeros. -/
def positional (digits : List Char) (point : Int) : List Char :=
  let whole := digits.take point.toNat
  let zeros := List.replicate (point.toNat - digits.length) '0'
  let fraction := List.replicate (-point).toNat '0' ++ digits.drop point.toNat
  (if point ≤ 0 then ['0'] else whole ++ zeros) ++
    '.' :: (if fraction.isEmpty then ['0'] else fraction)

/-- The digits with a point after the first, if there are more, and the exponent of ten. -/
def scientific (digits : List Char) (exponent : Int) : List Char :=
  let power := Nat.toDigits 10 exponent.natAbs
  let mantissa := match digits with
    | first :: second :: more => first :: '.' :: second :: more
    | short => short
  mantissa ++ 'e' :: (if exponent < 0 then '-' else '+') ::
    List.replicate (2 - power.length) '0' ++ power

/-- The decimal, positionally where its first digit stands at a power of ten from -4 to 15. -/
def layout (d : Decimal) : List Char :=
  let digits := Nat.toDigits 10 d.digits
  let point := digits.length + d.exponent
  if -4 < point && point ≤ 16 then positional digits point else scientific digits (point - 1)

/-- The text of a double. -/
def floatText (words : Words) (x : Float) : String :=
  let sign (s : Float.Model.UnpackedFloat.Sign) (text : String) : String :=
    match s with
    | .positive => text
    | .negative => "-" ++ text
  match x.toModel.unpack with
  | .notANumber => words.nan
  | .infinity s => sign s words.infinity
  | .zero s => sign s "0.0"
  | .finite s m e _ => sign s (String.ofList (layout (Decimal.shortest m e)))

/-- The numeral of a number, whatever its length. -/
def numeral (words : Words) : Number → String
  | .int n => toString n
  | .float x => floatText words x

/-- Whether the number can be written: a whole number can, unless it has too many digits. -/
def isWritable : Number → Bool
  | .int n => (Nat.toDigits 10 n.natAbs).length ≤ maxDigits
  | .float _ => true

end SpriteStage.Number
