import SpriteStage.Number.Basic
import SpriteStage.Text.Blank
import SpriteStage.Text.DecimalDigit

/-!
# Reading numbers

A number in text may have blanks around it and a sign before it. Its digits may be those of any
script, and a single underscore may stand between two digits. A double may have a fraction and an
exponent, or be one of the words for infinity and for what is no number, in any case. A whole number
of more than 4300 digits is refused for its length alone.
-/

namespace SpriteStage.Number

/-- The most digits that a whole number in text may have, be it read or written. -/
def maxDigits : Nat := 4300

/-- The text without blanks at its ends and with the digits of all scripts as ASCII digits. -/
def plain (s : String) : List Char :=
  (Text.trimBlanks s.toList).map fun c =>
    match Text.digitValue? c with
    | some d => Char.ofNat (48 + d)
    | none => c

/-- Splits a sign off; true for a minus. -/
def splitSign : List Char → Bool × List Char
  | '-' :: rest => (true, rest)
  | '+' :: rest => (false, rest)
  | rest => (false, rest)

/-- The value of ASCII digits. -/
def digitsValue (cs : List Char) : Nat := cs.foldl (fun n c => 10 * n + (c.toNat - 48)) 0

/-- Whether each underscore stands between two digits. -/
def underscoresWithin : List Char → Bool
  | [] => true
  | '_' :: _ => false
  | d :: '_' :: rest => d.isDigit && (rest.head?.any Char.isDigit) && underscoresWithin rest
  | _ :: rest => underscoresWithin rest

/-- Why a text is no whole number. -/
inductive IntProblem where
  /-- It is not written like one. -/
  | malformed
  /-- It begins like one of so many digits, which are too many. -/
  | tooLong (digits : Nat)
  deriving DecidableEq

/-- Reads a whole number. The length of the leading digits is looked at before what follows them. -/
def readInt (s : String) : Except IntProblem Int :=
  let (negative, body) := splitSign (plain s)
  let (run, rest) := body.span fun c => c.isDigit || c == '_'
  let digits := run.filter Char.isDigit
  if digits.isEmpty || !underscoresWithin run then .error .malformed
  else if maxDigits < digits.length then .error (.tooLong digits.length)
  else if !rest.isEmpty then .error .malformed
  else .ok (if negative then -digitsValue digits else digitsValue digits)

/-- The double nearest to the digits times a power of ten. A power far beyond the range of doubles
is brought near its end first: no digits of that number could make up for it. -/
def ofDigits (digits : List Char) (exponent : Int) : Float :=
  let significant := digits.dropWhile (· == '0')
  let bound : Int := 400 + significant.length
  let exponent := max (-bound) (min bound exponent)
  Float.ofScientific (digitsValue significant) (exponent < 0) exponent.natAbs

/-- Reads the exponent of a double; nothing but the end of the text may follow it. -/
def readExponent? : List Char → Option Int
  | [] => some 0
  | mark :: rest =>
    let (negative, digits) := splitSign rest
    if (mark == 'e' || mark == 'E') && !digits.isEmpty && digits.all Char.isDigit then
      some (if negative then -digitsValue digits else digitsValue digits)
    else none

/-- Reads an unsigned double in decimal. -/
def readDecimal? (cs : List Char) : Option Float :=
  let (whole, rest) := cs.span Char.isDigit
  let (fraction, rest) := match rest with
    | '.' :: rest => rest.span Char.isDigit
    | rest => ([], rest)
  if whole.isEmpty && fraction.isEmpty then none
  else (readExponent? rest).map fun e => ofDigits (whole ++ fraction) (e - fraction.length)

/-- Reads a double. -/
def readFloat? (s : String) : Option Float := do
  let cs := plain s
  guard (underscoresWithin cs)
  let (negative, body) := splitSign (cs.filter (· != '_'))
  let size ← match String.ofList (body.map Char.toLower) with
    | "inf" | "infinity" => some Double.infinity
    | "nan" => some Double.nan
    | _ => readDecimal? body
  return if negative then -size else size

end SpriteStage.Number
