import SpriteStage.Datum.Basic
import SpriteStage.Number.Reading
import SpriteStage.Text.Hex

/-!
# Reading JSON

A text is read as one JSON value with blanks around it. Beyond the standard, the bare words `NaN`,
`Infinity` and `-Infinity` are numbers, and a double beyond the range of doubles is an infinity. Of
equal keys in an object the last value counts, at the place of the first; they are sorted out when
the whole text has been read. A whole number of more than 4300 digits is refused as soon as it is
met.
-/

namespace SpriteStage.Json

/-- Why a text is not read. -/
inductive Problem where
  /-- It is not JSON. -/
  | malformed
  /-- It holds a whole number of so many digits, which are too many. -/
  | tooLong (digits : Nat)
  deriving DecidableEq

/-- Whether a character may stand between the parts of a value. -/
def isBlank (c : Char) : Bool := c == ' ' || c == '\t' || c == '\n' || c == '\r'

/-- The text without the blanks at its front. -/
def skipBlanks (cs : List Char) : List Char := cs.dropWhile isBlank

/-- The value of four digits in base sixteen. -/
def hexUnit? (a b c d : Char) : Option Nat := do
  let values ← [a, b, c, d].mapM Text.hexValue?
  return values.foldl (16 * · + ·) 0

/-- The character that a letter after a backslash stands for. -/
def escaped? : Char → Option Char
  | '\x22' => some '\x22'
  | '\\' => some '\\'
  | '/' => some '/'
  | 'b' => some '\x08'
  | 'f' => some '\x0c'
  | 'n' => some '\n'
  | 'r' => some '\r'
  | 't' => some '\t'
  | _ => none

/-- Whether a code unit is the first half of a pair. -/
def isHigh (unit : Nat) : Bool := 0xd800 ≤ unit && unit < 0xdc00

/-- Whether a code unit is the second half of a pair. -/
def isLow (unit : Nat) : Bool := 0xdc00 ≤ unit && unit < 0xe000

/-- The character that a pair of units stands for. -/
def paired (high low : Nat) : Char :=
  Char.ofNat (0x10000 + (high - 0xd800) * 0x400 + (low - 0xdc00))

/-- Half of a pair that has no other half is no character. It is read as one for private use, of
which each half has its own. -/
def single (unit : Nat) : Char := Char.ofNat (unit + 0x102000)

/-- The characters read so far in reverse, after a high unit has waited in vain. -/
def flush (acc : List Char) : Option Nat → List Char
  | some high => single high :: acc
  | none => acc

/-- Reads the inside of a string up to its closing quote, onto the characters read so far in
reverse. A high unit waits for the low unit that completes its character. -/
def readString (acc : List Char) (high : Option Nat) :
    List Char → Except Problem (String × List Char)
  | '\x22' :: rest => .ok (String.ofList (flush acc high).reverse, rest)
  | '\\' :: 'u' :: a :: b :: c :: d :: rest =>
    match hexUnit? a b c d with
    | none => .error .malformed
    | some unit =>
      if isHigh unit then readString (flush acc high) (some unit) rest
      else if isLow unit then
        match high with
        | some first => readString (paired first unit :: acc) none rest
        | none => readString (single unit :: acc) none rest
      else readString (Char.ofNat unit :: flush acc high) none rest
  | '\\' :: letter :: rest =>
    match escaped? letter with
    | none => .error .malformed
    | some c => readString (c :: flush acc high) none rest
  | c :: rest =>
    if c.toNat < 0x20 || c == '\\' then .error .malformed
    else readString (c :: flush acc high) none rest
  | [] => .error .malformed

/-- Splits off the digits of an exponent, with its mark and sign, if there is a whole one. -/
def splitExponent : List Char → Option Int × List Char
  | mark :: rest =>
    let (negative, digits) := Number.splitSign rest
    let (run, after) := digits.span Char.isDigit
    if (mark == 'e' || mark == 'E') && !run.isEmpty then
      let size : Int := Number.digitsValue run
      (some (if negative then -size else size), after)
    else (none, mark :: rest)
  | [] => (none, [])

/-- Splits off a fraction, if a digit follows its point. -/
def splitFraction : List Char → Option (List Char) × List Char
  | '.' :: rest =>
    let (run, after) := rest.span Char.isDigit
    if run.isEmpty then (none, '.' :: rest) else (some run, after)
  | rest => (none, rest)

/-- Splits off the digits before a fraction; after a leading zero there are no more. -/
def splitWhole : List Char → List Char × List Char
  | '0' :: rest => (['0'], rest)
  | cs => cs.span Char.isDigit

/-- Reads a number after its sign. -/
def readNumber (negative : Bool) (cs : List Char) : Except Problem (Datum × List Char) :=
  let (whole, rest) := splitWhole cs
  let (fraction, rest) := splitFraction rest
  let (exponent, rest) := splitExponent rest
  if whole.isEmpty then .error .malformed
  else if fraction.isNone && exponent.isNone then
    if Number.maxDigits < whole.length then .error (.tooLong whole.length)
    else
      let size : Int := Number.digitsValue whole
      .ok (.int (if negative then -size else size), rest)
  else
    let digits := fraction.getD []
    let size := Number.ofDigits (whole ++ digits) (exponent.getD 0 - digits.length)
    .ok (.float (if negative then -size else size), rest)

/-- Reads a word or a number. -/
def readScalar : List Char → Except Problem (Datum × List Char)
  | 'n' :: 'u' :: 'l' :: 'l' :: rest => .ok (.null, rest)
  | 't' :: 'r' :: 'u' :: 'e' :: rest => .ok (.bool true, rest)
  | 'f' :: 'a' :: 'l' :: 's' :: 'e' :: rest => .ok (.bool false, rest)
  | 'N' :: 'a' :: 'N' :: rest => .ok (.float Double.nan, rest)
  | 'I' :: 'n' :: 'f' :: 'i' :: 'n' :: 'i' :: 't' :: 'y' :: rest =>
    .ok (.float Double.infinity, rest)
  | '-' :: 'I' :: 'n' :: 'f' :: 'i' :: 'n' :: 'i' :: 't' :: 'y' :: rest =>
    .ok (.float Double.negInfinity, rest)
  | '-' :: rest => readNumber true rest
  | cs => readNumber false cs

mutual

/-- Reads a value that starts at the front of the text. -/
def readValue : Nat → List Char → Except Problem (Datum × List Char)
  | 0, _ => .error .malformed
  | _ + 1, '\x22' :: rest => do
    let (s, rest) ← readString [] none rest
    return (.str s, rest)
  | fuel + 1, '\x5b' :: rest =>
    match skipBlanks rest with
    | '\x5d' :: rest => .ok (.list [], rest)
    | rest => readItems fuel [] rest
  | fuel + 1, '\x7b' :: rest =>
    match skipBlanks rest with
    | '\x7d' :: rest => .ok (.object [], rest)
    | rest => readFields fuel [] rest
  | _ + 1, cs => readScalar cs

/-- Reads the items of a list from the next one on, onto those read so far in reverse. -/
def readItems : Nat → List Datum → List Char → Except Problem (Datum × List Char)
  | 0, _, _ => .error .malformed
  | fuel + 1, acc, cs => do
    let (item, rest) ← readValue fuel cs
    match skipBlanks rest with
    | ',' :: rest => readItems fuel (item :: acc) (skipBlanks rest)
    | '\x5d' :: rest => .ok (.list (item :: acc).reverse, rest)
    | _ => .error .malformed

/-- Reads the fields of an object from the next one on, onto those read so far in reverse. -/
def readFields : Nat → Fields → List Char → Except Problem (Datum × List Char)
  | 0, _, _ => .error .malformed
  | fuel + 1, acc, '\x22' :: cs => do
    let (key, rest) ← readString [] none cs
    match skipBlanks rest with
    | ':' :: rest =>
      let (value, rest) ← readValue fuel (skipBlanks rest)
      let acc := (.text key, value) :: acc
      match skipBlanks rest with
      | ',' :: rest => readFields fuel acc (skipBlanks rest)
      | '\x7d' :: rest => .ok (.object acc.reverse, rest)
      | _ => .error .malformed
    | _ => .error .malformed
  | _ + 1, _, _ => .error .malformed

end

/-- Reads a whole text as one value, in which objects have all their fields, in the order of the
text. Each character gives rise to at most two steps. -/
def readAll (cs : List Char) : Except Problem Datum := do
  let (value, rest) ← readValue (2 * cs.length + 2) (skipBlanks cs)
  if (skipBlanks rest).isEmpty then .ok value else .error .malformed

mutual

/-- Leaves one field of those with equal keys, in all objects within the data. -/
def settle : Datum → Datum
  | .list items => .list (settleItems items)
  | .object fields => .object (Fields.merge [] (settleFields fields))
  | d => d
termination_by structural d => d

/-- Settles the items of a list. -/
def settleItems : List Datum → List Datum
  | [] => []
  | item :: rest => settle item :: settleItems rest
termination_by structural items => items

/-- Settles the values of fields. -/
def settleFields : List (Key × Datum) → Fields
  | [] => []
  | (key, value) :: rest => (key, settle value) :: settleFields rest
termination_by structural fields => fields

end

/-- Reads a whole text as one value. -/
def read (cs : List Char) : Except Problem Datum := return settle (← readAll cs)

end SpriteStage.Json
