import SpriteStage.Datum.Written
import SpriteStage.Text.Hex

/-!
# Writing JSON

A value is written on one line, with a blank after each comma and colon and the fields of an object
in their order. Every key becomes a string. Everything beyond printable ASCII is escaped. A double
without digits is written as one of the bare words `NaN`, `Infinity` and `-Infinity`. A value with a
whole number of too many digits has a text like any other, but cannot be written.
-/

namespace SpriteStage.Json

/-- The words for doubles without digits. -/
def words : Number.Words := ⟨"NaN", "Infinity"⟩

/-- A code unit as an escape. -/
def unitEscape (unit : Nat) : List Char := '\\' :: 'u' :: Text.hex 4 unit

/-- A character inside a string. -/
def escape (c : Char) : List Char :=
  let n := c.toNat
  if c == '\x22' || c == '\\' then ['\\', c]
  else if c == '\n' then ['\\', 'n']
  else if c == '\r' then ['\\', 'r']
  else if c == '\t' then ['\\', 't']
  else if n == 0x0c then ['\\', 'f']
  else if n == 0x08 then ['\\', 'b']
  else if 0x20 ≤ n && n < 0x7f then [c]
  else if n < 0x10000 then unitEscape n
  else unitEscape (0xd800 + (n - 0x10000) / 0x400) ++ unitEscape (0xdc00 + (n - 0x10000) % 0x400)

/-- A text as a string. -/
def stringText (s : String) : String :=
  String.ofList ('\x22' :: s.toList.flatMap escape ++ ['\x22'])

/-- The text of a key before it is put in quotes; what is no text is written like the value. -/
def keyText : Key → String
  | .null => "null"
  | .bool true => "true"
  | .bool false => "false"
  | .num n => n.numeral words
  | .text s => s

mutual

/-- The text of a value, whatever the length of its numbers. -/
def textOf : Datum → String
  | .null => "null"
  | .bool true => "true"
  | .bool false => "false"
  | .num n => n.numeral words
  | .str s => stringText s
  | .list items => "[" ++ ", ".intercalate (itemTexts items) ++ "]"
  | .object fields => "\x7b" ++ ", ".intercalate (fieldTexts fields) ++ "\x7d"
termination_by structural x => x

/-- The texts of the items of a list. -/
def itemTexts : List Datum → List String
  | [] => []
  | item :: rest => textOf item :: itemTexts rest
termination_by structural x => x

/-- The texts of the fields of an object. -/
def fieldTexts : List (Key × Datum) → List String
  | [] => []
  | (key, value) :: rest => (stringText (keyText key) ++ ": " ++ textOf value) :: fieldTexts rest
termination_by structural x => x

end

/-- Writes a value. -/
def write (d : Datum) : Except Fault String := d.writing (textOf d)

end SpriteStage.Json
