import SpriteStage.Text.Hex
import SpriteStage.Text.Printable

/-!
# Quoted text

Text in messages is quoted with single quotes, or with double quotes if it holds a single quote and
no double quote. Inside, the quote and the backslash get a backslash, line feed, carriage return and
tab have letters, and every other character that is not printable is written by its code.
-/

namespace SpriteStage.Text

/-- A character inside quoted text. -/
def escape (quote c : Char) : List Char :=
  if c == quote || c == '\\' then ['\\', c]
  else if c == '\n' then ['\\', 'n']
  else if c == '\r' then ['\\', 'r']
  else if c == '\t' then ['\\', 't']
  else if isPrintable c then [c]
  else if c.toNat < 0x100 then '\\' :: 'x' :: hex 2 c.toNat
  else if c.toNat < 0x10000 then '\\' :: 'u' :: hex 4 c.toNat
  else '\\' :: 'U' :: hex 8 c.toNat

/-- The quote that is used as long as nothing speaks against it. -/
def singleQuote : Char := '\x27'

/-- The quote for a text that holds a single quote only. -/
def doubleQuote : Char := '\x22'

/-- The quote that encloses a text. -/
def quoteFor (cs : List Char) : Char :=
  if cs.contains singleQuote && !cs.contains doubleQuote then doubleQuote else singleQuote

/-- The characters of the quoted text. -/
def quotedChars (s : String) : List Char :=
  let quote := quoteFor s.toList
  quote :: s.toList.flatMap (escape quote) ++ [quote]

/-- The quoted text. -/
def quoted (s : String) : String := String.ofList (quotedChars s)

end SpriteStage.Text
