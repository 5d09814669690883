/-!
# Digits in base sixteen

Codes of characters and octets are written in base sixteen, in lower case and filled up with zeros
to a width. When they are read, digits of both cases count.
-/

namespace SpriteStage.Text

/-- The lower case digits of a number, filled up with zeros to a width. -/
def hex (width n : Nat) : List Char :=
  let digits := Nat.toDigits 16 n
  List.replicate (width - digits.length) '0' ++ digits

/-- The value of a digit of either case. -/
def hexValue? (c : Char) : Option Nat :=
  if c.isDigit then some (c.toNat - 48)
  else if 'a' ≤ c && c ≤ 'f' then some (c.toNat - 87)
  else if 'A' ≤ c && c ≤ 'F' then some (c.toNat - 55)
  else none

end SpriteStage.Text
