/-!
# UTF-8

Octets are read one character at a time. Where they are no character, what is refused is the longest
beginning of one, and at least one octet; reading can go on behind it.
-/

namespace SpriteStage.Text

/-- What a first octet promises: how many octets follow, the least and the greatest value of the
next of them, and the bits that the first octet itself holds. -/
structure Lead where
  tails : Nat
  low : Nat
  high : Nat
  bits : Nat

/-- The promise of a first octet, none for one that begins no character. -/
def lead? (b : UInt8) : Option Lead :=
  let b := b.toNat
  if b < 0x80 then some ⟨0, 0x80, 0xbf, b⟩
  else if b < 0xc2 then none
  else if b < 0xe0 then some ⟨1, 0x80, 0xbf, b - 0xc0⟩
  else if b == 0xe0 then some ⟨2, 0xa0, 0xbf, 0⟩
  else if b == 0xed then some ⟨2, 0x80, 0x9f, 0xd⟩
  else if b < 0xf0 then some ⟨2, 0x80, 0xbf, b - 0xe0⟩
  else if b == 0xf0 then some ⟨3, 0x90, 0xbf, 0⟩
  else if b < 0xf4 then some ⟨3, 0x80, 0xbf, b - 0xf0⟩
  else if b == 0xf4 then some ⟨3, 0x80, 0x8f, 4⟩
  else none

/-- Reads `tails` further octets, the next one within its bounds: the code point, if they are all
there, and how many octets were used. -/
def readTails : Nat → Nat → Nat → Nat → List UInt8 → Option Nat × Nat
  | 0, _, _, code, _ => (some code, 0)
  | _ + 1, _, _, _, [] => (none, 0)
  | tails + 1, low, high, code, b :: rest =>
    if low ≤ b.toNat && b.toNat ≤ high then
      let (code?, used) := readTails tails 0x80 0xbf (code * 64 + (b.toNat - 0x80)) rest
      (code?, used + 1)
    else (none, 0)

/-- The character at the front of the octets, if they begin with one, and how many octets it takes
beyond the first; otherwise how many more octets than the first are refused with it. -/
def readChar (b : UInt8) (rest : List UInt8) : Option Char × Nat :=
  match lead? b with
  | none => (none, 0)
  | some l =>
    let (code?, used) := readTails l.tails l.low l.high l.bits rest
    (code?.map Char.ofNat, used)

/-- Reads octets as characters; `none` stands for a stretch that is no character. -/
def decodeStretches (octets : List UInt8) : List (Option Char) :=
  go octets.length octets
where
  /-- Reads at most `fuel` characters. -/
  go : Nat → List UInt8 → List (Option Char)
    | _, [] => []
    | 0, _ => []
    | fuel + 1, b :: rest =>
      let (char?, used) := readChar b rest
      char? :: go fuel (rest.drop used)

/-- The text that the octets hold, if they are well formed. -/
def decodeUtf8? (octets : List UInt8) : Option (List Char) :=
  (decodeStretches octets).mapM id

/-- The text that the octets hold, with a replacement character for each stretch that is none. -/
def decodeUtf8Lossy (octets : List UInt8) : List Char :=
  (decodeStretches octets).map (·.getD '\uFFFD')

/-- The octets of a text. -/
def encodeUtf8 (cs : List Char) : List UInt8 :=
  cs.flatMap String.utf8EncodeChar

end SpriteStage.Text
