import SpriteStage.Json.Reader

/-!
# The grammar of JSON

What a text has to be like to be JSON, rule by rule as the standard has it. The reader takes more
than that, and the writer writes more than that, namely the bare words for doubles without digits;
so neither of them can tell what JSON is.

A text is a value with blanks around it. The rules for values, for what stands in the brackets of a
list and for what stands in the braces of an object refer to each other; they are one inductive
relation between parts of the grammar and texts (`Json.Derives`).
-/

namespace SpriteStage.Json

/-! ### Numbers -/

/-- One digit or more. -/
def Digits (cs : List Char) : Prop := cs ≠ [] ∧ ∀ c ∈ cs, c.isDigit

/-- A zero, or digits of which the first one is no zero. -/
def Whole (cs : List Char) : Prop := cs = ['0'] ∨ Digits cs ∧ cs.head? ≠ some '0'

/-- Nothing, or a point and digits. -/
inductive Fraction : List Char → Prop
  | absent : Fraction []
  | present {digits : List Char} : Digits digits → Fraction ('.' :: digits)

/-- Nothing, or a mark, perhaps a sign, and digits. -/
inductive Exponent : List Char → Prop
  | absent : Exponent []
  | present {mark : Char} {sign digits : List Char} : mark ∈ ['e', 'E'] →
      sign ∈ [[], ['+'], ['-']] → Digits digits → Exponent (mark :: (sign ++ digits))

/-- A number without a sign. -/
inductive Unsigned : List Char → Prop
  | mk {whole fraction exponent : List Char} : Whole whole → Fraction fraction → Exponent exponent →
      Unsigned (whole ++ fraction ++ exponent)

/-- A number: the only sign that it can have is a minus. -/
inductive Numeral : List Char → Prop
  | positive {cs : List Char} : Unsigned cs → Numeral cs
  | negative {cs : List Char} : Unsigned cs → Numeral ('-' :: cs)

/-! ### Strings -/

/-- The letters that can stand after a backslash for one character. -/
def letters : List Char := ['\x22', '\\', '/', 'b', 'f', 'n', 'r', 't']

/-- A digit in base sixteen. -/
def IsHex (c : Char) : Prop := (Text.hexValue? c).isSome

/-- What stands between the quotes of a string. -/
inductive Inside : List Char → Prop
  | nil : Inside []
  /-- A character that stands for itself: no control character, quote or backslash. -/
  | plain {c : Char} {cs : List Char} : 0x20 ≤ c.toNat → c ≠ '\x22' → c ≠ '\\' → Inside cs →
      Inside (c :: cs)
  /-- A character that a letter stands for. -/
  | letter {c : Char} {cs : List Char} : c ∈ letters → Inside cs → Inside ('\\' :: c :: cs)
  /-- A code unit. -/
  | unit {a b c d : Char} {cs : List Char} : IsHex a → IsHex b → IsHex c → IsHex d → Inside cs →
      Inside ('\\' :: 'u' :: a :: b :: c :: d :: cs)

/-- A string with its quotes. -/
inductive Quoted : List Char → Prop
  | mk {cs : List Char} : Inside cs → Quoted ('\x22' :: (cs ++ ['\x22']))

theorem Inside.append {cs cs' : List Char} (h : Inside cs) (h' : Inside cs') :
    Inside (cs ++ cs') := by
  induction h with
  | nil => exact h'
  | plain hctrl hquote hslash _ ih => exact .plain hctrl hquote hslash ih
  | letter hc _ ih => exact .letter hc ih
  | unit ha hb hc hd _ ih => exact .unit ha hb hc hd ih

/-! ### Values -/

/-- Nothing but blanks. -/
def Blanks (cs : List Char) : Prop := ∀ c ∈ cs, isBlank c

/-- The parts of the grammar whose rules refer to each other. -/
inductive Part where
  | value
  /-- A value with blanks around it. -/
  | text
  /-- What stands in the brackets of a list with items. -/
  | items
  /-- A key, a colon and a value. -/
  | member
  /-- What stands in the braces of an object with fields. -/
  | members

/-- The text is one for this part of the grammar. -/
inductive Derives : Part → List Char → Prop
  | null : Derives .value "null".toList
  | true : Derives .value "true".toList
  | false : Derives .value "false".toList
  | number {cs : List Char} : Numeral cs → Derives .value cs
  | string {cs : List Char} : Quoted cs → Derives .value cs
  | emptyList {cs : List Char} : Blanks cs → Derives .value ('\x5b' :: (cs ++ ['\x5d']))
  | list {cs : List Char} : Derives .items cs → Derives .value ('\x5b' :: (cs ++ ['\x5d']))
  | emptyObject {cs : List Char} : Blanks cs → Derives .value ('\x7b' :: (cs ++ ['\x7d']))
  | object {cs : List Char} : Derives .members cs → Derives .value ('\x7b' :: (cs ++ ['\x7d']))
  | text {before cs after : List Char} : Blanks before → Derives .value cs → Blanks after →
      Derives .text (before ++ cs ++ after)
  | lastItem {cs : List Char} : Derives .text cs → Derives .items cs
  | item {cs rest : List Char} : Derives .text cs → Derives .items rest →
      Derives .items (cs ++ ',' :: rest)
  | member {before key between cs : List Char} : Blanks before → Quoted key → Blanks between →
      Derives .text cs → Derives .member (before ++ key ++ between ++ ':' :: cs)
  | lastMember {cs : List Char} : Derives .member cs → Derives .members cs
  | members {cs rest : List Char} : Derives .member cs → Derives .members rest →
      Derives .members (cs ++ ',' :: rest)

/-- The text is JSON. -/
def IsText (cs : List Char) : Prop := Derives .text cs

theorem blanks_nil : Blanks [] := fun _ hmem => nomatch hmem

theorem IsText.of_value {cs : List Char} (h : Derives .value cs) : IsText cs := by
  have htext := Derives.text blanks_nil h blanks_nil
  rwa [List.nil_append, List.append_nil] at htext

/-- A blank before a part of the grammar that may begin with blanks. -/
theorem Derives.blank {part : Part} {cs : List Char} (h : Derives part cs) (hpart : part ≠ .value) :
    Derives part (' ' :: cs) := by
  induction h with
  | @text before _ _ hbefore hvalue hafter =>
    have hblanks : Blanks (' ' :: before) := List.forall_mem_cons.mpr ⟨rfl, hbefore⟩
    exact .text hblanks hvalue hafter
  | @member before _ _ _ hbefore hkey hbetween htext =>
    have hblanks : Blanks (' ' :: before) := List.forall_mem_cons.mpr ⟨rfl, hbefore⟩
    exact .member hblanks hkey hbetween htext
  | lastItem _ ih => exact .lastItem (ih nofun)
  | item _ hrest ih => exact .item (ih nofun) hrest
  | lastMember _ ih => exact .lastMember (ih nofun)
  | members _ hrest ih => exact .members (ih nofun) hrest
  | _ => exact absurd rfl hpart

end SpriteStage.Json
