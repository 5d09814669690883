import SpriteStage.Datum.Basic
import SpriteStage.Number.Notation

/-!
# Data in messages

Data in a message is written as a reader of the message expects it: a text as it is, anything else
in a bracketed form in which the texts are quoted. Data that holds a whole number of too many digits
cannot be written, be the number in a key or in a value, at any depth.
-/

namespace SpriteStage

/-- Whether the key can be written. -/
def Key.isWritable : Key → Bool
  | .num n => n.isWritable
  | _ => true

namespace Datum

/-! ### What can be written -/

mutual

/-- Whether the data can be written: none of its numbers is too long. -/
def isWritable : Datum → Bool
  | .num n => n.isWritable
  | .list items => allWritable items
  | .object fields => fieldsWritable fields
  | _ => true
termination_by structural x => x

/-- Whether all items of a list can be written. -/
def allWritable : List Datum → Bool
  | [] => true
  | item :: rest => item.isWritable && allWritable rest
termination_by structural x => x

/-- Whether all keys and values of an object can be written. -/
def fieldsWritable : List (Key × Datum) → Bool
  | [] => true
  | (key, value) :: rest => key.isWritable && value.isWritable && fieldsWritable rest
termination_by structural x => x

end

/-- A form of the data, if the data can be written. -/
def writing (d : Datum) (form : String) : Except Fault String :=
  if d.isWritable then .ok form else .error .tooLongToWrite

/-! ### The forms -/

/-- The words for doubles without digits in messages. -/
def messageWords : Number.Words := ⟨"nan", "inf"⟩

/-- The form of a key, in which a text is quoted. -/
def keyForm : Key → String
  | .null => "None"
  | .bool true => "True"
  | .bool false => "False"
  | .num n => n.numeral messageWords
  | .text s => Text.quoted s

mutual

/-- The bracketed form of data, in which texts are quoted. -/
def form : Datum → String
  | .null => "None"
  | .bool true => "True"
  | .bool false => "False"
  | .num n => n.numeral messageWords
  | .str s => Text.quoted s
  | .list items => "[" ++ ", ".intercalate (itemForms items) ++ "]"
  | .object fields => "\x7b" ++ ", ".intercalate (fieldForms fields) ++ "\x7d"
termination_by structural x => x

/-- The bracketed forms of the items of a list. -/
def itemForms : List Datum → List String
  | [] => []
  | item :: rest => item.form :: itemForms rest
termination_by structural x => x

/-- The bracketed forms of the fields of an object. -/
def fieldForms : List (Key × Datum) → List String
  | [] => []
  | (key, value) :: rest => (keyForm key ++ ": " ++ value.form) :: fieldForms rest
termination_by structural x => x

end

/-- What an identifier or a name is called in a line of text. Both are texts by their declaration, so
that they can always be written; anything else goes by its form. -/
def label : Datum → String
  | .str s => s
  | d => d.form

/-- Data in its bracketed form, texts quoted. -/
def written (d : Datum) : Except Fault String := d.writing d.form

/-- Data as it stands in a message: a text is not quoted. -/
def text (d : Datum) : Except Fault String := d.writing d.label

end Datum

end SpriteStage
