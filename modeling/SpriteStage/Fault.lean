import SpriteStage.Text.Quoted
import SpriteStage.Number.Reading

/-!
# Faults

What can go wrong when data is used as what it is not, and how each case is worded. A fault ends the
operation that met it.
-/

namespace SpriteStage

/-- The word for a kind of data in the wording of faults. -/
inductive DataKind where
  | null | bool | int | float | string | list | object
  deriving DecidableEq

/-- How a kind of data is named. -/
def DataKind.name : DataKind → String
  | .null => "NoneType"
  | .bool => "bool"
  | .int => "int"
  | .float => "float"
  | .string => "str"
  | .list => "list"
  | .object => "dict"

/-- The arithmetic that can be asked of data. -/
inductive Operator where
  | add | sub | div
  deriving DecidableEq

/-- The sign of an operator. -/
def Operator.symbol : Operator → String
  | .add => "+"
  | .sub => "-"
  | .div => "/"

/-- What data is asked for that only objects have. -/
inductive ObjectView where
  /-- The value under a key. -/
  | lookup
  /-- The fields one after the other. -/
  | fields
  deriving DecidableEq

/-- How what only objects have is named. -/
def ObjectView.name : ObjectView → String
  | .lookup => "get"
  | .fields => "items"

/-- What is wrong with the host part of a request target. -/
inductive HostProblem where
  /-- One of the two square brackets is missing. -/
  | unbalanced
  /-- The address in brackets begins like one of a future kind and is none. -/
  | futureAddress
  /-- The address in brackets has no colon. -/
  | noColon
  /-- The port is no whole number. -/
  | portText
  /-- The port is not between 0 and 65535. -/
  | portRange
  deriving DecidableEq

/-- The wording of a problem with a host. -/
def HostProblem.message : HostProblem → String
  | .unbalanced => "Invalid IPv6 URL"
  | .futureAddress => "IPvFuture address is invalid"
  | .noColon => "The IPv6 content between brackets is not valid"
  | .portText => "Invalid URL: port can't be converted to integer"
  | .portRange => "Port out of range 0-65535"

/-- The cause of a failure. -/
inductive Fault where
  /-- Data of this kind has no value as a double. -/
  | notFloat (kind : DataKind)
  /-- A text is not written like a double. -/
  | notFloatText (text : String)
  /-- Data of this kind has no value as a whole number. -/
  | notInt (kind : DataKind)
  /-- A text is not written like a whole number. -/
  | notIntText (text : String)
  /-- A text has too many digits for a whole number. -/
  | tooManyDigits (digits : Nat)
  /-- A whole number has too many digits to be written. -/
  | tooLongToWrite
  /-- The whole part of what is no number is asked for. -/
  | nanToInt
  /-- The whole part of an infinity is asked for. -/
  | infinityToInt
  /-- A whole number is beyond the range of doubles. -/
  | intTooLarge
  /-- Half of a whole number is beyond the range of doubles. -/
  | quotientTooLarge
  /-- The direction is infinite. -/
  | infiniteAngle
  /-- Data of this kind is no angle. -/
  | notReal (kind : DataKind)
  /-- Data of these kinds cannot be combined. -/
  | badOperands (operator : Operator) (left right : DataKind)
  /-- Data of the second kind cannot be appended to data of the first. -/
  | badConcatenation (left right : DataKind)
  /-- No block has this kind; the text is the kind as written in messages. -/
  | unknownKind (written : String)
  /-- Data of this kind cannot be looked up. -/
  | unhashable (kind : DataKind)
  /-- Data of this kind has no entries. -/
  | notIterable (kind : DataKind)
  /-- An entry in a list of pairs is a sequence, of another length. -/
  | notPair (index length : Nat)
  /-- An entry in a list of pairs is no sequence. -/
  | notSequence (index : Nat)
  /-- Data of this kind cannot be merged into an object. -/
  | notMapping (kind : DataKind)
  /-- Data of this kind is no object and is asked for what only objects have. -/
  | notObject (kind : DataKind) (view : ObjectView)
  /-- Data of this kind cannot be compared with a whole number. -/
  | notOrdered (kind : DataKind)
  /-- A number of items is not given as a whole number. -/
  | notCount
  /-- A parameter of a new block has a name that stands for something else. -/
  | takenName (name : String)
  /-- There is no costume of this number. -/
  | noSuchCostume
  /-- The host part of a request target cannot be read. -/
  | badHost (problem : HostProblem)
  /-- A listener or a wait failed with this text. -/
  | broken (text : String)
  /-- Blocks or dispatches are nested deeper than the program follows them. -/
  | nestedTooDeep
  deriving DecidableEq

namespace Fault

/-- The fault of a computation that fails. -/
def of? {α : Type} : Except Fault α → Option Fault
  | .error fault => some fault
  | .ok _ => none

/-- The longest stretch of a text that is shown when it is refused as a whole number. -/
def shownLength : Nat := 200

/-- The wording of a fault. -/
def message : Fault → String
  | notFloat kind => "float() argument must be a string or a real number, not '" ++ kind.name ++ "'"
  | notFloatText text => "could not convert string to float: " ++ Text.quoted text
  | notInt kind =>
    "int() argument must be a string, a bytes-like object or a real number, not '" ++ kind.name ++
      "'"
  | notIntText text =>
    "invalid literal for int() with base 10: " ++
      String.ofList ((Text.quotedChars text).take shownLength)
  | tooManyDigits digits =>
    "Exceeds the limit (" ++ toString Number.maxDigits ++
      " digits) for integer string conversion: value has " ++ toString digits ++
      " digits; use sys.set_int_max_str_digits() to increase the limit"
  | tooLongToWrite =>
    "Exceeds the limit (" ++ toString Number.maxDigits ++
      " digits) for integer string conversion; use sys.set_int_max_str_digits() to increase the " ++
      "limit"
  | nanToInt => "cannot convert float NaN to integer"
  | infinityToInt => "cannot convert float infinity to integer"
  | intTooLarge => "int too large to convert to float"
  | quotientTooLarge => "integer division result too large for a float"
  | infiniteAngle => "math domain error"
  | notReal kind => "must be real number, not " ++ kind.name
  | badOperands operator left right =>
    "unsupported operand type(s) for " ++ operator.symbol ++ ": '" ++ left.name ++ "' and '" ++
      right.name ++ "'"
  | badConcatenation left right =>
    "can only concatenate " ++ left.name ++ " (not \"" ++ right.name ++ "\") to " ++ left.name
  | unknownKind written => "unknown block kind: " ++ written
  | unhashable kind => "unhashable type: '" ++ kind.name ++ "'"
  | notIterable kind => "'" ++ kind.name ++ "' object is not iterable"
  | notPair index length =>
    "dictionary update sequence element #" ++ toString index ++ " has length " ++ toString length ++
      "; 2 is required"
  | notSequence index =>
    "cannot convert dictionary update sequence element #" ++ toString index ++ " to a sequence"
  | notMapping kind => "'" ++ kind.name ++ "' object is not a mapping"
  | notObject kind view => "'" ++ kind.name ++ "' object has no attribute '" ++ view.name ++ "'"
  | notOrdered kind => "'>' not supported between instances of '" ++ kind.name ++ "' and 'int'"
  | notCount => "slice indices must be integers or None or have an __index__ method"
  | takenName name => "make_block() got multiple values for argument '" ++ name ++ "'"
  | noSuchCostume => "tuple index out of range"
  | badHost problem => problem.message
  | broken text => text
  | nestedTooDeep => "maximum recursion depth exceeded"

end Fault

section

variable {ε α β : Type} {x : Except ε α} {f : α → Except ε β}

/-- What comes to a value came to one at each step. -/
theorem of_bind_eq_ok {b : β} (h : x >>= f = .ok b) : ∃ a, x = .ok a ∧ f a = .ok b := by
  cases x with
  | error e => cases h
  | ok a => exact ⟨a, rfl, h⟩

/-- What fails did so at the first step or after it. -/
theorem of_bind_eq_error {e : ε} (h : x >>= f = .error e) :
    x = .error e ∨ ∃ a, x = .ok a ∧ f a = .error e := by
  cases x with
  | error e => exact .inl (by cases h; rfl)
  | ok a => exact .inr ⟨a, rfl, h⟩

end

end SpriteStage
