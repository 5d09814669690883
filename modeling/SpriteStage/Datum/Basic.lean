import SpriteStage.Number.Basic
import SpriteStage.Fault

/-!
# Data

Nothing is assumed of the kind of a value. Identifiers, the kinds and parameters of blocks and the
attributes of actors hold data: nothing, a truth value, a number, a text, a list or an object. An
object is a list of fields in the order in which their keys were first put in; putting in a key that
is there keeps its place. A key is nothing, a truth value, a number or a text.
-/

namespace SpriteStage

/-- What the fields of an object are found by. -/
inductive Key where
  | null
  | bool (value : Bool)
  | num (value : Number)
  | text (value : String)
  deriving DecidableEq, Inhabited

namespace Key

instance : Coe String Key := ⟨.text⟩

/-- The number that a key counts as; a truth value counts as one or zero. -/
def asNumber? : Key → Option Number
  | .bool b => some (.int (if b then 1 else 0))
  | .num n => some n
  | _ => none

/-- Whether two keys are equal by value: numbers and truth values across their kinds. What is no
number is equal to nothing. -/
def same (a b : Key) : Bool :=
  match a, b with
  | .text s, .text t => s == t
  | .null, .null => true
  | a, b =>
    match a.asNumber?, b.asNumber? with
    | some m, some n => m.sameValue n
    | _, _ => false

@[simp] theorem same_text (s t : String) : same (.text s) (.text t) = (s == t) := rfl

end Key

/-- A piece of data. -/
inductive Datum where
  | null
  | bool (value : Bool)
  | num (value : Number)
  | str (value : String)
  | list (items : List Datum)
  | object (fields : List (Key × Datum))
  deriving Inhabited

/-- The fields of an object, in order. -/
abbrev Fields := List (Key × Datum)

namespace Fields

/-- The value under a key. -/
def get? (key : Key) : Fields → Option Datum
  | [] => none
  | (k, v) :: rest => if k.same key then some v else get? key rest

/-- Puts a value under a key: in its place if the key is there, otherwise at the end. A key that is
there stays as it was first put in. -/
def put (key : Key) (value : Datum) : Fields → Fields
  | [] => [(key, value)]
  | (k, v) :: rest => if k.same key then (k, value) :: rest else (k, v) :: put key value rest

/-- Puts all fields of the second object into the first, in their order. -/
def merge (fields more : Fields) : Fields :=
  more.foldl (fun acc (key, value) => put key value acc) fields

/-- Turns the sign of the value under a key, if that is a number. -/
def turn (key : Key) (fields : Fields) : Fields :=
  match fields.get? key with
  | some (.num n) => fields.put key (.num n.neg)
  | _ => fields

end Fields

/-- The key as data. -/
def Key.toDatum : Key → Datum
  | .null => .null
  | .bool b => .bool b
  | .num n => .num n
  | .text s => .str s

namespace Datum

/-- A whole number as data. -/
def int (n : Int) : Datum := .num (.int n)

/-- A double as data. -/
def float (x : Float) : Datum := .num (.float x)

/-- A text as data, nothing for none. -/
def ofText? : Option String → Datum
  | some s => .str s
  | none => .null

/-- The kind of the data. -/
def kind : Datum → DataKind
  | .null => .null
  | .bool _ => .bool
  | .num (.int _) => .int
  | .num (.float _) => .float
  | .str _ => .string
  | .list _ => .list
  | .object _ => .object

/-- Whether the data counts as true: it is not nothing, false, zero or empty. -/
def truthy : Datum → Bool
  | .null => false
  | .bool b => b
  | .num n => !n.isZero
  | .str s => s ≠ ""
  | .list items => !items.isEmpty
  | .object fields => !fields.isEmpty

/-- Data as a key. Lists and objects cannot be looked up. -/
def asKey (d : Datum) : Except Fault Key :=
  match d with
  | .null => .ok .null
  | .bool b => .ok (.bool b)
  | .num n => .ok (.num n)
  | .str s => .ok (.text s)
  | .list _ | .object _ => .error (.unhashable d.kind)

/-- The fields of an object, none of other data. -/
def fields : Datum → Fields
  | .object fields => fields
  | _ => []

/-- The value under a key, if the data is an object that has it. -/
def field? (key : String) (d : Datum) : Option Datum := d.fields.get? key

/-- The items of a list, none of other data. -/
def items : Datum → List Datum
  | .list items => items
  | _ => []

/-- The text, if the data is one. -/
def asText? : Datum → Option String
  | .str s => some s
  | _ => none

/-- The number that the data counts as; a truth value counts as one or zero. -/
def asNumber? : Datum → Option Number
  | .bool b => some (.int (if b then 1 else 0))
  | .num n => some n
  | _ => none

mutual

/-- Whether two pieces of data are equal by value: numbers and truth values across their kinds,
objects whatever the order of their fields. What is no number is equal to nothing. -/
def sameValue : Datum → Datum → Bool
  | .list items, .list others => sameItems items others
  | .object fields, .object others => fields.length == others.length && sameFields fields others
  | .str s, .str t => s == t
  | .null, .null => true
  | .bool b, other => other.asNumber?.any (Number.sameValue (.int (if b then 1 else 0)))
  | .num n, other => other.asNumber?.any (Number.sameValue n)
  | _, _ => false
termination_by structural x => x

/-- Whether two lists are equal item by item. -/
def sameItems : List Datum → List Datum → Bool
  | [], [] => true
  | x :: xs, y :: ys => sameValue x y && sameItems xs ys
  | _, _ => false
termination_by structural x => x

/-- Whether the second object has each field of the first, with an equal value. -/
def sameFields : List (Key × Datum) → Fields → Bool
  | [], _ => true
  | (key, value) :: rest, others =>
    (Fields.get? key others).any (sameValue value) && sameFields rest others
termination_by structural x => x

end

@[simp] theorem sameValue_str (s t : String) : sameValue (.str s) (.str t) = (s == t) := rfl

/-- Whether the data is the double that is no number. -/
def isNaN : Datum → Bool
  | .num (.float x) => x.isNaN
  | _ => false

/-- Whether two pieces of data count as one entry of a set: they are equal by value, or both are no
number. -/
def sameEntry (a b : Datum) : Bool := a.sameValue b || (a.isNaN && b.isNaN)

end Datum

end SpriteStage
