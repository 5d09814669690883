import SpriteStage.Datum.Basic

/-!
# Data as entries

An object has entries. A list has them too if each of its items is a pair: a list of two items, a
text of two characters, or an object of two fields, of which the keys count.
-/

namespace SpriteStage.Datum

/-- The items of data that is a sequence. -/
def sequence? : Datum → Option (List Datum)
  | .list items => some items
  | .str s => some (s.toList.map fun c => .str (String.singleton c))
  | .object fields => some (fields.map fun (key, _) => key.toDatum)
  | _ => none

/-- Puts items into fields as entries; `index` is the number of the first of them. -/
def putEntries (fields : Fields) (index : Nat) : List Datum → Except Fault Fields
  | [] => .ok fields
  | item :: rest =>
    match sequence? item with
    | none => .error (.notSequence index)
    | some [key, value] => do
      let key ← key.asKey
      putEntries (fields.put key value) (index + 1) rest
    | some items => .error (.notPair index items.length)

/-- The entries of data. -/
def entries (d : Datum) : Except Fault Fields :=
  match d with
  | .object fields => .ok fields
  | d =>
    match sequence? d with
    | some items => putEntries [] 0 items
    | none => .error (.notIterable d.kind)

end SpriteStage.Datum
