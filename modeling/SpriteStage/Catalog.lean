import SpriteStage.Snapshot
import SpriteStage.Datum.Arithmetic
import SpriteStage.Settings
import SpriteStage.Supply

/-!
# New blocks and actors

A new block has the parameters that belong to its kind. A new actor has one of the costumes, is
named after it, and stands at a random place near the middle.
-/

namespace SpriteStage

/-- The parameters that a new block of a kind has. -/
def BlockKind.defaults : BlockKind → Fields
  | .move => [("steps", .int 10)]
  | .turn => [("degrees", .int 15)]
  | .goto => [("x", .int 0), ("y", .int 0)]
  | .loop => [("times", .int 10)]
  | .say => [("text", .str "Hello!"), ("seconds", .int 2)]
  | .think => [("text", .str "Hmm..."), ("seconds", .int 2)]

/-- The kind that data names; data that names none is a fault, which tells how it is written. -/
def BlockKind.require (kind : Datum) : Except Fault BlockKind := do
  match ← BlockKind.ofDatum kind with
  | some kind => return kind
  | none => throw (.unknownKind (← kind.written))

/-- Whether the fault is that of a kind that names no block. -/
def Fault.refusesKind : Fault → Bool
  | .unknownKind _ | .tooLongToWrite => true
  | _ => false

/-- The names that a further parameter of a new block cannot have, because they stand for what the
block is made from. -/
def Block.takenNames : List Key := ["kind", "block_id"]

/-- Why further parameters cannot be given: one of them has a name that is taken. -/
def Block.overrideFault? (overrides : Fields) : Option Fault :=
  overrides.findSome? fun
    | (.text name, _) => if .text name ∈ Block.takenNames then some (.takenName name) else none
    | _ => none

/-- A new block of a kind, with further parameters put in. An identifier is drawn if the given one
does not count as true. -/
def Block.create (kind id : Datum) (overrides : Fields) (s : Supply) :
    Except Fault (Block × Supply) := do
  if let some fault := Block.overrideFault? overrides then throw fault
  let kind ← BlockKind.require kind
  let (id, s) :=
    if id.truthy then (id, s)
    else
      let (drawn, s) := s.drawBlockId
      (.str drawn, s)
  return ({ id, kind := .str kind.name, params := .object (kind.defaults.merge overrides) }, s)

/-- What an actor can look like. -/
structure Costume where
  name : String
  emoji : String
  color : String
  deriving Inhabited

namespace Costume

/-- The costume of the first actor. -/
def cat : Costume := ⟨"Cat", "🐱", "bg-orange-200"⟩

/-- The other costumes. -/
def others : List Costume := [
  ⟨"Dog", "🐶", "bg-amber-200"⟩,
  ⟨"Rabbit", "🐰", "bg-gray-200"⟩,
  ⟨"Panda", "🐼", "bg-gray-100"⟩,
  ⟨"Fox", "🦊", "bg-amber-300"⟩,
  ⟨"Bear", "🐻", "bg-amber-700"⟩,
  ⟨"Frog", "🐸", "bg-green-300"⟩,
  ⟨"Monkey", "🐵", "bg-amber-400"⟩,
  ⟨"Tiger", "🐯", "bg-yellow-300"⟩]

/-- All costumes, in order. -/
def all : List Costume := cat :: others

/-- The costume of a number; a negative number counts from the end. -/
def ofNumber (n : Int) : Except Fault Costume :=
  let i := if n < 0 then n + all.length else n
  match if 0 ≤ i then all[i.toNat]? else none with
  | some c => .ok c
  | none => .error .noSuchCostume

end Costume

namespace Actor

/-- An actor in a costume, looking in the home direction. -/
def inCostume (id name : String) (c : Costume) : Actor :=
  { id := .str id, name := .str name, direction := .float Settings.standard.home,
    costume := .str c.emoji, costumeBg := .str c.color }

/-- A random number from zero to one spread over a hundred units around the middle. -/
def spread (r : Number) : Except Fault Datum :=
  Datum.ofNumber? do (← r.mul? (.int 100)).sub? (.int 50)

/-- A new actor, named after its costume and its ordinal. A costume is drawn only if none is given,
and before the identifier and the place. -/
def create (ordinal : Datum) (costume : Option Costume) (s : Supply) :
    Except Fault (Actor × Supply) := do
  let (costume, s) := match costume with
    | some c => (c, s)
    | none =>
      let (i, s) := s.choose Costume.all.length
      (Costume.all.getD i .cat, s)
  let (id, s) := s.drawActorId
  let (x, s) := s.random
  let (y, s) := s.random
  let number ← ordinal.text
  let actor := inCostume id (costume.name ++ " " ++ number) costume
  return ({ actor with x := ← spread x, y := ← spread y }, s)

end Actor

/-- The snapshot that a stage starts from: one actor without a program. -/
def Snapshot.initial : Snapshot :=
  let actor := Actor.inCostume "sprite1" Costume.cat.name .cat
  { actors := [actor], activeActorId := actor.id }

end SpriteStage
