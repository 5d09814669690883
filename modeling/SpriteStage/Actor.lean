import SpriteStage.Block.Edit

/-!
# Actors

An actor has an identifier, attributes that hold data of any kind, and a program. The message that
an actor shows is an attribute too: a bubble, or nothing.
-/

namespace SpriteStage

/-- What a speech or thought bubble says, and when it is due to go. -/
structure Bubble where
  kind : Datum
  text : Datum
  expiresAt : Datum

/-- A bubble as data. -/
def Bubble.toDatum (b : Bubble) : Datum :=
  .object [("kind", b.kind), ("text", b.text), ("expires_at", b.expiresAt)]

/-- The attributes of an actor that can be changed one by one. -/
inductive Attribute where
  | name | x | y | direction | costume | costumeBg | visible | width | height | message
  deriving DecidableEq

namespace Attribute

/-- All attributes, in the order in which they are shown. -/
def all : List Attribute :=
  [name, x, y, direction, costume, costumeBg, visible, width, height, message]

/-- The key of an attribute in a list of changes. -/
def key : Attribute → String
  | name => "name"
  | x => "x"
  | y => "y"
  | direction => "direction"
  | costume => "costume"
  | costumeBg => "costume_bg"
  | visible => "visible"
  | width => "width"
  | height => "height"
  | message => "message"

/-- The attribute of a key. -/
def ofKey? : Key → Option Attribute
  | .text s => all.find? (·.key = s)
  | _ => none

end Attribute

/-- An actor on the stage. Its direction is an angle in degrees. -/
structure Actor where
  id : Datum
  name : Datum
  x : Datum := .float 0.0
  y : Datum := .float 0.0
  direction : Datum := .float 90.0
  costume : Datum := .str ""
  costumeBg : Datum := .null
  visible : Datum := .bool true
  width : Datum := .float 50.0
  height : Datum := .float 50.0
  message : Datum := .null
  blocks : Forest := []
  deriving Inhabited

namespace Actor

/-- Whether the actor has this identifier. -/
def hasId (id : Datum) (a : Actor) : Bool := a.id.sameValue id

/-- The value of an attribute. -/
def get (a : Actor) : Attribute → Datum
  | .name => a.name
  | .x => a.x
  | .y => a.y
  | .direction => a.direction
  | .costume => a.costume
  | .costumeBg => a.costumeBg
  | .visible => a.visible
  | .width => a.width
  | .height => a.height
  | .message => a.message

/-- The actor with another value of an attribute. -/
def set (a : Actor) (which : Attribute) (value : Datum) : Actor :=
  match which with
  | .name => { a with name := value }
  | .x => { a with x := value }
  | .y => { a with y := value }
  | .direction => { a with direction := value }
  | .costume => { a with costume := value }
  | .costumeBg => { a with costumeBg := value }
  | .visible => { a with visible := value }
  | .width => { a with width := value }
  | .height => { a with height := value }
  | .message => { a with message := value }

/-- The actor with all these values, in order. -/
def setAll (a : Actor) (changes : List (Attribute × Datum)) : Actor :=
  changes.foldl (fun a (which, value) => a.set which value) a

/-- The actor with the sign of its moves turned. -/
def turnMoves (a : Actor) : Actor := { a with blocks := Forest.turnMoves a.blocks }

end Actor

end SpriteStage
