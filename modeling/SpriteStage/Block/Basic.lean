import SpriteStage.Datum.Basic

/-!
# Blocks

A program is a forest of blocks. A block has an identifier, a kind, parameters and children;
children are run by blocks that repeat only. Identifiers, kinds and parameters are data, and
identifiers are compared by value. Nothing here assumes that they are distinct: where several blocks
have one identifier, the first in pre-order is the one that is found.
-/

namespace SpriteStage

/-- The kinds of blocks that can be run. -/
inductive BlockKind where
  | move | turn | goto | loop | say | think
  deriving DecidableEq

namespace BlockKind

/-- All kinds, in the order in which they are offered. -/
def all : List BlockKind := [move, turn, goto, loop, say, think]

/-- The name of a kind. -/
def name : BlockKind → String
  | move => "move"
  | turn => "turn"
  | goto => "goto"
  | loop => "repeat"
  | say => "say"
  | think => "think"

/-- The kind of a name. -/
def ofName? (s : String) : Option BlockKind := all.find? (·.name = s)

/-- The kind that data names, if it names one. Lists and objects cannot even be looked up. -/
def ofDatum (d : Datum) : Except Fault (Option BlockKind) :=
  d.asKey.map fun
    | .text name => ofName? name
    | _ => none

end BlockKind

/-- A block with all that is below it. -/
structure Block where
  id : Datum
  kind : Datum
  params : Datum := .object []
  children : List Block := []
  deriving Inhabited

/-- Blocks beside each other, each with all that is below it. -/
abbrev Forest := List Block

namespace Block

/-- Whether the block has this identifier. -/
def hasId (id : Datum) (b : Block) : Bool := b.id.sameValue id

/-- Whether the block is of this kind. -/
def hasKind (kind : Datum) (b : Block) : Bool := b.kind.sameValue kind

/-- Whether the block moves its actor. -/
def moves (b : Block) : Bool := b.hasKind (.str BlockKind.move.name)

/-- Whether the block repeats its children. -/
def repeats (b : Block) : Bool := b.hasKind (.str BlockKind.loop.name)

end Block

mutual

/-- The block and all blocks below it, each before its children. -/
def Block.preorder : Block → List Block
  | ⟨id, kind, params, children⟩ => ⟨id, kind, params, children⟩ :: Forest.preorder children
termination_by structural b => b

/-- All blocks of the forest, each before its children. -/
def Forest.preorder : List Block → List Block
  | [] => []
  | b :: rest => b.preorder ++ Forest.preorder rest
termination_by structural f => f

end

mutual

/-- The block and all blocks below it, each after its children. -/
def Block.postorder : Block → List Block
  | ⟨id, kind, params, children⟩ => Forest.postorder children ++ [⟨id, kind, params, children⟩]
termination_by structural b => b

/-- All blocks of the forest, each after its children. -/
def Forest.postorder : List Block → List Block
  | [] => []
  | b :: rest => b.postorder ++ Forest.postorder rest
termination_by structural f => f

end

mutual

/-- How many blocks stand one below the other, at most. -/
def Block.depth : Block → Nat
  | ⟨_, _, _, children⟩ => Forest.depth children + 1
termination_by structural b => b

/-- How many blocks of the forest stand one below the other, at most. -/
def Forest.depth : List Block → Nat
  | [] => 0
  | b :: rest => max b.depth (Forest.depth rest)
termination_by structural f => f

end

namespace Forest

/-- The identifiers of all blocks, in pre-order. -/
def ids (f : Forest) : List Datum := (preorder f).map (·.id)

/-- How many blocks there are. -/
def size (f : Forest) : Nat := (preorder f).length

/-- The first block in pre-order with this identifier. -/
def find? (id : Datum) (f : Forest) : Option Block := (preorder f).find? (·.hasId id)

/-- Whether there is a block with this identifier. -/
def hasId (id : Datum) (f : Forest) : Bool := (preorder f).any (·.hasId id)

/-- The blocks of a kind, in pre-order. -/
def ofKind (kind : Datum) (f : Forest) : List Block := (preorder f).filter (·.hasKind kind)

/-- Whether there is a block of a kind. -/
def hasKind (kind : Datum) (f : Forest) : Bool := (preorder f).any (·.hasKind kind)

/-- No identifier occurs twice. -/
def Distinct (f : Forest) : Prop := (ids f).Pairwise fun a b => ¬ a.sameValue b

/-- The two forests have an identifier in common. -/
def meets (f g : Forest) : Bool := (preorder g).any fun b => hasId b.id f

/-- Why identifiers cannot be looked up: the first of them that is no key. -/
def keyFault? (blocks : List Block) : Option Fault := blocks.findSome? fun b => Fault.of? b.id.asKey

/-- What holds of the empty forest, and of a forest if it holds of the children of its first block
and of the blocks beside that, holds of every forest. -/
theorem induct {motive : Forest → Prop} (nil : motive [])
    (cons : ∀ b rest, motive b.children → motive rest → motive (b :: rest)) : ∀ f, motive f := by
  intro f
  refine Block.rec_1 (motive_1 := fun b => motive b.children) (motive_2 := motive) ?_ nil ?_ f
  · intro _ _ _ _ h; exact h
  · intro b rest hb hrest; exact cons b rest hb hrest

@[simp] theorem preorder_nil : preorder [] = [] := rfl

@[simp] theorem preorder_cons (b : Block) (rest : Forest) :
    preorder (b :: rest) = b :: (preorder b.children ++ preorder rest) := by
  cases b; rfl

end Forest

end SpriteStage
