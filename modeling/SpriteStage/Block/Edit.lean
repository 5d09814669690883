import SpriteStage.Block.Basic
import SpriteStage.Datum.Entries

/-!
# Editing forests

Edits address a block by its identifier. Taking a block out takes what is below it and keeps all
else in place; changing a block changes the first one in pre-order that has the identifier.
-/

namespace SpriteStage

namespace Block

/-- The block with these parameters put into its own. -/
def withParams (params : Fields) (b : Block) : Block :=
  { b with params := .object (b.params.fields.merge params) }

/-- Why these parameters cannot be put into those of the block: both have to be objects. -/
def mergeFault? (params : Datum) (b : Block) : Option Fault :=
  match b.params, params with
  | .object _, .object _ => none
  | .object _, params => some (.notMapping params.kind)
  | own, _ => some (.notMapping own.kind)

/-- Whether the block has these parameters already, with equal values. -/
def hasParams (params : Fields) (b : Block) : Bool :=
  params.all fun (key, value) => (b.params.fields.get? key).any (·.sameValue value)

/-- The block with another block as its last child; none for a block that does not repeat. -/
def withChild? (b child : Block) : Option Block :=
  if b.repeats then some { b with children := b.children ++ [child] } else none

/-- The entries of the parameters of the block, if they have any. -/
def entries (b : Block) : Fields := b.params.entries.toOption.getD []

/-- The block with its parameters as an object, and with the sign of its steps turned if that is
wanted and they are a number. -/
def turnIf (wanted : Bool) (b : Block) : Block :=
  { b with params := .object (if wanted then b.entries.turn "steps" else b.entries) }

/-- Why the block cannot be turned: its parameters have no entries, or its identifier cannot be
looked up. -/
def turnFault? (b : Block) : Option Fault := Fault.of? b.params.entries <|> Fault.of? b.id.asKey

end Block

mutual

/-- The block without the blocks of this identifier below it. -/
def Block.prune (id : Datum) : Block → Block
  | ⟨i, kind, params, children⟩ => ⟨i, kind, params, Forest.erase id children⟩
termination_by structural b => b

/-- The forest without the blocks of this identifier, wherever they are. -/
def Forest.erase (id : Datum) : List Block → List Block
  | [] => []
  | b :: rest =>
    if b.hasId id then Forest.erase id rest else b.prune id :: Forest.erase id rest
termination_by structural f => f

end

mutual

/-- Changes the first block of this identifier in a block and what is below it; none if there is no
such block. -/
def Block.modifyM? {m : Type → Type} [Monad m] (id : Datum) (change : Block → m Block) :
    Block → m (Option Block)
  | ⟨i, kind, params, children⟩ =>
    if i.sameValue id then do
      let b ← change ⟨i, kind, params, children⟩
      return some b
    else do
      let children ← Forest.modifyM? id change children
      return children.map fun children => ⟨i, kind, params, children⟩
termination_by structural b => b

/-- Changes the first block of this identifier in pre-order; none if there is no such block. -/
def Forest.modifyM? {m : Type → Type} [Monad m] (id : Datum) (change : Block → m Block) :
    List Block → m (Option (List Block))
  | [] => pure none
  | b :: rest => do
    match ← b.modifyM? id change with
    | some b => return some (b :: rest)
    | none =>
      let rest ← Forest.modifyM? id change rest
      return rest.map (b :: ·)
termination_by structural f => f

end

mutual

/-- Rebuilds what is below a block, then the block itself. -/
def Block.rebuildM {m : Type → Type} [Monad m] (change : Block → m Block) : Block → m Block
  | ⟨id, kind, params, children⟩ => do
    let children ← Forest.rebuildM change children
    change ⟨id, kind, params, children⟩
termination_by structural b => b

/-- Rebuilds every block, from left to right and each after its children, which it is given in their
new form. -/
def Forest.rebuildM {m : Type → Type} [Monad m] (change : Block → m Block) :
    List Block → m (List Block)
  | [] => pure []
  | b :: rest => do
    let b ← b.rebuildM change
    let rest ← Forest.rebuildM change rest
    return b :: rest
termination_by structural f => f

end

namespace Forest

@[simp] theorem erase_nil (id : Datum) : erase id [] = [] := rfl

theorem erase_cons (id : Datum) (b : Block) (rest : Forest) :
    erase id (b :: rest) =
      if b.hasId id then erase id rest
      else { b with children := erase id b.children } :: erase id rest := by
  cases b; rfl

theorem modifyM?_cons {m : Type → Type} [Monad m] (id : Datum) (change : Block → m Block)
    (b : Block) (rest : Forest) :
    modifyM? id change (b :: rest) = do
      let inFirst : m (Option Block) :=
        if b.hasId id then do
          let b ← change b
          return some b
        else do
          let children ← modifyM? id change b.children
          return children.map fun children => { b with children }
      match ← inFirst with
      | some b => return some (b :: rest)
      | none =>
        let rest ← modifyM? id change rest
        return rest.map (b :: ·) := by
  cases b; rfl

/-- Changes the first block of this identifier in pre-order; none if there is no such block. -/
def modify? (id : Datum) (change : Block → Block) (f : Forest) : Option Forest :=
  modifyM? (m := Id) id change f

@[simp] theorem modify?_nil (id : Datum) (change : Block → Block) :
    modify? id change [] = none := rfl

theorem modify?_cons (id : Datum) (change : Block → Block) (b : Block) (rest : Forest) :
    modify? id change (b :: rest) =
      match (if b.hasId id then some (change b)
        else (modify? id change b.children).map fun children => { b with children }) with
      | some b => some (b :: rest)
      | none => (modify? id change rest).map (b :: ·) := by
  cases b; rfl

/-- Rebuilds every block, each after its children. -/
def rebuild (change : Block → Block) (f : Forest) : Forest :=
  rebuildM (m := Id) change f

@[simp] theorem rebuild_nil (change : Block → Block) : rebuild change [] = [] := rfl

@[simp] theorem rebuild_cons (change : Block → Block) (b : Block) (rest : Forest) :
    rebuild change (b :: rest) =
      change { b with children := rebuild change b.children } :: rebuild change rest := by
  cases b; rfl

/-- The blocks that move their actor, in pre-order. -/
def movers (f : Forest) : List Block := (preorder f).filter (·.moves)

/-- Turns the sign of the steps of every block that moves or has the identifier of one that moves.
-/
def turnMoves (f : Forest) : Forest :=
  let movers := movers f
  rebuild (fun b => b.turnIf (b.moves || movers.any (·.hasId b.id))) f

/-- Why moves cannot be turned: the first obstacle met when the identifiers of the blocks that move
are noted and then every block is dealt with, each after its children. -/
def turnFault? (f : Forest) : Option Fault :=
  keyFault? (movers f) <|> (postorder f).findSome? Block.turnFault?

end Forest

end SpriteStage
