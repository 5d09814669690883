import SpriteStage.Action

/-!
# Transitions

What each action does to a snapshot. An action that cannot be carried out has no result, and then
nothing has changed: an actor or block that is not there, an identifier that is there already, a
parent that does not repeat, the last actor. An action that is carried out has a result even if that
is equal to the snapshot before. An action whose data is not of the kind that it takes to carry it
out fails, and nothing has changed either.
-/

namespace SpriteStage

/-- Changes the first actor that has this identifier; none if there is none or its change has no
result. -/
def changeFirst? (id : Datum) (change : Actor → Option Actor) : List Actor → Option (List Actor)
  | [] => none
  | a :: rest =>
    if a.hasId id then (change a).map (· :: rest)
    else (changeFirst? id change rest).map (a :: ·)

namespace Snapshot

/-- Changes the actor that has this identifier. -/
def changeActor? (s : Snapshot) (id : Datum) (change : Actor → Option Actor) : Option Snapshot :=
  (changeFirst? id change s.actors).map ({ s with actors := · })

/-- Changes the program of the addressed actor. -/
def changeBlocks? (s : Snapshot) (address : Datum) (change : Forest → Option Forest) :
    Option Snapshot :=
  s.changeActor? (s.addressee address) fun a => (change a.blocks).map ({ a with blocks := · })

/-- The forest with a block at its end, unless they have an identifier in common. -/
def appended? (block : Block) (f : Forest) : Option Forest :=
  if Forest.meets f [block] then none else some (f ++ [block])

/-- The forest without the blocks of an identifier, if it has any. -/
def erased? (blockId : Datum) (f : Forest) : Option Forest :=
  if Forest.hasId blockId f then some (Forest.erase blockId f) else none

/-- The forest with a block as the last child of its first block of an identifier, if that repeats
and the block has no identifier in common with the forest. -/
def nested? (parentId : Datum) (block : Block) (f : Forest) : Option Forest :=
  if Forest.meets f [block] then none else do
    let parent ← Forest.find? parentId f
    let parent ← parent.withChild? block
    Forest.modify? parentId (fun _ => parent) f

/-- The changes that are changes of attributes. -/
def attributeChanges (changes : Fields) : List (Attribute × Datum) :=
  changes.filterMap fun (key, value) => (Attribute.ofKey? key).map (·, value)

/-- The snapshot with a further actor, which is the active one, unless its identifier is taken. -/
def withActor? (s : Snapshot) (a : Actor) : Option Snapshot :=
  if (s.actor? a.id).isSome then none
  else some { s with actors := s.actors ++ [a], activeActorId := a.id }

/-- The snapshot without an actor, if it is there and not the last one. If it was the active actor,
the first of the others becomes active. -/
def withoutActor? (s : Snapshot) (id : Datum) : Option Snapshot :=
  if s.actors.length ≤ 1 || (s.actor? id).isNone then none
  else
    let actors := s.actors.filter (!·.hasId id)
    let active :=
      if s.activeActorId.sameValue id then (actors.head?.map (·.id)).getD .null
      else s.activeActorId
    some { s with actors, activeActorId := active }

/-- The snapshot with another active actor, if it is there. -/
def withActive? (s : Snapshot) (id : Datum) : Option Snapshot :=
  if (s.actor? id).isSome then some { s with activeActorId := id } else none

/-- Whether these are two different actors that are there. -/
def canSwap (s : Snapshot) (a b : Datum) : Bool :=
  !a.sameValue b && (s.actor? a).isSome && (s.actor? b).isSome

/-- The snapshot with the moves of two different actors turned, if both are there. -/
def swapped? (s : Snapshot) (a b : Datum) : Option Snapshot :=
  if s.canSwap a b then
    some { s with actors := s.actors.map fun actor =>
      if actor.hasId a || actor.hasId b then actor.turnMoves else actor }
  else none

/-- The snapshot after an action whose data is of the kind that it takes; none if the action is not
carried out. -/
def after? (s : Snapshot) : Action → Option Snapshot
  | .addBlock block address => s.changeBlocks? address (appended? block)
  | .removeBlock blockId address => s.changeBlocks? address (erased? blockId)
  | .updateParams blockId params address =>
    s.changeBlocks? address (Forest.modify? blockId (Block.withParams params.fields))
  | .addChild parentId block address => s.changeBlocks? address (nested? parentId block)
  | .clearBlocks address => s.changeBlocks? address fun _ => some []
  | .setRunning value => some { s with isRunning := .bool value.truthy }
  | .updateActor actorId changes =>
    match attributeChanges changes.fields with
    | [] => none
    | changes => s.changeActor? actorId fun a => some (a.setAll changes)
  | .resetActors x y direction =>
    some { s with actors := s.actors.map ({ · with x, y, direction, message := .null }) }
  | .addActor actor => s.withActor? actor
  | .removeActor actorId => s.withoutActor? actorId
  | .selectActor actorId => s.withActive? actorId
  | .swapMoves first second => s.swapped? first second
  | .unknown _ => none

/-! ### Failures -/

/-- The fault that the program of the addressed actor gives rise to, if the actor is there. -/
def blocksFault? (s : Snapshot) (address : Datum) (fault? : Forest → Option Fault) : Option Fault :=
  (s.holder? (s.addressee address)).bind fun a => fault? a.blocks

/-- Why a block cannot be compared with a forest: the first identifier of the forest, or else of the
block, that cannot be looked up. -/
def meetFault? (block : Block) (f : Forest) : Option Fault :=
  Forest.keyFault? (Forest.preorder f) <|> Forest.keyFault? block.preorder

/-- Why the moves of two actors cannot be turned: one of the two identifiers, or that of an actor
met before all is done, cannot be looked up, or the moves of one of the two cannot be turned. -/
def swapFault? (s : Snapshot) (a b : Datum) : Option Fault :=
  if s.canSwap a b then
    Fault.of? a.asKey <|> Fault.of? b.asKey <|> s.actors.findSome? fun actor =>
      Fault.of? actor.id.asKey <|>
        if actor.hasId a || actor.hasId b then Forest.turnFault? actor.blocks else none
  else none

/-- Why an action fails. -/
def fault? (s : Snapshot) : Action → Option Fault
  | .addBlock block address | .addChild _ block address => s.blocksFault? address (meetFault? block)
  | .updateParams blockId params address =>
    s.blocksFault? address fun f => (Forest.find? blockId f).bind (Block.mergeFault? params)
  | .updateActor _ changes =>
    match changes with
    | .object _ => none
    | changes => some (.notObject changes.kind .fields)
  | .swapMoves first second => s.swapFault? first second
  | _ => none

/-- Carries an action out: the snapshot after it, if it is carried out, or why it fails. -/
def attempt (s : Snapshot) (a : Action) : Except Fault (Option Snapshot) :=
  match s.fault? a with
  | some fault => .error fault
  | none => .ok (s.after? a)

/-- The snapshot after an action, which is the one before if the action is not carried out. -/
def after (s : Snapshot) (a : Action) : Snapshot :=
  match s.attempt a with
  | .ok (some next) => next
  | _ => s

end Snapshot

end SpriteStage
