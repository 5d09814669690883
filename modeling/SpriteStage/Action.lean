import SpriteStage.Snapshot

/-!
# Actions

Every change of the stage is one of these actions. Block actions carry an address, which may be left
empty to mean the active actor; all other actions name their actors. What an action carries is data
of any kind; whether it will do shows when the action is carried out.
-/

namespace SpriteStage

/-- A change that can be asked for. -/
inductive Action where
  /-- Puts a block at the end of the program. -/
  | addBlock (block : Block) (address : Datum)
  /-- Takes a block out of the program. -/
  | removeBlock (blockId address : Datum)
  /-- Puts parameters into those of a block. -/
  | updateParams (blockId params address : Datum)
  /-- Puts a block at the end of the children of a block that repeats. -/
  | addChild (parentId : Datum) (block : Block) (address : Datum)
  /-- Empties the program. -/
  | clearBlocks (address : Datum)
  /-- Sets the running flag. -/
  | setRunning (value : Datum)
  /-- Changes attributes of an actor; keys that are no attribute are left out of account. -/
  | updateActor (actorId changes : Datum)
  /-- Puts all actors to one place and direction and takes their messages away. -/
  | resetActors (x y direction : Datum)
  /-- Brings in an actor and makes it the active one. -/
  | addActor (actor : Actor)
  /-- Takes an actor away, as long as another one is left. -/
  | removeActor (actorId : Datum)
  /-- Makes an actor the active one. -/
  | selectActor (actorId : Datum)
  /-- Turns the sign of the moves of two actors. -/
  | swapMoves (first second : Datum)
  /-- An action of a name that is not known. -/
  | unknown (name : String)

namespace Action

/-- The name of an action. -/
def name : Action → String
  | addBlock .. => "AddBlock"
  | removeBlock .. => "RemoveBlock"
  | updateParams .. => "UpdateBlockParams"
  | addChild .. => "AddChildToRepeat"
  | clearBlocks .. => "ClearBlocks"
  | setRunning .. => "SetRunning"
  | updateActor .. => "UpdateActor"
  | resetActors .. => "ResetActors"
  | addActor .. => "AddActor"
  | removeActor .. => "RemoveActor"
  | selectActor .. => "SetActiveActor"
  | swapMoves .. => "SwapAnimations"
  | unknown name => name

/-- What is noted in the log about an action before it is looked at. -/
def remark? : Action → Option String
  | unknown name => some ("[Store] ignoring unknown action " ++ name)
  | _ => none

end Action

end SpriteStage
