import SpriteStage.Action

/-!
# Records

Blocks, actors, snapshots and actions as plain data, field by field, and back. Fields that may be
left out take the values that their types give them.
-/

namespace SpriteStage

mutual

/-- A block as data. -/
def Block.toDatum : Block → Datum
  | ⟨id, kind, params, children⟩ =>
    .object [("id", id), ("kind", kind), ("params", params),
      ("children", .list (Forest.toItems children))]
termination_by structural b => b

/-- The blocks of a forest as data. -/
def Forest.toItems : List Block → List Datum
  | [] => []
  | b :: rest => b.toDatum :: Forest.toItems rest
termination_by structural f => f

end

mutual

/-- The block that data describes. -/
def Block.ofDatum? : Datum → Option Block
  | .object fields => Block.ofFields? { id := .null, kind := .null } fields
  | _ => none
termination_by structural d => d

/-- The block with the values of fields that describe one. -/
def Block.ofFields? (b : Block) : List (Key × Datum) → Option Block
  | [] => some b
  | (key, value) :: rest =>
    let b := match key with
      | .text "id" => { b with id := value }
      | .text "kind" => { b with kind := value }
      | .text "params" => { b with params := value }
      | _ => b
    if key = .text "children" then do
      let children ← Forest.ofDatum? value
      Block.ofFields? { b with children } rest
    else Block.ofFields? b rest
termination_by structural fields => fields

/-- The forest that a list describes. -/
def Forest.ofDatum? : Datum → Option (List Block)
  | .list items => Forest.ofItems? items
  | _ => none
termination_by structural d => d

/-- The forest that the items of a list describe. -/
def Forest.ofItems? : List Datum → Option (List Block)
  | [] => some []
  | item :: rest => do
    let b ← Block.ofDatum? item
    let rest ← Forest.ofItems? rest
    return b :: rest
termination_by structural items => items

end

namespace Bubble

/-- The bubble that data describes. -/
def ofDatum? (d : Datum) : Option Bubble := do
  return ⟨← d.field? "kind", ← d.field? "text", ← d.field? "expires_at"⟩

/-- Data that describes a bubble, with its fields in their order; other data as it is. -/
def normal (d : Datum) : Datum :=
  match ofDatum? d with
  | some b => b.toDatum
  | none => d

end Bubble

namespace Actor

/-- The fields of an actor. -/
def toFields (a : Actor) : Fields :=
  let attributes : Fields := Attribute.all.map fun which => (.text which.key, a.get which)
  ("id", a.id) :: attributes.append [("blocks", .list (Forest.toItems a.blocks))]

/-- The actor that data describes. -/
def ofDatum? (d : Datum) : Option Actor := do
  let id ← d.field? "id"
  let name ← d.field? "name"
  let blocks ← match d.field? "blocks" with
    | some blocks => Forest.ofDatum? blocks
    | none => some []
  let attributes := Attribute.all.filterMap fun which => (d.field? which.key).map (which, ·)
  let actor := setAll { id, name, blocks } attributes
  return { actor with message := Bubble.normal actor.message }

end Actor

namespace Snapshot

/-- A snapshot as data. -/
def toDatum (s : Snapshot) : Datum :=
  .object [("actors", .list (s.actors.map (.object ·.toFields))),
    ("active_actor_id", s.activeActorId), ("is_running", s.isRunning)]

/-- The snapshot that data describes. -/
def ofDatum? (d : Datum) : Option Snapshot := do
  let actors ← ((d.field? "actors").getD (.list [])).items.mapM Actor.ofDatum?
  return {
    actors
    activeActorId := (d.field? "active_actor_id").getD .null
    isRunning := (d.field? "is_running").getD (.bool false) }

end Snapshot

namespace Action

/-- The fields of an action beside its name. -/
def toFields : Action → Fields
  | addBlock block address => [("block", block.toDatum), ("actor_id", address)]
  | removeBlock blockId address => [("block_id", blockId), ("actor_id", address)]
  | updateParams blockId params address =>
    [("block_id", blockId), ("params", params), ("actor_id", address)]
  | addChild parentId block address =>
    [("parent_id", parentId), ("block", block.toDatum), ("actor_id", address)]
  | clearBlocks address => [("actor_id", address)]
  | setRunning value => [("value", value)]
  | updateActor actorId changes => [("actor_id", actorId), ("changes", changes)]
  | resetActors x y direction => [("x", x), ("y", y), ("direction", direction)]
  | addActor actor => [("actor", .object actor.toFields)]
  | removeActor actorId => [("actor_id", actorId)]
  | selectActor actorId => [("actor_id", actorId)]
  | swapMoves first second => [("actor_a", first), ("actor_b", second)]
  | unknown _ => []

/-- An action as data. -/
def toDatum (a : Action) : Datum := .object (("type", .str a.name) :: a.toFields)

/-- The changes that data describes; a message among them that is a bubble has its fields in order.
-/
def changesOf (d : Datum) : Datum :=
  match d with
  | .object fields =>
    .object <| fields.map fun (key, value) =>
      (key, if key = .text "message" then Bubble.normal value else value)
  | d => d

/-- The action that data describes. -/
def ofDatum? (d : Datum) : Option Action := do
  let field (key : String) : Datum := (d.field? key).getD .null
  let name ← (field "type").asText?
  let address := field "actor_id"
  match name with
  | "AddBlock" => return .addBlock (← Block.ofDatum? (field "block")) address
  | "RemoveBlock" => return .removeBlock (field "block_id") address
  | "UpdateBlockParams" => return .updateParams (field "block_id") (field "params") address
  | "AddChildToRepeat" =>
    return .addChild (field "parent_id") (← Block.ofDatum? (field "block")) address
  | "ClearBlocks" => return .clearBlocks address
  | "SetRunning" => return .setRunning (field "value")
  | "UpdateActor" => return .updateActor address (changesOf (field "changes"))
  | "ResetActors" =>
    return .resetActors ((d.field? "x").getD (.float 0.0)) ((d.field? "y").getD (.float 0.0))
      ((d.field? "direction").getD (.float 90.0))
  | "AddActor" => return .addActor (← Actor.ofDatum? (field "actor"))
  | "RemoveActor" => return .removeActor address
  | "SetActiveActor" => return .selectActor address
  | "SwapAnimations" => return .swapMoves (field "actor_a") (field "actor_b")
  | name => return .unknown name

end Action

end SpriteStage
