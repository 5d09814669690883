import SpriteStage.Stage.Schedule
import SpriteStage.Catalog
import SpriteStage.Datum.Entries

/-!
# The stage

The stage offers what a user can do. Each operation is one action on the store and one answer, with
a notice for the user where there is something to tell. While the running flag is set, changes to
blocks and to the list of actors are refused.
-/

namespace SpriteStage

/-- Why an operation is refused. -/
inductive Refusal where
  | running | notFound | unknownKind | lastActor | alreadyRunning | badRequest
  deriving DecidableEq

/-- The code of a refusal. -/
def Refusal.code : Refusal → String
  | running => "running"
  | notFound => "not_found"
  | unknownKind => "unknown_kind"
  | lastActor => "last_actor"
  | alreadyRunning => "already_running"
  | badRequest => "bad_request"

/-- What an answer says beside success and notice. -/
inductive Detail where
  | nothing
  /-- The block that was made. -/
  | made (blockId : Datum)
  /-- The block in question, and whether the place for the change was found. -/
  | found (blockId : Datum) (isFound : Bool)
  /-- The actor in question. -/
  | actor (actorId : Datum)

/-- The answer to an operation. -/
inductive Answer where
  | done (notice : Option String) (detail : Detail)
  | refused (cause : Refusal) (notice : Option String)

/-- The fields of a detail. -/
def Detail.toFields : Detail → Fields
  | nothing => []
  | made blockId => [("block_id", blockId)]
  | found blockId isFound => [("block_id", blockId), ("found", .bool isFound)]
  | actor actorId => [("actor_id", actorId)]

namespace Answer

/-- Whether the operation was carried out. -/
def success : Answer → Bool
  | done .. => true
  | refused .. => false

/-- The fields of an answer, in order. -/
def toFields : Answer → Fields
  | done notice detail =>
    ("success", .bool true) :: ("notice", .ofText? notice) :: detail.toFields
  | refused cause notice =>
    [("success", .bool false), ("error", .str cause.code), ("notice", .ofText? notice)]

end Answer

/-- The fields of a verdict. -/
def Verdict.toFields (v : Verdict) : Fields :=
  ("success", .bool v.success) :: ("notice", .ofText? v.notice) ::
    match v.error with
    | some error => [("error", .str error)]
    | none => []

/-- A stage: its scene, how programs are run, what identifiers and choices are drawn from, and the
run that was started last. -/
structure Stage where
  scene : StageScene
  interpreter : Interpreter := {}
  supply : Supply := {}
  lastRun : Option Nat := none

namespace Stage

/-- A stage with its listeners in place. -/
def create (state : Snapshot) (backstage : Backstage) (interpreter : Interpreter)
    (supply : Supply) : Stage :=
  let empty : StageScene := { store := { state }, memory := backstage }
  let scene := StageScene.attach empty
  { scene := { scene with store := scene.store.subscribe .recorder }, interpreter, supply }

/-- The present snapshot. -/
def state (s : Stage) : Snapshot := s.scene.state

/-- Work on a stage, which may fail; what was done up to then stays done. -/
abbrev Work (α : Type) := ExceptT Fault (StateM Stage) α

namespace Work

/-- The present snapshot. -/
def state : Work Snapshot := return (← get).state

/-- Changes the scene. -/
def mapScene (f : StageScene → StageScene) : Work Unit :=
  modify fun s => { s with scene := f s.scene }

/-- Dispatches an action: the snapshot it put in place, if it was carried out. -/
def dispatch (action : Action) : Work (Option Snapshot) := do
  let s ← get
  let (scene, dispatched) := s.scene.send action
  set { s with scene }
  match dispatched with
  | .ok next => return next
  | .error fault => throw fault

/-- Uses the supply, unless that fails. -/
def draw {α : Type} (f : Supply → Except Fault (α × Supply)) : Work (Except Fault α) := do
  let s ← get
  match f s.supply with
  | .ok (value, supply) =>
    set { s with supply }
    return .ok value
  | .error fault => return .error fault

/-- Gives the user a notice, if there is one. -/
def tell : Option String → Work Unit
  | some text => mapScene (StageScene.notify text)
  | none => return

/-- The answer to an operation that was carried out. -/
def done (notice : Option String) (detail : Detail) : Work Answer := do
  tell notice
  return .done notice detail

/-- The answer to an operation that is refused. -/
def refuse (cause : Refusal) (notice : Option String) : Work Answer := do
  tell notice
  return .refused cause notice

/-- Refuses an operation while the running flag is set. -/
def unlessRunning (work : Work Answer) : Work Answer := do
  if (← state).running then refuse .running (some runningNotice) else work

/-- Makes a block of a kind. A kind that is not known, or cannot be written where it is refused, is
noted in the log; a kind that cannot even be looked up is a failure. -/
def make (operation : String) (kind : Datum) : Work (Option Block) := do
  match ← draw (Block.create kind .null []) with
  | .ok block => return some block
  | .error fault =>
    if fault.refusesKind then
      mapScene (StageScene.log ("[Stage] " ++ operation ++ " rejected: " ++ fault.message))
      return none
    else throw fault

end Work

open Work

/-- Puts a new block at the end of the program of the addressed actor. -/
def addBlock (kind address : Datum) : Work Answer := unlessRunning do
  match (← Work.state).addressed? address with
  | none => refuse .notFound none
  | some a =>
    match ← make "add_block" kind with
    | none => refuse .unknownKind none
    | some block =>
      let _ ← dispatch (.addBlock block a.id)
      done (some "Block added!") (.made block.id)

/-- Takes a block out of the program of the addressed actor. -/
def removeBlock (blockId address : Datum) : Work Answer := unlessRunning do
  match ← dispatch (.removeBlock blockId address) with
  | none => refuse .notFound none
  | some _ => done none .nothing

/-- Puts the entries of data into the parameters of a block. It is no failure if the block is
missing. -/
def updateBlock (blockId params address : Datum) : Work Answer := unlessRunning do
  let params ← ExceptT.mk (pure params.entries)
  let _ ← dispatch (.updateParams blockId (.object params) address)
  let found := ((← Work.state).addressed? address).any fun a => Forest.hasId blockId a.blocks
  done none (.found blockId found)

/-- Puts a new block at the end of the children of a block that repeats. It is no failure if there
is no such block. -/
def addChild (parentId kind address : Datum) : Work Answer := unlessRunning do
  match ← make "add_child" kind with
  | none => refuse .unknownKind none
  | some block =>
    match ← dispatch (.addChild parentId block address) with
    | none => done none (.found .null false)
    | some _ => done (some "Block added!") (.found block.id true)

/-- Empties the program of the addressed actor. -/
def clearBlocks (address : Datum) : Work Answer := unlessRunning do
  let _ ← dispatch (.clearBlocks address)
  done (some "Blocks cleared for this sprite!") .nothing

/-- Brings in a new actor. -/
def addActor : Work Answer := unlessRunning do
  let ordinal := (← Work.state).actors.length + 1
  match ← draw (Actor.create (.int ordinal) none) with
  | .error fault => throw fault
  | .ok a =>
    let _ ← dispatch (.addActor a)
    done (some ("Added " ++ a.name.label)) (.actor a.id)

/-- Takes an actor away, as long as another one is left. -/
def removeActor (actorId : Datum) : Work Answer := unlessRunning do
  let s ← Work.state
  if s.actors.length ≤ 1 then
    mapScene (StageScene.log "[Stage] refused to remove the last actor")
    refuse .lastActor (some "Cannot remove the only sprite")
  else if (s.actor? actorId).isNone then refuse .notFound none
  else
    let _ ← dispatch (.removeActor actorId)
    done (some "Sprite removed") .nothing

/-- Makes an actor the active one. -/
def selectActor (actorId : Datum) : Work Answer := do
  if ((← Work.state).actor? actorId).isNone then refuse .notFound none
  else
    let _ ← dispatch (.selectActor actorId)
    done none (.actor actorId)

/-- Clears the running flag; a walk under way goes on to its end. -/
def stop : Work Answer := do
  let _ ← dispatch (.setRunning (.bool false))
  done none .nothing

/-- The outcome of a run that has ended. -/
def outcome? (s : Stage) (number : Nat) : Option (Except Interruption Verdict) :=
  (s.scene.memory.runs[number]?).bind Run.outcome?

/-- Whether a run was started and has not ended. -/
def runPending (s : Stage) : Bool := s.lastRun.any fun number => (s.outcome? number).isNone

/-- Starts a run in the background, unless one is under way; it has its first turn later. -/
def startRun (address : Datum) (s : Stage) : Bool × Stage :=
  if StageScene.walkInFlight s.scene || s.runPending then (false, s)
  else
    let (number, scene) := StageScene.addRun address s.scene
    (true, { s with scene, lastRun := some number })

/-- Lets everybody go on who can. -/
def settle (s : Stage) : Stage := { s with scene := StageScene.settle s.interpreter s.scene }

/-- Settles and then wakes sleepers, at most `n` times: how many were woken. -/
def proceed (n : Nat) (s : Stage) : Nat × Stage :=
  let s := s.settle
  let (woken, scene) := StageScene.wakeUntil s.interpreter (fun _ => false) n s.scene
  (woken, { s with scene })

/-- Runs the program of the addressed actor and waits for its end, waking at most `n` sleepers; no
outcome if the run goes on after that. -/
def runThrough (address : Datum) (n : Nat) (s : Stage) :
    Option (Except Interruption Verdict) × Stage :=
  let (number, scene) := StageScene.addRun address s.scene
  let s := settle { s with scene }
  let hasEnded (scene : StageScene) : Bool :=
    ((scene.memory.runs[number]?).bind Run.outcome?).isSome
  let (_, scene) := StageScene.wakeUntil s.interpreter hasEnded n s.scene
  let s := { s with scene }
  (s.outcome? number, s)

/-- Calls the run off that was started last, if it has not ended, and settles. -/
def cancelLast (s : Stage) : Bool × Stage :=
  match s.lastRun with
  | some number =>
    if (s.outcome? number).isNone then
      (true, settle { s with scene := StageScene.cancelRun number s.scene })
    else (false, s.settle)
  | none => (false, s.settle)

end Stage

end SpriteStage
