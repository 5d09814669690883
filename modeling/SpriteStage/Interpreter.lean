import SpriteStage.Walk
import SpriteStage.Datum.Arithmetic
import SpriteStage.Datum.Written

/-!
# The interpreter

A run takes an actor through its program. It sets the running flag, puts all actors to the start,
turns the moves of two actors once if at least two can move, and then does one block after the
other: each block is looked up in the store when its turn comes, so that it runs with the parameters
that it has by then. However the run ends, the flag is cleared.
-/

namespace SpriteStage

/-- Why a run is not begun. -/
inductive RunRefusal where
  | alreadyRunning | notFound | noBlocks
  deriving DecidableEq

/-- What a run comes to. -/
inductive RunResult where
  /-- All blocks were done. -/
  | complete
  /-- The run was not begun. -/
  | refused (cause : RunRefusal)
  /-- A block, a wait or a listener failed. -/
  | broken (fault : Fault)
  deriving DecidableEq

namespace RunRefusal

/-- The code of a refusal. -/
def code : RunRefusal → String
  | alreadyRunning => "already_running"
  | notFound => "not_found"
  | noBlocks => "no_blocks"

/-- What the user is told of a refusal. -/
def notice? : RunRefusal → Option String
  | noBlocks => some "No blocks to run!"
  | _ => none

end RunRefusal

namespace RunResult

/-- Whether the run was a success. -/
def success (r : RunResult) : Bool := r = complete

/-- What is reported as the error of a run. -/
def error? : RunResult → Option String
  | complete => none
  | refused cause => some cause.code
  | broken fault => some fault.message

/-- What the user is told of a run. -/
def notice? : RunResult → Option String
  | complete => some "Animation complete!"
  | refused cause => cause.notice?
  | broken _ => some "Error running animation"

end RunResult

/-- How programs are run. -/
structure Interpreter where
  /-- The wait after each step, in seconds. -/
  pacing : Datum := .float Settings.standard.pacing
  /-- The direction that actors start from. -/
  home : Datum := .float Settings.standard.home
  /-- How many repetitions can be inside each other beyond those of the program at the start. They
  matter only if others put blocks into the program while it runs. -/
  spare : Nat := 400

namespace Interpreter

/-- A parameter of a block, which has to have an object for its parameters. -/
def param (b : Block) (key : String) (default : Datum) : Except Fault Datum :=
  match b.params with
  | .object fields => .ok ((Fields.get? key fields).getD default)
  | other => .error (.notObject other.kind .lookup)

/-- A parameter of a block as a double, zero if it is missing. -/
def amount (b : Block) (key : String) : Except Fault Float := do (← param b key (.int 0)).toFloat

/-- What a block says: a parameter of it as it stands in a message. -/
def caption (b : Block) : Except Fault String := do (← param b "text" (.str "")).text

/-- Changes the walked actor. -/
def change (actorId : Datum) (changes : Fields) : Attempt Unit :=
  Attempt.dispatch (.updateActor actorId (.object changes))

/-- A block as the store holds it now; the block itself if it or its actor is gone. -/
def latest (actorId : Datum) (b : Block) : Attempt Block := do
  let s ← Attempt.snapshot
  return ((s.actor? actorId).bind fun a => Forest.find? b.id a.blocks).getD b

/-- Where an actor gets to by going `steps` in its direction. -/
def ahead (a : Actor) (steps : Float) : Except Fault (Float × Float) := do
  let angle ← a.direction.toRadians
  if angle.isInf then throw .infiniteAngle
  let x ← a.x.addFloat (steps * angle.cos)
  let y ← a.y.addFloat (steps * angle.sin)
  return (x, y)

/-- Goes some steps, if the actor is there. -/
def move (I : Interpreter) (actorId : Datum) (b : Block) : Attempt Unit := do
  let some a := (← Attempt.snapshot).actor? actorId | return
  let steps ← Attempt.ofExcept (amount b "steps")
  let (x, y) ← Attempt.ofExcept (ahead a steps)
  change actorId [("x", .float x), ("y", .float y)]
  Attempt.wait I.pacing

/-- Turns by some degrees, to a direction from 0 to 360, if the actor is there. -/
def turn (I : Interpreter) (actorId : Datum) (b : Block) : Attempt Unit := do
  let some a := (← Attempt.snapshot).actor? actorId | return
  let degrees ← Attempt.ofExcept (amount b "degrees")
  let direction ← Attempt.ofExcept (a.direction.addFloat degrees)
  change actorId [("direction", .float (Double.floorMod direction 360))]
  Attempt.wait I.pacing

/-- Goes to a place. -/
def goto (I : Interpreter) (actorId : Datum) (b : Block) : Attempt Unit := do
  let x ← Attempt.ofExcept (amount b "x")
  let y ← Attempt.ofExcept (amount b "y")
  change actorId [("x", .float x), ("y", .float y)]
  Attempt.wait I.pacing

/-- Shows a bubble for some seconds; for no time if they are negative or no number. -/
def speak (actorId : Datum) (b : Block) : Attempt Unit := do
  let seconds ← Attempt.ofExcept (amount b "seconds")
  let seconds := Datum.float (if seconds > Double.zero then seconds else Double.zero)
  let text ← Attempt.ofExcept (caption b)
  let now ← Attempt.clock
  let expiresAt ← Attempt.ofExcept (seconds.addTo now)
  let bubble : Bubble := { kind := b.kind, text := .str text, expiresAt := .num expiresAt }
  change actorId [("message", bubble.toDatum)]
  Attempt.wait seconds
  change actorId [("message", .null)]

/-- How often a block repeats its children. -/
def count (b : Block) : Except Fault Nat := do
  let times ← (← param b "times" (.int 0)).toInt
  return times.toNat

/-- Passes over a block of a kind that is not known; the log names the kind. -/
def skip (b : Block) : Attempt Unit := do
  let kind ← Attempt.ofExcept b.kind.written
  Attempt.log ("[Interpreter] skipping unknown block kind " ++ kind)

/-- Does a block, which may repeat others, with room for `room` repetitions inside each other. -/
def step (I : Interpreter) (actorId : Datum) : Nat → Block → Attempt Unit
  | room, b => do
    let b ← latest actorId b
    match ← Attempt.ofExcept (BlockKind.ofDatum b.kind) with
    | none => skip b
    | some kind =>
      Attempt.begin b
      match kind with
      | .move => I.move actorId b
      | .turn => I.turn actorId b
      | .goto => I.goto actorId b
      | .say | .think => speak actorId b
      | .loop =>
        let n ← Attempt.ofExcept (count b)
        match room with
        | 0 => throw (.failed .nestedTooDeep)
        | room + 1 => Attempt.times n (Attempt.each (step I actorId room) b.children)

/-- The two actors whose moves are turned before a run: the first two that are visible, if at least
two actors have a block that moves. -/
def pairToSwap? (s : Snapshot) : Option (Actor × Actor) :=
  let movers := s.actors.filter fun a => !(Forest.movers a.blocks).isEmpty
  match s.actors.filter (·.visible.truthy) with
  | a :: b :: _ => if movers.length < 2 then none else some (a, b)
  | _ => none

/-- Turns the moves of two actors before the run. -/
def swapFirst : Attempt Unit := do
  match pairToSwap? (← Attempt.snapshot) with
  | none => return
  | some (a, b) =>
    Attempt.dispatch (.swapMoves a.id b.id)
    Attempt.log ("[Interpreter] pre-flight swap " ++ a.id.label ++ " <-> " ++ b.id.label)
    Attempt.notify "Sprites collided! Animation directions swapped!"

/-- What a run does between setting the flag and clearing it. The actor is changed under the
identifier that it was called by. -/
def animate (I : Interpreter) (actorId : Datum) (a : Actor) : Attempt Unit := do
  Attempt.dispatch (.setRunning (.bool true))
  Attempt.dispatch (.resetActors (.float 0.0) (.float 0.0) I.home)
  swapFirst
  Attempt.each (I.step actorId (Forest.depth a.blocks + I.spare)) a.blocks

/-- The actor that a run is for, or why it is not begun. -/
def accept (s : Snapshot) (status : Status) (address : Datum) : Except RunRefusal Actor :=
  if s.running || status = .running then .error .alreadyRunning
  else
    match s.addressed? address with
    | none => .error .notFound
    | some a => if a.blocks.isEmpty then .error .noBlocks else .ok a

/-- Clears the running flag and goes on; if that fails, its failure is what the run comes to. -/
def clearing {α : Type} (next : Walk (Except Interruption α)) : Walk (Except Interruption α) :=
  .dispatch (.setRunning (.bool false)) fun
    | some fault => .done (.error (.failed fault))
    | none => next

/-- Ends a run for an actor whose blocks have come to this. -/
def finish (actorId : Datum) : Except Interruption Unit → Walk (Except Interruption RunResult)
  | .ok () =>
    .enter .done <| clearing <|
      .log ("[Interpreter] run finished for " ++ actorId.label) <|
      .notify "Animation complete!" <| .done (.ok .complete)
  | .error (.failed fault) =>
    .enter .failed <|
      .log ("[Interpreter] run failed for " ++ actorId.label ++ ": " ++ fault.message) <|
      .notify "Error running animation" <|
      clearing (.done (.ok (.broken fault)))
  | .error .cancelled => .enter .failed (clearing (.done (.error .cancelled)))

/-- Runs the program of the addressed actor, unless a run is under way or there is nothing to do. -/
def run (I : Interpreter) (address : Datum) : Walk (Except Interruption RunResult) :=
  .look fun s status =>
    match accept s status address with
    | .error cause =>
      let refused := Walk.done (.ok (.refused cause))
      match cause.notice? with
      | some text => .notify text refused
      | none => refused
    | .ok a =>
      let actorId := s.addressee address
      .enter .running <| .log ("[Interpreter] run started for " ++ actorId.label) <|
        (I.animate actorId a).run.bind (finish actorId)

end Interpreter

end SpriteStage
