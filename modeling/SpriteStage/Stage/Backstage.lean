import SpriteStage.Journal
import SpriteStage.Scene
import SpriteStage.Collision
import SpriteStage.Supply

/-!
# Backstage

What goes on behind a stage: runs of the program and tick loops of the collision detector, each of
which does some work, waits, and goes on later. Those that can go on stand in a queue; those that
wait for a time stand in a list of sleepers. The detector listens to the store: it begins a tick
loop when the running flag is set, and forgets the pairs it has handled when the flag is cleared.
-/

namespace SpriteStage

/-- What can be given a turn: a run or a tick loop, by its number. -/
inductive Turn where
  | run (number : Nat)
  | loop (number : Nat)
  deriving DecidableEq

/-- How far a tick loop has got. -/
inductive TickLoop where
  /-- It has not begun; `cancelled` if it never will. -/
  | fresh (cancelled : Bool)
  /-- It waits for the next tick. -/
  | asleep
  /-- Its wait is over. -/
  | woken (interruption : Option Interruption)
  /-- It has ended, of itself or interrupted. -/
  | ended (interruption : Option Interruption)

/-- Whether a tick loop has ended. -/
def TickLoop.isOver : TickLoop → Bool
  | ended _ => true
  | _ => false

/-- What is reported of a run. -/
structure Verdict where
  success : Bool
  notice : Option String
  error : Option String

/-- How far a run has got. -/
inductive Run where
  /-- It has not begun; `cancelled` if it never will. -/
  | fresh (address : Datum) (cancelled : Bool)
  /-- Its walk waits. -/
  | asleep (resume : Option Interruption → Walk (Except Interruption RunResult))
  /-- The wait of its walk is over. -/
  | woken (resume : Option Interruption → Walk (Except Interruption RunResult))
      (interruption : Option Interruption)
  /-- Its walk has ended, and it waits for a tick loop to end. -/
  | lingering (loop : Nat) (result : RunResult)
  /-- The tick loop that it waited for has ended. -/
  | released (result : RunResult) (interruption : Option Interruption)
  /-- It has ended. -/
  | ended (outcome : Except Interruption Verdict)

/-- The outcome of a run that has ended. -/
def Run.outcome? : Run → Option (Except Interruption Verdict)
  | ended outcome => some outcome
  | _ => none

/-- Somebody who sleeps until a time; of those with one time, the one with the least number first.
-/
structure Sleeper where
  time : Number
  number : Nat
  turn : Turn

/-- The collision detector. -/
structure Detector where
  /-- The wait between two looks, in seconds. -/
  tick : Datum := .float Settings.standard.tick
  /-- The pairs whose moves were swapped in this run. -/
  handled : List Pair := []
  /-- Whether it listens to the store. -/
  attached : Bool := false
  /-- The tick loop that it began last. -/
  loop : Option Nat := none

/-- The listeners of the store of a stage. -/
inductive Listener where
  | detector | recorder
  deriving DecidableEq

/-- Everything behind the stage. -/
structure Backstage where
  journal : Journal := {}
  now : Number := .float 1000.0
  detector : Detector := {}
  /-- Whether tick loops can be begun at all. -/
  scheduling : Bool := true
  loops : List TickLoop := []
  runs : List Run := []
  /-- Who can go on, in order. -/
  ready : List Turn := []
  sleepers : List Sleeper := []
  /-- How many waits were begun for a time. -/
  sleeps : Nat := 0

namespace Backstage

/-- The backstage with a change to the journal. -/
def noting (f : Journal → Journal) (b : Backstage) : Backstage := { b with journal := f b.journal }

/-- Whether the tick loop that the detector began last is under way. -/
def ticking (b : Backstage) : Bool :=
  match b.detector.loop.bind (b.loops[·]?) with
  | some loop => !loop.isOver
  | none => false

/-- The backstage with other handled pairs. -/
def withHandled (handled : List Pair) (b : Backstage) : Backstage :=
  { b with detector := { b.detector with handled } }

/-- Begins a tick loop, unless one is under way; it has its first turn later. -/
def startTicking (b : Backstage) : Backstage :=
  if b.ticking then b
  else if b.scheduling then
    let number := b.loops.length
    { b with
      loops := b.loops ++ [.fresh false]
      ready := b.ready ++ [.loop number]
      detector := { b.detector with loop := some number } }
  else b.noting (·.log "[Collision] no running event loop, detector not started")

/-- What the detector does about a transition. -/
def watch (t : Transition) (b : Backstage) : Backstage :=
  if t.current.running && !t.previous.running then b.startTicking
  else if t.previous.running && !t.current.running then b.withHandled []
  else b

/-- How a listener takes a transition. -/
def hear : Listener → Transition → Store Listener → Backstage → Backstage × Reaction Listener
  | .detector, t, _, b => (b.watch t, .done)
  | .recorder, t, _, b => (b.noting (·.record (.action t.action)), .done)

/-- The time after some seconds, which have to be a number. -/
def after (seconds : Datum) (b : Backstage) : Except Fault Number := seconds.addTo b.now

/-- The surroundings of walks on a stage. A wait fails at once if its end is no time. -/
def surroundings : Surroundings Backstage Listener where
  hear := hear
  log line := noting (·.log line)
  notify text := noting (·.notify text)
  waits seconds := noting (·.record (.wait seconds))
  waitFault? seconds b := Fault.of? (b.after seconds)
  now := (·.now)

/-- Puts somebody to sleep for some seconds. -/
def sleep (seconds : Datum) (turn : Turn) (b : Backstage) : Backstage :=
  { b with
    sleepers := b.sleepers ++ [⟨(b.after seconds).toOption.getD b.now, b.sleeps, turn⟩]
    sleeps := b.sleeps + 1 }

/-- The backstage in which somebody does not sleep. -/
def unsleep (turn : Turn) (b : Backstage) : Backstage :=
  { b with sleepers := b.sleepers.filter (·.turn ≠ turn) }

/-- Puts somebody at the end of the queue. -/
def enqueue (turn : Turn) (b : Backstage) : Backstage := { b with ready := b.ready ++ [turn] }

/-- The backstage with another state of a run. -/
def setRun (number : Nat) (run : Run) (b : Backstage) : Backstage :=
  { b with runs := b.runs.set number run }

/-- The backstage with another state of a tick loop. -/
def setLoop (number : Nat) (loop : TickLoop) (b : Backstage) : Backstage :=
  { b with loops := b.loops.set number loop }

end Backstage

/-- A store with the detector and the recorder, and all that goes on behind it. -/
abbrev StageScene := Scene Backstage Listener

namespace StageScene

/-- Dispatches an action. -/
def send (action : Action) (sc : StageScene) : StageScene × Dispatched :=
  Scene.dispatch Backstage.surroundings.toAudience action sc

/-- Writes to the log. -/
def log (text : String) (sc : StageScene) : StageScene :=
  Scene.mapMemory (Backstage.surroundings.log text) sc

/-- Gives the user a notice. -/
def notify (text : String) (sc : StageScene) : StageScene :=
  Scene.mapMemory (Backstage.surroundings.notify text) sc

end StageScene

end SpriteStage
