import SpriteStage.Stage.Detection

/-!
# The schedule

Whoever is first in the queue has the next turn and keeps it until it waits or ends. Nobody else
acts during a turn. Once the queue is empty, the sleeper with the least time is woken, and the clock
goes on to that time.
-/

namespace SpriteStage

/-- What the user is told when a run is under way. -/
def runningNotice : String := "Program is running"

namespace Verdict

/-- The verdict on a run that came to a result. An empty error text counts as none. -/
def ofResult (r : RunResult) : Verdict :=
  { success := r.success, notice := r.notice?, error := r.error?.filter (· ≠ "") }

/-- The verdict on a run that another one stands in the way of. -/
def alreadyRunning : Verdict :=
  { success := false, notice := some runningNotice, error := some RunRefusal.alreadyRunning.code }

end Verdict

namespace StageScene

/-- Whether a walk has begun and not ended, or the running flag is set. -/
def walkInFlight (sc : StageScene) : Bool := sc.state.running || sc.status = .running

/-- The scene with another state of a run. -/
def setRun (number : Nat) (run : Run) (sc : StageScene) : StageScene :=
  Scene.mapMemory (Backstage.setRun number run) sc

/-- Ends a run whose walk has ended, or lets it wait for the tick loop that is under way. A tick
loop that was interrupted interrupts the run. -/
def awaitLoop (number : Nat) (result : RunResult) (sc : StageScene) : StageScene :=
  let verdict := Verdict.ofResult result
  match sc.memory.detector.loop with
  | none => setRun number (.ended (.ok verdict)) sc
  | some loop =>
    match sc.memory.loops[loop]? with
    | some (.ended (some interruption)) => setRun number (.ended (.error interruption)) sc
    | some (.ended none) | none => setRun number (.ended (.ok verdict)) sc
    | some _ => setRun number (.lingering loop result) sc

/-- Lets the walk of a run go on to its next wait or its end. -/
def walkOn (number : Nat) (walk : Walk (Except Interruption RunResult)) (sc : StageScene) :
    StageScene :=
  match walk.advance Backstage.surroundings sc with
  | (sc, .waiting seconds resume) =>
    Scene.mapMemory (Backstage.sleep seconds (.run number)) (setRun number (.asleep resume) sc)
  | (sc, .ended (.error interruption)) => setRun number (.ended (.error interruption)) sc
  | (sc, .ended (.ok (.refused .alreadyRunning))) =>
    setRun number (.ended (.ok (.ofResult (.refused .alreadyRunning)))) sc
  | (sc, .ended (.ok result)) => awaitLoop number result sc

/-- The turn of a run. -/
def turnOfRun (I : Interpreter) (number : Nat) (sc : StageScene) : StageScene :=
  match sc.memory.runs[number]? with
  | some (.fresh _ true) => setRun number (.ended (.error .cancelled)) sc
  | some (.fresh address false) =>
    if walkInFlight sc then
      setRun number (.ended (.ok .alreadyRunning)) (StageScene.notify runningNotice sc)
    else walkOn number (I.run address) sc
  | some (.woken resume interruption) => walkOn number (resume interruption) sc
  | some (.released _ (some interruption)) => setRun number (.ended (.error interruption)) sc
  | some (.released result none) => setRun number (.ended (.ok (.ofResult result))) sc
  | _ => sc

/-- The runs that wait for a tick loop, in order. -/
def lingerers (loop : Nat) (sc : StageScene) : List (Nat × RunResult) :=
  sc.memory.runs.zipIdx.filterMap fun (run, number) =>
    match run with
    | .lingering l result => if l = loop then some (number, result) else none
    | _ => none

/-- Ends a tick loop; the runs that waited for it can go on. -/
def endLoop (number : Nat) (interruption : Option Interruption) (sc : StageScene) : StageScene :=
  (lingerers number sc).foldl
    (fun sc (run, result) =>
      Scene.mapMemory (Backstage.enqueue (.run run))
        (setRun run (.released result interruption) sc))
    (Scene.mapMemory (Backstage.setLoop number (.ended interruption)) sc)

/-- Ends a tick loop that has begun: unless a program runs, no pair counts as handled any more. -/
def leaveLoop (number : Nat) (interruption : Option Interruption) (sc : StageScene) : StageScene :=
  let sc := if sc.state.running then sc else Scene.mapMemory (Backstage.withHandled []) sc
  endLoop number interruption sc

/-- Lets a tick loop look once and wait for the next tick, as long as a program runs. -/
def tick (number : Nat) (sc : StageScene) : StageScene :=
  if sc.state.running then
    match check sc with
    | (sc, .error fault) => leaveLoop number (some (.failed fault)) sc
    | (sc, .ok _) =>
      let seconds := sc.memory.detector.tick
      let sc := sc.mapMemory (Backstage.surroundings.waits seconds)
      match Backstage.surroundings.waitFault? seconds sc.memory with
      | some fault => leaveLoop number (some (.failed fault)) sc
      | none => sc.mapMemory fun b => (b.sleep seconds (.loop number)).setLoop number .asleep
  else leaveLoop number none sc

/-- The turn of a tick loop. -/
def turnOfLoop (number : Nat) (sc : StageScene) : StageScene :=
  match sc.memory.loops[number]? with
  | some (.fresh true) => endLoop number (some .cancelled) sc
  | some (.fresh false) | some (.woken none) => tick number sc
  | some (.woken (some interruption)) => leaveLoop number (some interruption) sc
  | _ => sc

/-- Gives the first in the queue its turn. -/
def turn (I : Interpreter) (sc : StageScene) : StageScene :=
  match sc.memory.ready with
  | [] => sc
  | next :: rest =>
    let sc := Scene.mapMemory (fun b => { b with ready := rest }) sc
    match next with
    | .run number => turnOfRun I number sc
    | .loop number => turnOfLoop number sc

/-- Gives at most so many turns. -/
def turns (I : Interpreter) : Nat → StageScene → StageScene
  | 0, sc => sc
  | n + 1, sc => if sc.memory.ready.isEmpty then sc else turns I n (turn I sc)

/-- A bound on the turns until the queue is empty. Whoever is in it has a turn; a run may begin a
tick loop, and a tick loop may release runs, which then end. -/
def turnBound (sc : StageScene) : Nat :=
  4 * (sc.memory.ready.length + sc.memory.runs.length + sc.memory.loops.length + 1)

/-- Gives turns until the queue is empty. -/
def settle (I : Interpreter) (sc : StageScene) : StageScene := turns I (turnBound sc) sc

/-- The sleeper to be woken next: the one with the least time and, of those, the least number. -/
def nextSleeper? : List Sleeper → Option Sleeper
  | [] => none
  | s :: rest =>
    match nextSleeper? rest with
    | none => some s
    | some t => if t.time.below s.time then some t else some s

/-- The end of the wait of somebody who has not ended. -/
def rouse (turn : Turn) (interruption : Option Interruption) (b : Backstage) : Backstage :=
  let b := (b.unsleep turn).enqueue turn
  match turn with
  | .run number =>
    match b.runs[number]? with
    | some (.asleep resume) => b.setRun number (.woken resume interruption)
    | _ => b
  | .loop number => b.setLoop number (.woken interruption)

/-- Wakes the next sleeper and settles; none if nobody sleeps. The clock never goes back. -/
def wake? (I : Interpreter) (sc : StageScene) : Option StageScene :=
  (nextSleeper? sc.memory.sleepers).map fun s =>
    settle I <| sc.mapMemory fun b =>
      rouse s.turn none { b with now := if b.now.below s.time then s.time else b.now }

/-- Wakes sleepers until a condition holds, at most `n` times: how many were woken. -/
def wakeUntil (I : Interpreter) (stop : StageScene → Bool) : Nat → StageScene → Nat × StageScene
  | 0, sc => (0, sc)
  | n + 1, sc =>
    if stop sc then (0, sc)
    else
      match wake? I sc with
      | none => (0, sc)
      | some sc =>
        let (woken, sc) := wakeUntil I stop n sc
        (woken + 1, sc)

/-- A further run of the program of the addressed actor, which has its first turn later: its number.
-/
def addRun (address : Datum) (sc : StageScene) : Nat × StageScene :=
  let number := sc.memory.runs.length
  (number, sc.mapMemory fun b =>
    { b with runs := b.runs ++ [.fresh address false], ready := b.ready ++ [.run number] })

/-- Calls a tick loop off. -/
def cancelLoop (number : Nat) (sc : StageScene) : StageScene :=
  sc.mapMemory fun b =>
    match b.loops[number]? with
    | some (.fresh _) => b.setLoop number (.fresh true)
    | some .asleep => rouse (.loop number) (some .cancelled) b
    | some (.woken _) => b.setLoop number (.woken (some .cancelled))
    | some (.ended _) | none => b

/-- Calls a run off. One that waits for a tick loop calls that off. -/
def cancelRun (number : Nat) (sc : StageScene) : StageScene :=
  match sc.memory.runs[number]? with
  | some (.fresh address _) => setRun number (.fresh address true) sc
  | some (.asleep _) => sc.mapMemory (rouse (.run number) (some .cancelled))
  | some (.woken resume _) => setRun number (.woken resume (some .cancelled)) sc
  | some (.lingering loop _) => cancelLoop loop sc
  | some (.released result _) => setRun number (.released result (some .cancelled)) sc
  | some (.ended _) | none => sc

end StageScene

end SpriteStage
