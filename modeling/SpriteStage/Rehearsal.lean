import SpriteStage.Scene
import SpriteStage.Journal

/-!
# Rehearsals

In a rehearsal one interpreter works on one store, and waiting takes no time but that of the clock.
A plan says how each wait is disturbed: others may dispatch actions or ask for a run, and the wait
may fail or be called off.
-/

namespace SpriteStage

/-- Something that happens while a walk waits. -/
inductive Disturbance where
  /-- Somebody dispatches an action; if that fails, the wait fails. -/
  | dispatch (action : Action)
  /-- Somebody asks for a run. -/
  | run (address : Datum)
  /-- The wait fails. -/
  | fail (fault : Fault)
  /-- The walk is called off. -/
  | cancel

/-- The disturbances of each wait, in the order of the waits. -/
abbrev Plan := List (List Disturbance)

/-- Surroundings in which time passes at each wait and the answers to further requests are kept. -/
structure RehearsalRoom (σ ι : Type) extends Surroundings σ ι where
  /-- How the clock goes on by some seconds. -/
  pass : Datum → σ → Except Fault σ
  /-- How the memory takes the answer to a request for a run. -/
  answered : RunResult → σ → σ

namespace RehearsalRoom

variable {σ ι : Type} [DecidableEq ι]

/-- Answers a request for a run. A walk waits only while its status is running, so that the request
is refused; one that is not refused is not taken up here. -/
def request (R : RehearsalRoom σ ι) (address : Datum) (sc : Scene σ ι) : Scene σ ι :=
  match Interpreter.accept sc.state sc.status address with
  | .error cause => sc.mapMemory (R.answered (.refused cause))
  | .ok _ => sc

/-- Lets disturbances happen in order, up to the first that interrupts the wait. -/
def disturb (R : RehearsalRoom σ ι) : List Disturbance → Scene σ ι → Scene σ ι × Option Interruption
  | [], sc => (sc, none)
  | .dispatch action :: rest, sc =>
    match sc.dispatch R.toAudience action with
    | (sc, .ok _) => disturb R rest sc
    | (sc, .error fault) => (sc, some (.failed fault))
  | .run address :: rest, sc => disturb R rest (R.request address sc)
  | .fail fault :: _, sc => (sc, some (.failed fault))
  | .cancel :: _, sc => (sc, some .cancelled)

/-- Answers a wait by the first disturbances of the plan; time passes if none of them interrupts. -/
def answer (R : RehearsalRoom σ ι) (seconds : Datum) (sc : Scene σ ι) (plan : Plan) :
    (Scene σ ι × Plan) × Option Interruption :=
  match R.disturb (plan.headD []) sc with
  | (sc, some interruption) => ((sc, plan.tail), some interruption)
  | (sc, none) =>
    match R.pass seconds sc.memory with
    | .ok memory => (({ sc with memory }, plan.tail), none)
    | .error fault => ((sc, plan.tail), some (.failed fault))

/-- Runs the program of the addressed actor under a plan. -/
def run (R : RehearsalRoom σ ι) (I : Interpreter) (address : Datum) (sc : Scene σ ι) (plan : Plan) :
    (Scene σ ι × Plan) × Except Interruption RunResult :=
  (I.run address).carry R.toSurroundings R.answer sc plan

end RehearsalRoom

/-- The listeners of a recorded rehearsal: one that records, and one that fails on some actions. -/
inductive Onlooker where
  | recorder | breaker
  deriving DecidableEq

/-- Which actions a listener fails on: those of a name, all of them or the one of a number. -/
structure Breakage where
  name : String
  number : Option Nat

/-- What a recorded rehearsal remembers. -/
structure Rehearsal where
  journal : Journal
  now : Number
  breakage : Option Breakage := none
  /-- How many actions of the name to fail on there were. -/
  seen : Nat := 0

namespace Rehearsal

/-- Whether the breaking listener fails on an action, and what is remembered of it. -/
def breaks (action : Action) (r : Rehearsal) : Bool × Rehearsal :=
  match r.breakage with
  | none => (false, r)
  | some b =>
    if action.name = b.name then
      (b.number = none || b.number = some r.seen, { r with seen := r.seen + 1 })
    else (false, r)

/-- The rehearsal with a change to the journal. -/
def noting (f : Journal → Journal) (r : Rehearsal) : Rehearsal := { r with journal := f r.journal }

/-- The fault of a listener that fails. -/
def listenerFault : Fault := .broken "listener broke"

/-- How a listener takes a transition. -/
def hear : Onlooker → Transition → Store Onlooker → Rehearsal → Rehearsal × Reaction Onlooker
  | .recorder, t, _, r => (r.noting (·.record (.action t.action)), .done)
  | .breaker, t, _, r =>
    let (fails, r) := r.breaks t.action
    (r, if fails then .raise listenerFault else .done)

/-- A room in which everything is recorded. -/
def recorded : RehearsalRoom Rehearsal Onlooker where
  hear := hear
  log line := noting (·.log line)
  notify text := noting (·.notify text)
  waits seconds := noting (·.record (.wait seconds))
  now := (·.now)
  pass seconds r := (seconds.addTo r.now).map ({ r with now := · })
  answered result := noting (·.record (.answered result))

end Rehearsal

end SpriteStage
