import SpriteStage.Walk

/-!
# Scenes

A walk is acted out in a scene: a store with its listeners, and the status of the interpreter. The
surroundings say what becomes of log lines, notices and waits, and what the clock shows. A walk
either goes on to its next wait, or is carried through to its end by somebody who answers its waits.
-/

namespace SpriteStage

/-- What a walk finds around it. -/
structure Surroundings (σ ι : Type) extends Audience σ ι where
  /-- How the memory takes a notice to the user. -/
  notify : String → σ → σ
  /-- How the memory takes the beginning of a wait. -/
  waits : Datum → σ → σ
  /-- Why a wait that has begun fails at once. -/
  waitFault? : Datum → σ → Option Fault := fun _ _ => none
  /-- What the clock shows. -/
  now : σ → Number

/-- A store with its listeners, and the status of the interpreter. -/
structure Scene (σ ι : Type) extends Hall σ ι where
  status : Status := .idle

namespace Scene

variable {σ ι : Type}

/-- The present snapshot. -/
def state (sc : Scene σ ι) : Snapshot := sc.store.state

/-- The scene with a change to what is remembered. -/
def mapMemory (f : σ → σ) (sc : Scene σ ι) : Scene σ ι := { sc with memory := f sc.memory }

/-- Dispatches an action. -/
def dispatch [DecidableEq ι] (A : Audience σ ι) (action : Action) (sc : Scene σ ι) :
    Scene σ ι × Dispatched :=
  let (hall, dispatched) := A.dispatch action sc.toHall
  ({ sc with toHall := hall }, dispatched)

end Scene

/-- Where a walk has got to. -/
inductive Pause (α : Type) where
  /-- It has come to its value. -/
  | ended (value : α)
  /-- It waits for some seconds and then goes on. -/
  | waiting (seconds : Datum) (resume : Option Interruption → Walk α)

namespace Walk

variable {σ ι α : Type} [DecidableEq ι]

/-- Goes on to the next wait or to the end. -/
def advance (S : Surroundings σ ι) : Walk α → Scene σ ι → Scene σ ι × Pause α
  | .done value, sc => (sc, .ended value)
  | .look next, sc => advance S (next sc.state sc.status) sc
  | .begin _ next, sc => advance S next sc
  | .dispatch action next, sc =>
    let (sc, dispatched) := sc.dispatch S.toAudience action
    advance S (next (Dispatched.fault? dispatched)) sc
  | .wait seconds next, sc =>
    let sc := sc.mapMemory (S.waits seconds)
    match S.waitFault? seconds sc.memory with
    | some fault => advance S (next (some (.failed fault))) sc
    | none => (sc, .waiting seconds next)
  | .clock next, sc => advance S (next (S.now sc.memory)) sc
  | .enter status next, sc => advance S next { sc with status }
  | .log line next, sc => advance S next (sc.mapMemory (S.log line))
  | .notify text next, sc => advance S next (sc.mapMemory (S.notify text))

/-- Goes on to the end; `answer` answers each wait and keeps account in a `τ`. -/
def carry {τ : Type} (S : Surroundings σ ι)
    (answer : Datum → Scene σ ι → τ → (Scene σ ι × τ) × Option Interruption) :
    Walk α → Scene σ ι → τ → (Scene σ ι × τ) × α
  | .done value, sc, t => ((sc, t), value)
  | .look next, sc, t => carry S answer (next sc.state sc.status) sc t
  | .begin _ next, sc, t => carry S answer next sc t
  | .dispatch action next, sc, t =>
    let (sc, dispatched) := sc.dispatch S.toAudience action
    carry S answer (next (Dispatched.fault? dispatched)) sc t
  | .wait seconds next, sc, t =>
    let sc := sc.mapMemory (S.waits seconds)
    match S.waitFault? seconds sc.memory with
    | some fault => carry S answer (next (some (.failed fault))) sc t
    | none =>
      let ((sc, t), interruption) := answer seconds sc t
      carry S answer (next interruption) sc t
  | .clock next, sc, t => carry S answer (next (S.now sc.memory)) sc t
  | .enter status next, sc, t => carry S answer next { sc with status } t
  | .log line next, sc, t => carry S answer next (sc.mapMemory (S.log line)) t
  | .notify text next, sc, t => carry S answer next (sc.mapMemory (S.notify text)) t

end Walk

end SpriteStage
