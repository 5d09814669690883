import SpriteStage.Proofs.Walk.Within

/-!
# Walks under way

While a walk is *under way* it can wait any number of times, but it does not come to its end before
it has changed the status, and after that it does not wait any more. The walk of a run that is not
refused is of this kind from the moment at which it sets the running flag
(`Interpreter.exists_course_eq`). So a run that waits is a run whose status stands at `running`.
-/

namespace SpriteStage

variable {α β : Type} {P : Action → Prop}

/-- What clears the running flag. -/
def Action.clearing : Action := .setRunning (.bool false)

namespace Walk

/-- The walk comes to its end without a wait; it dispatches no more than the clearing of the running
flag, and leaves the status alone. -/
inductive Closing : Walk α → Prop
  | done (value : α) : Closing (.done value)
  | clear {next : Option Fault → Walk α} :
      (∀ fault, (next fault).Closing) → Closing (.dispatch (.setRunning (.bool false)) next)
  | log (line : String) {next : Walk α} : next.Closing → Closing (.log line next)
  | notify (text : String) {next : Walk α} : next.Closing → Closing (.notify text next)

/-- The walk keeps within a kind of actions until it changes the status, and then it closes. -/
inductive Underway (P : Action → Prop) : Walk α → Prop
  | look {next : Snapshot → Status → Walk α} :
      (∀ s status, (next s status).Underway P) → Underway P (.look next)
  | begin (block : Block) {next : Walk α} : next.Underway P → Underway P (.begin block next)
  | dispatch {a : Action} {next : Option Fault → Walk α} :
      P a → (∀ fault, (next fault).Underway P) → Underway P (.dispatch a next)
  | wait (seconds : Datum) {next : Option Interruption → Walk α} :
      (∀ interruption, (next interruption).Underway P) → Underway P (.wait seconds next)
  | clock {next : Number → Walk α} : (∀ now, (next now).Underway P) → Underway P (.clock next)
  | enter {status : Status} {next : Walk α} :
      status ≠ .running → next.Closing → Underway P (.enter status next)
  | log (line : String) {next : Walk α} : next.Underway P → Underway P (.log line next)
  | notify (text : String) {next : Walk α} : next.Underway P → Underway P (.notify text next)

theorem Within.bind_underway {w : Walk α} {f : α → Walk β} (hw : w.Within P)
    (hf : ∀ a, (f a).Underway P) : (w.bind f).Underway P := by
  induction hw with
  | done value => exact hf value
  | look _ ih => exact .look ih
  | begin block _ ih => exact .begin block ih
  | dispatch ha _ ih => exact .dispatch ha ih
  | wait seconds _ ih => exact .wait seconds ih
  | clock _ ih => exact .clock ih
  | log line _ ih => exact .log line ih
  | notify text _ ih => exact .notify text ih

end Walk

namespace Interpreter

variable (I : Interpreter) (actorId : Datum)

theorem clearing_closing {next : Walk (Except Interruption α)} (h : next.Closing) :
    (clearing next).Closing := by
  refine .clear fun fault => ?_
  cases fault with
  | none => exact h
  | some fault => exact .done _

/-- However the blocks have ended, the end of the run changes the status and then closes. -/
theorem finish_underway (outcome : Except Interruption Unit) :
    (finish actorId outcome).Underway P := by
  match outcome with
  | .ok () => exact .enter (by simp) <| clearing_closing <| .log _ <| .notify _ <| .done _
  | .error (.failed fault) =>
    exact .enter (by simp) <| .log _ <| .notify _ <| clearing_closing <| .done _
  | .error .cancelled => exact .enter (by simp) <| clearing_closing <| .done _

/-- A run that is not refused sets the running flag and is then under way, within play. -/
theorem exists_course_eq (a : Actor) :
    ∃ next : Option Fault → Walk (Except Interruption RunResult),
      (I.animate actorId a).run.bind (finish actorId) =
        .dispatch (.setRunning (.bool true)) next ∧
      ∀ fault, (next fault).Underway Action.Play := by
  obtain ⟨rest, hrest, hanimate⟩ := I.exists_animate_eq actorId a
  rw [hanimate]
  refine ⟨_, rfl, fun fault => ?_⟩
  refine Walk.Within.bind_underway ?_ (finish_underway actorId)
  cases fault with
  | none => exact hrest.within.mono fun _ => Action.Played.play
  | some fault => exact .done _

end Interpreter

end SpriteStage
