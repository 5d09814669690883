import SpriteStage.Proofs.Walk.Within

/-!
# What walks dispatch

A walk dispatches *only* actions of a kind if it does so whatever it sees and is answered; that it
may change the status as well sets it apart from a walk that keeps within bounds. All that the
interpreter ever dispatches is to set and clear the flag, and what a run does between
(`Interpreter.run_only`).
-/

namespace SpriteStage

variable {α β : Type} {P Q : Action → Prop}

/-- The action sets or clears the flag, or is one of a run for some actor. -/
inductive Action.Acted (home : Datum) : Action → Prop
  | flag (value : Bool) : Acted home (.setRunning (.bool value))
  | played {actorId : Datum} {a : Action} : a.Played home actorId → Acted home a

/-- Whatever the walk sees and is answered, all that it dispatches is of the kind. -/
inductive Walk.Only (P : Action → Prop) : Walk α → Prop
  | done (value : α) : Only P (.done value)
  | look {next : Snapshot → Status → Walk α} :
      (∀ s status, (next s status).Only P) → Only P (.look next)
  | begin (block : Block) {next : Walk α} : next.Only P → Only P (.begin block next)
  | dispatch {a : Action} {next : Option Fault → Walk α} :
      P a → (∀ fault, (next fault).Only P) → Only P (.dispatch a next)
  | wait (seconds : Datum) {next : Option Interruption → Walk α} :
      (∀ interruption, (next interruption).Only P) → Only P (.wait seconds next)
  | clock {next : Number → Walk α} : (∀ now, (next now).Only P) → Only P (.clock next)
  | enter (status : Status) {next : Walk α} : next.Only P → Only P (.enter status next)
  | log (line : String) {next : Walk α} : next.Only P → Only P (.log line next)
  | notify (text : String) {next : Walk α} : next.Only P → Only P (.notify text next)

namespace Walk

theorem Only.bind {w : Walk α} {f : α → Walk β} (hw : w.Only P) (hf : ∀ a, (f a).Only P) :
    (w.bind f).Only P := by
  induction hw with
  | done value => exact hf value
  | look _ ih => exact .look ih
  | begin block _ ih => exact .begin block ih
  | dispatch ha _ ih => exact .dispatch ha ih
  | wait seconds _ ih => exact .wait seconds ih
  | clock _ ih => exact .clock ih
  | enter status _ ih => exact .enter status ih
  | log line _ ih => exact .log line ih
  | notify text _ ih => exact .notify text ih

theorem Only.mono (hPQ : ∀ a, P a → Q a) {w : Walk α} (hw : w.Only P) : w.Only Q := by
  induction hw with
  | done value => exact .done value
  | look _ ih => exact .look ih
  | begin block _ ih => exact .begin block ih
  | dispatch ha _ ih => exact .dispatch (hPQ _ ha) ih
  | wait seconds _ ih => exact .wait seconds ih
  | clock _ ih => exact .clock ih
  | enter status _ ih => exact .enter status ih
  | log line _ ih => exact .log line ih
  | notify text _ ih => exact .notify text ih

theorem Within.only {w : Walk α} (hw : w.Within P) : w.Only P := by
  induction hw with
  | done value => exact .done value
  | look _ ih => exact .look ih
  | begin block _ ih => exact .begin block ih
  | dispatch ha _ ih => exact .dispatch ha ih
  | wait seconds _ ih => exact .wait seconds ih
  | clock _ ih => exact .clock ih
  | log line _ ih => exact .log line ih
  | notify text _ ih => exact .notify text ih

end Walk

namespace Interpreter

variable (I : Interpreter) (actorId home : Datum)

theorem animate_made (a : Actor) : (I.animate actorId a).Made (Action.Acted I.home) := by
  obtain ⟨rest, hrest, hanimate⟩ := I.exists_animate_eq actorId a
  rw [hanimate]
  exact .bind (.dispatch (.flag true)) fun _ => hrest.mono fun _ => .played

theorem clearing_only {next : Walk (Except Interruption α)}
    (h : next.Only (Action.Acted home)) : (clearing next).Only (Action.Acted home) := by
  refine .dispatch (.flag false) fun fault => ?_
  cases fault with
  | none => exact h
  | some fault => exact .done _

theorem finish_only (outcome : Except Interruption Unit) :
    (finish actorId outcome).Only (Action.Acted home) := by
  match outcome with
  | .ok () => exact .enter _ <| clearing_only home <| .log _ <| .notify _ <| .done _
  | .error (.failed fault) =>
    exact .enter _ <| .log _ <| .notify _ <| clearing_only home <| .done _
  | .error .cancelled => exact .enter _ <| clearing_only home <| .done _

/-- **All that the interpreter dispatches**, whatever it is asked to run. -/
theorem run_only (address : Datum) : (I.run address).Only (Action.Acted I.home) := by
  refine .look fun s status => ?_
  cases accept s status address with
  | error cause =>
    simp only
    cases cause.notice? with
    | none => exact .done _
    | some text => exact .notify _ (.done _)
  | ok a =>
    exact .enter _ <| .log _ <| (I.animate_made _ a).within.only.bind (finish_only _ I.home)

end Interpreter

end SpriteStage
