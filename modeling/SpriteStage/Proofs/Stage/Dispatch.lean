import SpriteStage.Stage.Backstage
import SpriteStage.Proofs.Store.Aloof

/-!
# Dispatches on a stage

The listeners of a stage take note of what they are told, and no more. So a dispatch is carried out
in one step, which one equation describes (`StageScene.send_eq`): what is remarked on the action,
the snapshot that it puts in place, and what each listener makes of that.
-/

namespace SpriteStage

namespace Backstage

/-- The backstage with what the log says about an action. -/
def remarked (action : Action) (b : Backstage) : Backstage :=
  match action.remark? with
  | some line => b.noting (·.log line)
  | none => b

/-- The backstage after a listener was told of a transition. -/
def heed (t : Transition) (b : Backstage) : Listener → Backstage
  | .detector => b.watch t
  | .recorder => b.noting (·.record (.action t.action))

/-- All that counts of a transition is the action, and whether the flag was set before and after. -/
theorem heed_congr {t t' : Transition} (haction : t'.action = t.action)
    (hprevious : t'.previous.running = t.previous.running)
    (hcurrent : t'.current.running = t.current.running) : heed t' = heed t := by
  funext b listener
  cases listener with
  | detector => simp only [heed, watch, hprevious, hcurrent]
  | recorder => simp only [heed, haction]

/-- The listeners of a stage only take note. -/
theorem tell_eq (send : Action → Hall Backstage Listener → Hall Backstage Listener × Dispatched)
    (t : Transition) (listeners : List Listener) (h : Hall Backstage Listener) :
    Audience.tell surroundings.toAudience send t listeners h =
      ({ h with memory := listeners.foldl (heed t) h.memory }, none) := by
  induction listeners generalizing h with
  | nil => rfl
  | cons listener rest ih => cases listener <;> exact ih _

end Backstage

namespace StageScene

variable {sc : StageScene}

/-- **What a dispatch on a stage does.** If the action is carried out, the snapshot is replaced and
all listeners take note, unless the limit of the history cannot be kept. -/
theorem send_eq (sc : StageScene) (a : Action) : sc.send a =
    match sc.state.attempt a with
    | .error fault => (sc.mapMemory (Backstage.remarked a), .error fault)
    | .ok none => (sc.mapMemory (Backstage.remarked a), .ok none)
    | .ok (some next) =>
      match Store.limitFault? sc.store.limit with
      | some fault =>
        ({ sc with
          store := sc.store.replace next
          memory := sc.memory.remarked a }, .error fault)
      | none =>
        ({ sc with
          store := sc.store.replace next
          memory := sc.store.listeners.foldl (Backstage.heed (sc.store.announced a next))
            (sc.memory.remarked a) }, .ok (some next)) := by
  let A := Backstage.surroundings.toAudience
  have hsend : sc.send a = ({ sc with toHall := (A.dispatch a sc.toHall).1 },
    (A.dispatch a sc.toHall).2) := rfl
  have hremarked : A.remarked a sc.toHall =
      { sc.toHall with memory := sc.memory.remarked a } := by
    unfold Audience.remarked Backstage.remarked
    cases a.remark? <;> rfl
  rw [hsend, Audience.dispatch, Audience.room]
  match ha : sc.state.attempt a with
  | .error fault =>
    rw [Audience.dispatchWithin_of_error ha, hremarked]
    rfl
  | .ok none =>
    rw [Audience.dispatchWithin_of_none ha, hremarked]
    rfl
  | .ok (some next) =>
    cases hl : Store.limitFault? sc.store.limit with
    | some fault =>
      rw [Audience.dispatchWithin_of_limitFault ha hl, Audience.replaced, hremarked]
    | none =>
      rw [Audience.dispatchWithin_of_some ha hl, Backstage.tell_eq, Audience.replaced, hremarked]
      rfl

/-- What a dispatch on a stage does to a store that keeps its history, if the action is carried out.
-/
theorem send_of_some {a : Action} {next : Snapshot} (hkeeps : sc.store.Keeps)
    (ha : sc.state.attempt a = .ok (some next)) : sc.send a =
      ({ sc with
        store := sc.store.replace next
        memory := sc.store.listeners.foldl (Backstage.heed (sc.store.announced a next))
          (sc.memory.remarked a) }, .ok (some next)) := by
  rw [send_eq, ha, hkeeps]

end StageScene

end SpriteStage
