import SpriteStage.Stage.Backstage
import SpriteStage.Datum.Written

/-!
# Detection

One look of the detector at a running stage swaps the moves of at most one pair: the first that
overlaps and was not handled in this run.
-/

namespace SpriteStage.StageScene

/-- Swaps the moves of a pair and notes it as handled. -/
def swap (a b : Actor) (sc : StageScene) : StageScene × Option Fault :=
  match sc.send (.swapMoves a.id b.id) with
  | (sc, .error fault) => (sc, some fault)
  | (sc, .ok _) =>
    let handled := Pair.note (a.id, b.id) sc.memory.detector.handled
    let sc := Scene.mapMemory (Backstage.withHandled handled) sc
    let sc := StageScene.log ("[Collision] " ++ a.id.label ++ " <-> " ++ b.id.label ++ " swapped") sc
    let text := a.name.label ++ " collided with " ++ b.name.label ++ "! Animations swapped!"
    (StageScene.notify text sc, none)

/-- Looks once for a collision: the pair that was swapped, if there was one. -/
def check (sc : StageScene) : StageScene × Except Fault (Option Pair) :=
  if sc.state.running then
    match firstCollision? sc.memory.detector.handled sc.state.actors with
    | .error fault => (sc, .error fault)
    | .ok none => (sc, .ok none)
    | .ok (some (a, b)) =>
      match swap a b sc with
      | (sc, some fault) => (sc, .error fault)
      | (sc, none) => (sc, .ok (some (a.id, b.id)))
  else (sc, .ok none)

/-- Lets the detector listen to the store. -/
def attach (sc : StageScene) : StageScene :=
  if sc.memory.detector.attached then sc
  else { sc with
    store := sc.store.subscribe .detector
    memory := { sc.memory with detector := { sc.memory.detector with attached := true } } }

/-- Lets the detector listen no longer. -/
def detach (sc : StageScene) : StageScene :=
  if sc.memory.detector.attached then { sc with
    store := sc.store.unsubscribe .detector
    memory := { sc.memory with detector := { sc.memory.detector with attached := false } } }
  else sc

/-- Lets the detector begin a tick loop. -/
def start (sc : StageScene) : StageScene := Scene.mapMemory Backstage.startTicking sc

end SpriteStage.StageScene
