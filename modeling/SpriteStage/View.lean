import SpriteStage.Record
import SpriteStage.Settings

/-!
# The view of a snapshot

For display, each actor is shown with all its fields, how many blocks its program has and whether it
is the active one, and the snapshot with the size of the stage.
-/

namespace SpriteStage

/-- An actor for display; `active` is the identifier of the active actor. -/
def Actor.view (active : Datum) (a : Actor) : Datum :=
  .object <| a.toFields.append
    [("block_count", .int (Forest.size a.blocks)), ("active", .bool (a.hasId active))]

/-- A snapshot for display. -/
def Snapshot.view (s : Snapshot) : Datum :=
  .object [("actors", .list (s.actors.map (Actor.view s.activeActorId))),
    ("active_actor_id", s.activeActorId), ("is_running", s.isRunning),
    ("stage", .object [("width", .int Settings.standard.width),
      ("height", .int Settings.standard.height)])]

end SpriteStage
