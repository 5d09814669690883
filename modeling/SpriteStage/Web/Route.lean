import SpriteStage.Web.Target

/-!
# Routes

A path leads to a route, and a route takes some methods. What stands in the path for an identifier
is not empty and holds no braces.
-/

namespace SpriteStage.Web

/-- Where a path leads. -/
inductive Route where
  | state
  | blocks
  | block (id : String)
  | children (id : String)
  | actors
  | actor (id : String)
  | select (id : String)
  | run
  | stop

/-- What is done at a route. -/
inductive Handler where
  | view
  | addBlock
  | clearBlocks
  | updateBlock (id : String)
  | removeBlock (id : String)
  | addChild (id : String)
  | addActor
  | removeActor (id : String)
  | selectActor (id : String)
  | startRun
  | stop

namespace Route

/-- The identifier that a segment stands for. -/
def identifier? (segment : String) : Option String :=
  if segment.isEmpty || segment.toList.any (fun c => c == '\x7b' || c == '\x7d') then none
  else some (decodeSegment segment)

/-- The route of the segments of a path. -/
def ofSegments? : List String → Option Route
  | ["state"] => some .state
  | ["blocks"] => some .blocks
  | ["blocks", id] => (identifier? id).map .block
  | ["blocks", id, "children"] => (identifier? id).map .children
  | ["actors"] => some .actors
  | ["actors", id] => (identifier? id).map .actor
  | ["actors", id, "select"] => (identifier? id).map .select
  | ["run"] => some .run
  | ["stop"] => some .stop
  | _ => none

/-- The methods of a route, with what each does. -/
def methods : Route → List (String × Handler)
  | state => [("GET", .view), ("HEAD", .view)]
  | blocks => [("POST", .addBlock), ("DELETE", .clearBlocks)]
  | block id => [("PATCH", .updateBlock id), ("DELETE", .removeBlock id)]
  | children id => [("POST", .addChild id)]
  | actors => [("POST", .addActor)]
  | actor id => [("DELETE", .removeActor id)]
  | select id => [("POST", .selectActor id)]
  | run => [("POST", .startRun)]
  | stop => [("POST", .stop)]

/-- One route of each form. -/
def forms : List Route :=
  [state, blocks, block "", children "", actors, actor "", select "", run, stop]

/-- How many pairs of a route and a method there are. -/
def count : Nat := (forms.flatMap (·.methods)).length

end Route

end SpriteStage.Web
