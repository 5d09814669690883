import SpriteStage.Stage.Basic
import SpriteStage.Json.Reader
import SpriteStage.Json.Writer
import SpriteStage.View
import SpriteStage.Web.Route

/-!
# Handling requests

A request is routed, its body is read if its handler needs one, and the answer of the stage becomes
a response. The status of a response tells what became of the request: 200 or 202 if it was carried
out, 400 for bad input, 404 for what is not there, 405 for a method that the route does not take and
409 for what a running program, or being the last actor, stands in the way of.
-/

namespace SpriteStage.Web

/-- A request. -/
structure Request where
  method : String
  target : String
  body : List UInt8

/-- A response. -/
structure Response where
  status : Nat
  contentType : String
  body : String

namespace Response

/-- A response in plain text. -/
def plain (status : Nat) (body : String) : Response := ⟨status, "text/plain", body⟩

/-- A response with data that can be written. -/
def json (status : Nat) (d : Datum) : Response := ⟨status, "application/json", Json.textOf d⟩

/-- The response to a path that leads nowhere. -/
def notFound : Response := plain 404 "404: Not Found"

/-- The response to a method that a route does not take. -/
def methodNotAllowed : Response := plain 405 "405: Method Not Allowed"

end Response

/-- The status for a refusal. -/
def statusOf : Refusal → Nat
  | .notFound => 404
  | .unknownKind | .badRequest => 400
  | .running | .lastActor | .alreadyRunning => 409

/-- The status for an answer. -/
def statusOfAnswer : Answer → Nat
  | .done .. => 200
  | .refused cause _ => statusOf cause

/-- The response to a request that is refused before the stage has to do with it. -/
def refusal (cause : Refusal) : Response :=
  Response.json (statusOf cause)
    (.object [("success", .bool false), ("error", .str cause.code)])

/-- What the body of a request holds: no fields if it is empty or no object, nothing if it does not
read as text and JSON. A body whose numbers are too long is a failure. -/
def readBody (body : List UInt8) : Except Fault (Option Fields) :=
  if body.isEmpty then .ok (some [])
  else
    match Text.decodeUtf8? body with
    | none => .ok none
    | some cs =>
      match Json.read cs with
      | .error .malformed => .ok none
      | .error (.tooLong digits) => .error (.tooManyDigits digits)
      | .ok (.object fields) => .ok (some fields)
      | .ok _ => .ok (some [])

open Stage (Work)

/-- Responds with data; data that cannot be written is a failure. -/
def send (status : Nat) (d : Datum) : Work Response := do
  let body ← ExceptT.mk (pure (Json.write d))
  return ⟨status, "application/json", body⟩

/-- Responds with an answer. -/
def respond (a : Answer) : Work Response := send (statusOfAnswer a) (.object a.toFields)

/-- Goes on with the fields of the body, or refuses the request. -/
def withBody (r : Request) (next : Fields → Work Response) : Work Response := do
  match ← ExceptT.mk (pure (readBody r.body)) with
  | some fields => next fields
  | none => return refusal .badRequest

/-- A field of a body, nothing if it is missing. -/
def bodyField (fields : Fields) (key : String) : Datum := (fields.get? key).getD .null

/-- Handles a request that names a kind of block. -/
def withKind (r : Request) (next : Datum → Datum → Work Answer) : Work Response :=
  withBody r fun fields =>
    match bodyField fields "kind" with
    | .str kind => next (.str kind) (bodyField fields "actor_id") >>= respond
    | _ => return refusal .badRequest

/-- Does what a handler says. -/
def perform (r : Request) (t : Target) (h : Handler) : Work Response :=
  let addressInQuery := Datum.ofText? (t.queryValue? "actor_id")
  match h with
  | .view => do send 200 (← Work.state).view
  | .addBlock => withKind r Stage.addBlock
  | .clearBlocks => Stage.clearBlocks addressInQuery >>= respond
  | .updateBlock id => withBody r fun fields =>
    match bodyField fields "params" with
    | .object params =>
      Stage.updateBlock (.str id) (.object params) (bodyField fields "actor_id") >>= respond
    | _ => return refusal .badRequest
  | .removeBlock id => Stage.removeBlock (.str id) addressInQuery >>= respond
  | .addChild id => withKind r (Stage.addChild (.str id))
  | .addActor => Stage.addActor >>= respond
  | .removeActor id => Stage.removeActor (.str id) >>= respond
  | .selectActor id => Stage.selectActor (.str id) >>= respond
  | .startRun => withBody r fun fields => do
    let (started, s) := (← get).startRun (bodyField fields "actor_id")
    set s
    return if started then
        Response.json 202 (.object [("success", .bool true), ("started", .bool true)])
      else refusal .alreadyRunning
  | .stop => Stage.stop >>= respond

/-- Handles a request. -/
def handle (r : Request) : Work Response := do
  let t ← ExceptT.mk (pure (Target.parse r.target))
  match Route.ofSegments? t.segments with
  | none => return Response.notFound
  | some route =>
    match route.methods.lookup r.method with
    | none => return Response.methodNotAllowed
    | some h => perform r t h

/-- Notes in the log that the routes are there. -/
def announce : Work Unit :=
  Work.mapScene (StageScene.log ("[Web] routes registered (" ++ toString Route.count ++ ")"))

end SpriteStage.Web
