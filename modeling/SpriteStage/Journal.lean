import SpriteStage.Interpreter

/-!
# The journal

The journal records what happens, in order: lines of the log, notices to the user, actions that were
carried out, waits that were begun and requests for a run that were answered while one was under
way.
-/

namespace SpriteStage

/-- Something that happened. -/
inductive Event where
  /-- A line was written to the log. -/
  | log (line : String)
  /-- The user was given a notice. -/
  | notice (text : String)
  /-- An action was carried out. -/
  | action (action : Action)
  /-- A wait was begun. -/
  | wait (seconds : Datum)
  /-- A request for a run was answered while a run waited. -/
  | answered (result : RunResult)

/-- The record of what happened since it was last taken. -/
structure Journal where
  /-- What a notice begins with when it goes to the log; none if there is somebody to be notified.
  -/
  noticeLead : Option String := none
  /-- What happened, latest first. -/
  latest : List Event := []

namespace Journal

/-- The journal with one more event. -/
def record (event : Event) (j : Journal) : Journal := { j with latest := event :: j.latest }

/-- The lines of a text. -/
def linesOf (text : String) : List String := text.splitOn "\n"

/-- The journal with a text in the log, line by line. -/
def log (text : String) (j : Journal) : Journal :=
  (linesOf text).foldl (fun j line => j.record (.log line)) j

/-- The journal with a notice, which is a text in the log if nobody is there to be notified. -/
def notify (text : String) (j : Journal) : Journal :=
  match j.noticeLead with
  | none => j.record (.notice text)
  | some lead => j.log (lead ++ text)

/-- What happened, in order, and the journal without it. -/
def take (j : Journal) : List Event × Journal := (j.latest.reverse, { j with latest := [] })

end Journal

end SpriteStage
