import SpriteStage.Store.Dispatch

/-!
# Walks

A walk is what the interpreter does, written as straight-line code and kept as data: what it asks
for, and how it goes on with each answer. So a walk can be stopped at its waits and taken up again,
and others can act in between.
-/

namespace SpriteStage

/-- How the interpreter stands. -/
inductive Status where
  | idle | running | done | failed
  deriving DecidableEq

/-- The name of a status. -/
def Status.name : Status → String
  | idle => "idle"
  | running => "running"
  | done => "done"
  | failed => "failed"

/-- What can end a walk before its time. -/
inductive Interruption where
  /-- Something failed. -/
  | failed (fault : Fault)
  /-- The walk was called off while it waited. -/
  | cancelled
  deriving DecidableEq

/-- A walk that comes to a value. -/
inductive Walk (α : Type) where
  | done (value : α)
  /-- Looks at the store and at the status. -/
  | look (next : Snapshot → Status → Walk α)
  /-- Begins a block, in the form that it has then. -/
  | begin (block : Block) (next : Walk α)
  /-- Dispatches an action, which may fail. -/
  | dispatch (action : Action) (next : Option Fault → Walk α)
  /-- Waits for some seconds, unless it is interrupted. -/
  | wait (seconds : Datum) (next : Option Interruption → Walk α)
  /-- Reads the clock. -/
  | clock (next : Number → Walk α)
  /-- Changes the status. -/
  | enter (status : Status) (next : Walk α)
  /-- Writes a line to the log. -/
  | log (line : String) (next : Walk α)
  /-- Gives the user a notice. -/
  | notify (text : String) (next : Walk α)

namespace Walk

variable {α β : Type}

/-- One walk after the other. -/
def bind : Walk α → (α → Walk β) → Walk β
  | .done value, f => f value
  | .look next, f => .look fun s status => (next s status).bind f
  | .begin block next, f => .begin block (next.bind f)
  | .dispatch action next, f => .dispatch action fun fault => (next fault).bind f
  | .wait seconds next, f => .wait seconds fun interruption => (next interruption).bind f
  | .clock next, f => .clock fun now => (next now).bind f
  | .enter status next, f => .enter status (next.bind f)
  | .log line next, f => .log line (next.bind f)
  | .notify text next, f => .notify text (next.bind f)

instance : Monad Walk where
  pure := .done
  bind := bind

end Walk

/-- A walk that may end before its time. -/
abbrev Attempt (α : Type) := ExceptT Interruption Walk α

namespace Attempt

/-- Goes on with the value that data has, or fails with its fault. -/
def ofExcept {α : Type} : Except Fault α → Attempt α
  | .ok value => pure value
  | .error fault => throw (.failed fault)

/-- Looks at the store. -/
def snapshot : Attempt Snapshot := ExceptT.lift (.look fun s _ => .done s)

/-- Begins a block. -/
def begin (b : Block) : Attempt Unit := ExceptT.lift (.begin b (.done ()))

/-- Dispatches an action. -/
def dispatch (action : Action) : Attempt Unit :=
  ExceptT.mk (.dispatch action fun
    | none => .done (.ok ())
    | some fault => .done (.error (.failed fault)))

/-- Waits for some seconds. -/
def wait (seconds : Datum) : Attempt Unit :=
  ExceptT.mk (.wait seconds fun
    | none => .done (.ok ())
    | some interruption => .done (.error interruption))

/-- Reads the clock. -/
def clock : Attempt Number := ExceptT.lift (.clock .done)

/-- Writes a line to the log. -/
def log (line : String) : Attempt Unit := ExceptT.lift (.log line (.done ()))

/-- Gives the user a notice. -/
def notify (text : String) : Attempt Unit := ExceptT.lift (.notify text (.done ()))

/-- Does the same some times over. -/
def times : Nat → Attempt Unit → Attempt Unit
  | 0, _ => pure ()
  | n + 1, body => do
    body
    times n body

/-- Does something with each item of a list, in order. -/
def each {α : Type} (body : α → Attempt Unit) : List α → Attempt Unit
  | [] => pure ()
  | item :: rest => do
    body item
    each body rest

end Attempt

end SpriteStage
