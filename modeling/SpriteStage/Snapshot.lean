import SpriteStage.Actor

/-!
# Snapshots

A snapshot is the whole state of the stage: the actors in their order, which of them is active, and
whether a program runs. Where several actors have one identifier, the first is the one meant.
-/

namespace SpriteStage

/-- The whole state of the stage at one moment. -/
structure Snapshot where
  actors : List Actor := []
  activeActorId : Datum := .null
  isRunning : Datum := .bool false
  deriving Inhabited

namespace Snapshot

/-- Whether the running flag counts as set. -/
def running (s : Snapshot) : Bool := s.isRunning.truthy

/-- The first actor that has this identifier, be it nothing. -/
def holder? (s : Snapshot) (id : Datum) : Option Actor := s.actors.find? (·.hasId id)

/-- The actor that an identifier names. Nothing names nobody, not even an actor that has nothing for
its identifier. -/
def actor? (s : Snapshot) : Datum → Option Actor
  | .null => none
  | id => s.holder? id

/-- The active actor. -/
def activeActor? (s : Snapshot) : Option Actor := s.actor? s.activeActorId

/-- The identifier that an address means: the address itself or, if it does not count as true, the
identifier of the active actor. -/
def addressee (s : Snapshot) (address : Datum) : Datum :=
  if address.truthy then address else s.activeActorId

/-- The actor that an address means. -/
def addressed? (s : Snapshot) (address : Datum) : Option Actor := s.actor? (s.addressee address)

end Snapshot

end SpriteStage
