import SpriteStage.Snapshot
import SpriteStage.Datum.Arithmetic

/-!
# Collisions

An actor counts as a circle around its place with its width as the diameter. Two actors overlap if
their places are closer than half the sum of their widths. Pairs of actors are looked at in the
order of the snapshot, the earlier actor first, and a pair that was dealt with is passed over. To
see whether it was, both identifiers are looked up.
-/

namespace SpriteStage

/-- Two actors by their identifiers, the earlier first. -/
abbrev Pair := Datum × Datum

namespace Pair

/-- Whether two pairs count as one entry of a set. -/
def sameEntry (p q : Pair) : Bool := p.1.sameEntry q.1 && p.2.sameEntry q.2

/-- Whether a pair is among those that were dealt with. -/
def isAmong (handled : List Pair) (p : Pair) : Bool := handled.any p.sameEntry

/-- The pairs that were dealt with, and one more. -/
def note (p : Pair) (handled : List Pair) : List Pair :=
  if p.isAmong handled then handled else p :: handled

/-- Why a pair cannot be looked up. -/
def keyFault? (p : Pair) : Option Fault := Fault.of? p.1.asKey <|> Fault.of? p.2.asKey

end Pair

namespace Actor

/-- The distance of the places of two actors. -/
def distance (a b : Actor) : Except Fault Float := do
  let dx ← a.x.sub b.x
  let dy ← a.y.sub b.y
  return Double.hypot (← dx.toFloat) (← dy.toFloat)

/-- Whether two actors overlap. -/
def overlaps (a b : Actor) : Except Fault Bool := do
  let distance ← distance a b
  let reach ← (← a.width.add b.width).half
  return distance < reach

end Actor

/-- The first of the later actors that overlaps an actor, leaving out the pairs that were handled.
-/
def firstPartner? (handled : List Pair) (a : Actor) : List Actor → Except Fault (Option Actor)
  | [] => .ok none
  | b :: rest =>
    let pair : Pair := (a.id, b.id)
    match pair.keyFault? with
    | some fault => .error fault
    | none =>
      if pair.isAmong handled then firstPartner? handled a rest
      else do
        if ← a.overlaps b then return some b
        firstPartner? handled a rest

/-- The first pair of actors that overlap and were not handled. -/
def firstCollision? (handled : List Pair) : List Actor → Except Fault (Option (Actor × Actor))
  | [] => .ok none
  | a :: rest => do
    match ← firstPartner? handled a rest with
    | some b => return some (a, b)
    | none => firstCollision? handled rest

end SpriteStage
