import SpriteStage.Number.Basic
import SpriteStage.Text.Hex

/-!
# Identifiers and choices

New blocks and actors need identifiers, and new actors need a costume and a place. Both come from a
supply that is laid down beforehand, so that a session can be repeated. Where the supply has run
out, identifiers count on, a choice is the first one and a random number is one half.
-/

namespace SpriteStage

/-- What identifiers and choices are drawn from. -/
structure Supply where
  /-- How many identifiers were drawn. -/
  drawn : Nat := 0
  /-- The identifiers to draw first. -/
  given : List String := []
  /-- The choices to come. -/
  choices : List Int := []
  /-- The random numbers to come, each from zero to one. -/
  randoms : List Number := []

namespace Supply

/-- The length of an identifier before it is cut. -/
def idLength : Nat := 32

/-- Fills a text up with zeros at its end. -/
def filled (cs : List Char) : List Char := cs ++ List.replicate (idLength - cs.length) '0'

/-- Draws an identifier and cuts it to a length. -/
def drawId (s : Supply) (length : Nat) : String × Supply :=
  let full := match s.given[s.drawn]? with
    | some id => filled id.toList
    | none => filled (Text.hex 8 (s.drawn + 1))
  (String.ofList (full.take length), { s with drawn := s.drawn + 1 })

/-- Draws the identifier of a block. -/
def drawBlockId (s : Supply) : String × Supply := s.drawId 9

/-- Draws the identifier of an actor. -/
def drawActorId (s : Supply) : String × Supply :=
  let (id, s) := s.drawId 8
  ("sprite-" ++ id, s)

/-- Draws one of `n` positions. -/
def choose (s : Supply) (n : Nat) : Nat × Supply :=
  match s.choices with
  | [] => (0, s)
  | c :: rest => ((c.emod n).toNat, { s with choices := rest })

/-- Draws a random number. -/
def random (s : Supply) : Number × Supply :=
  match s.randoms with
  | [] => (.float 0.5, s)
  | r :: rest => (r, { s with randoms := rest })

end Supply

end SpriteStage
