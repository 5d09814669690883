import SpriteStage.Transition
import SpriteStage.Settings

/-!
# The store

The store holds the present snapshot, the most recent of those it replaced, and the listeners that
are told of each replacement. A listener stands in the list once for each time that it subscribed,
and an unsubscription takes its first entry out.
-/

namespace SpriteStage

/-- A store with listeners of type `ι`. -/
structure Store (ι : Type) where
  state : Snapshot := {}
  /-- How many earlier snapshots are kept; none if it is not positive. -/
  limit : Datum := .int Settings.standard.history
  /-- The earlier snapshots, oldest first. -/
  history : List Snapshot := []
  listeners : List ι := []
  /-- How often the snapshot was replaced. -/
  revision : Nat := 0

namespace Store

variable {ι : Type}

/-- The last `n` items of a list. -/
def lastOf {α : Type} (n : Nat) (items : List α) : List α := items.drop (items.length - n)

/-- The history with one more snapshot, within its limit. Nothing is dropped for a positive limit
that is no whole number. -/
def remember (limit : Datum) (history : List Snapshot) (s : Snapshot) : List Snapshot :=
  match limit.asNumber? with
  | some (.int n) => if 0 < n then lastOf n.toNat (history ++ [s]) else history
  | some (.float x) => if Double.zero < x then history ++ [s] else history
  | none => history

/-- Why a limit cannot be kept: it is no number, or positive and no whole number. -/
def limitFault? (limit : Datum) : Option Fault :=
  match limit.asNumber? with
  | some (.int _) => none
  | some (.float x) => if Double.zero < x then some .notCount else none
  | none => some (.notOrdered limit.kind)

/-- The store with another present snapshot. -/
def replace (s : Store ι) (next : Snapshot) : Store ι :=
  { s with
    state := next
    history := remember s.limit s.history s.state
    revision := s.revision + 1 }

/-- The store with one more entry of a listener, at the end. -/
def subscribe (s : Store ι) (listener : ι) : Store ι :=
  { s with listeners := s.listeners ++ [listener] }

/-- The store without the first entry of a listener, if there is one. -/
def unsubscribe [DecidableEq ι] (s : Store ι) (listener : ι) : Store ι :=
  { s with listeners := s.listeners.erase listener }

end Store

end SpriteStage
