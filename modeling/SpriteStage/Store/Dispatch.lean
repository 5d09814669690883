import SpriteStage.Store.Basic

/-!
# Dispatching

An action that is carried out replaces the snapshot, and then the entries that are in the list at
that moment are told, in order. A listener may react by dispatching further actions, which are dealt
with in full before it goes on, by changing the list, or by failing. A failure comes out of the
dispatch and the later entries are not told, but the replacement stands; so it does if the limit of
the history cannot be kept, and then nobody is told. An action that fails or is not carried out
changes nothing and nobody is told.
-/

namespace SpriteStage

/-- A replacement that listeners are told of. -/
structure Transition where
  previous : Snapshot
  current : Snapshot
  action : Action
  /-- The number of the replacement. -/
  revision : Nat

/-- What a listener does when it is told of a transition. -/
inductive Reaction (ι : Type) where
  /-- Nothing more. -/
  | done
  /-- It fails. -/
  | raise (fault : Fault)
  /-- It dispatches an action and goes on, knowing whether that failed. -/
  | dispatch (action : Action) (next : Option Fault → Reaction ι)
  /-- It brings in an entry of a listener and goes on. -/
  | subscribe (listener : ι) (next : Reaction ι)
  /-- It takes an entry of a listener out and goes on. -/
  | unsubscribe (listener : ι) (next : Reaction ι)

/-- A failure of a dispatch ends the reaction with the same failure. -/
def Reaction.passOn {ι : Type} : Option Fault → Reaction ι
  | some fault => .raise fault
  | none => .done

/-- The listeners of type `ι`, which share a memory of type `σ`. -/
structure Audience (σ ι : Type) where
  /-- How a listener takes a transition: what it remembers, and how it reacts. -/
  hear : ι → Transition → Store ι → σ → σ × Reaction ι
  /-- How the memory takes a line of the log. -/
  log : String → σ → σ

/-- A store together with what its listeners remember. -/
structure Hall (σ ι : Type) where
  store : Store ι
  memory : σ

/-- What a dispatch comes to: the snapshot it put in place, none if it was not carried out. -/
abbrev Dispatched := Except Fault (Option Snapshot)

/-- The failure of a dispatch. -/
def Dispatched.fault? (d : Dispatched) : Option Fault := Fault.of? d

namespace Audience

variable {σ ι : Type} [DecidableEq ι]

/-- Carries a reaction out; `send` is how it dispatches. -/
def perform (send : Action → Hall σ ι → Hall σ ι × Dispatched) :
    Reaction ι → Hall σ ι → Hall σ ι × Option Fault
  | .done, h => (h, none)
  | .raise fault, h => (h, some fault)
  | .dispatch action next, h =>
    let (h, dispatched) := send action h
    perform send (next (Dispatched.fault? dispatched)) h
  | .subscribe listener next, h =>
    perform send next { h with store := h.store.subscribe listener }
  | .unsubscribe listener next, h =>
    perform send next { h with store := h.store.unsubscribe listener }

/-- Tells the entries of a list one after the other, up to the first that fails. -/
def tell (A : Audience σ ι) (send : Action → Hall σ ι → Hall σ ι × Dispatched) (t : Transition) :
    List ι → Hall σ ι → Hall σ ι × Option Fault
  | [], h => (h, none)
  | listener :: rest, h =>
    let (memory, reaction) := A.hear listener t h.store h.memory
    match perform send reaction { h with memory } with
    | (h, none) => tell A send t rest h
    | (h, some fault) => (h, some fault)

/-- The hall with what the log says about an action. -/
def remarked (A : Audience σ ι) (action : Action) (h : Hall σ ι) : Hall σ ι :=
  match action.remark? with
  | some line => { h with memory := A.log line h.memory }
  | none => h

/-- Dispatches an action, with room for so many dispatches inside each other. -/
def dispatchWithin (A : Audience σ ι) : Nat → Action → Hall σ ι → Hall σ ι × Dispatched
  | 0, _, h => (h, .error .nestedTooDeep)
  | room + 1, action, h =>
    let h := A.remarked action h
    match h.store.state.attempt action with
    | .error fault => (h, .error fault)
    | .ok none => (h, .ok none)
    | .ok (some next) =>
      let store := h.store.replace next
      let t : Transition := ⟨h.store.state, next, action, store.revision⟩
      match Store.limitFault? store.limit with
      | some fault => ({ h with store }, .error fault)
      | none =>
        match tell A (dispatchWithin A room) t store.listeners { h with store } with
        | (h, none) => (h, .ok (some next))
        | (h, some fault) => (h, .error fault)

/-- How many dispatches can be inside each other. The program sets no such limit: the number stands
for the limit on calls inside each other, which is a thousand, where a dispatch takes some three of
them on the way to a listener that dispatches in its turn. What is proved of dispatches does not
depend on it. -/
def room : Nat := 300

/-- Dispatches an action. -/
def dispatch (A : Audience σ ι) (action : Action) (h : Hall σ ι) : Hall σ ι × Dispatched :=
  A.dispatchWithin room action h

end Audience

end SpriteStage
