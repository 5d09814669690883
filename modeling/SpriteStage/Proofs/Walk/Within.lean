import SpriteStage.Proofs.Walk.Leaf

/-!
# Walks within bounds

A walk keeps *within* a kind of actions if it dispatches no others and leaves the status alone,
whatever it sees and is answered. Attempts are *made* of a few things that they can do, and one that
is made of actions of the kind keeps within it (`Attempt.Made.within`). A block does what it can do
for its actor, which is to give it another place, direction or message (`Action.OfBlock`). Between
the setting of the running flag and the end of a run, the interpreter puts all actors to the start
and turns moves besides, and does no more (`Interpreter.exists_animate_eq`); all that is play.
-/

namespace SpriteStage

variable {α β : Type} {P Q : Action → Prop}

/-- The action moves actors about or turns moves. It brings nobody in and takes nobody away, has
nothing to do with what stands where in a program, and leaves the running flag alone. -/
def Action.Play : Action → Prop
  | .updateActor .. | .resetActors .. | .swapMoves .. => True
  | _ => False

/-- The action is one that a block has for its actor: it gives it another place, another direction
or another message. -/
inductive Action.OfBlock (actorId : Datum) : Action → Prop
  | place (x y : Float) :
      OfBlock actorId (.updateActor actorId (.object [("x", .float x), ("y", .float y)]))
  | direction (direction : Float) :
      OfBlock actorId (.updateActor actorId (.object [("direction", .float direction)]))
  | message (message : Datum) :
      OfBlock actorId (.updateActor actorId (.object [("message", message)]))

/-- The action is one of a run for an actor, apart from those that set and clear the flag: it is one
of a block, turns moves, or puts all actors to the start, with a direction to start from. -/
inductive Action.Played (home actorId : Datum) : Action → Prop
  | start : Played home actorId (.resetActors (.float 0.0) (.float 0.0) home)
  | swap (first second : Datum) : Played home actorId (.swapMoves first second)
  | block {a : Action} : a.OfBlock actorId → Played home actorId a

theorem Action.OfBlock.play {actorId : Datum} {a : Action} (h : a.OfBlock actorId) : a.Play := by
  cases h <;> trivial

theorem Action.Played.play {home actorId : Datum} {a : Action} (h : a.Played home actorId) :
    a.Play := by
  cases h with
  | block h => exact h.play
  | _ => trivial

/-- Whatever the walk sees and is answered, it dispatches only actions of the kind and leaves the
status alone. -/
inductive Walk.Within (P : Action → Prop) : Walk α → Prop
  | done (value : α) : Within P (.done value)
  | look {next : Snapshot → Status → Walk α} :
      (∀ s status, (next s status).Within P) → Within P (.look next)
  | begin (block : Block) {next : Walk α} : next.Within P → Within P (.begin block next)
  | dispatch {a : Action} {next : Option Fault → Walk α} :
      P a → (∀ fault, (next fault).Within P) → Within P (.dispatch a next)
  | wait (seconds : Datum) {next : Option Interruption → Walk α} :
      (∀ interruption, (next interruption).Within P) → Within P (.wait seconds next)
  | clock {next : Number → Walk α} : (∀ now, (next now).Within P) → Within P (.clock next)
  | log (line : String) {next : Walk α} : next.Within P → Within P (.log line next)
  | notify (text : String) {next : Walk α} : next.Within P → Within P (.notify text next)

namespace Walk.Within

variable {w : Walk α} {f : α → Walk β}

theorem bind (hw : w.Within P) (hf : ∀ a, (f a).Within P) : (w.bind f).Within P := by
  induction hw with
  | done value => exact hf value
  | look _ ih => exact .look ih
  | begin block _ ih => exact .begin block ih
  | dispatch ha _ ih => exact .dispatch ha ih
  | wait seconds _ ih => exact .wait seconds ih
  | clock _ ih => exact .clock ih
  | log line _ ih => exact .log line ih
  | notify text _ ih => exact .notify text ih

theorem mono (hPQ : ∀ a, P a → Q a) (hw : w.Within P) : w.Within Q := by
  induction hw with
  | done value => exact .done value
  | look _ ih => exact .look ih
  | begin block _ ih => exact .begin block ih
  | dispatch ha _ ih => exact .dispatch (hPQ _ ha) ih
  | wait seconds _ ih => exact .wait seconds ih
  | clock _ ih => exact .clock ih
  | log line _ ih => exact .log line ih
  | notify text _ ih => exact .notify text ih

end Walk.Within

namespace Attempt

/-- The attempt is put together of what an attempt can do, and dispatches only actions of a kind. It
fails of itself only by a fault. -/
inductive Made (P : Action → Prop) : {α : Type} → Attempt α → Prop
  | pure {α : Type} (a : α) : Made P (pure a)
  | fail {α : Type} (fault : Fault) : Made P (throw (.failed fault) : Attempt α)
  | bind {α β : Type} {x : Attempt α} {f : α → Attempt β} :
      Made P x → (∀ a, Made P (f a)) → Made P (x >>= f)
  | snapshot : Made P snapshot
  | begin (b : Block) : Made P (begin b)
  | dispatch {a : Action} : P a → Made P (dispatch a)
  | wait (seconds : Datum) : Made P (wait seconds)
  | clock : Made P clock
  | log (line : String) : Made P (log line)
  | notify (text : String) : Made P (notify text)

namespace Made

theorem mono {x : Attempt α} (hPQ : ∀ a, P a → Q a) (hx : x.Made P) : x.Made Q := by
  induction hx with
  | pure a => exact .pure a
  | fail fault => exact .fail fault
  | bind _ _ hx hf => exact .bind hx hf
  | snapshot => exact .snapshot
  | begin b => exact .begin b
  | dispatch ha => exact .dispatch (hPQ _ ha)
  | wait seconds => exact .wait seconds
  | clock => exact .clock
  | log line => exact .log line
  | notify text => exact .notify text

theorem ofExcept (d : Except Fault α) : Made P (ofExcept d) := by
  cases d with
  | error fault => exact fail fault
  | ok a => exact pure a

theorem times {body : Attempt Unit} (h : body.Made P) (n : Nat) : (times n body).Made P := by
  induction n with
  | zero => exact pure ()
  | succ n ih => exact bind h fun _ => ih

theorem each {body : Block → Attempt Unit} (h : ∀ b, (body b).Made P) (items : List Block) :
    (each body items).Made P := by
  induction items with
  | nil => exact pure ()
  | cons b rest ih => exact bind (h b) fun _ => ih

end Made

/-- The walk of the attempt keeps within a kind of actions. -/
def Within (P : Action → Prop) (x : Attempt α) : Prop := Walk.Within P x.run

namespace Within

variable {x : Attempt α} {f : α → Attempt β}

theorem bind (hx : x.Within P) (hf : ∀ a, (f a).Within P) : Within P (x >>= f) := by
  refine Walk.Within.bind (f := ExceptT.bindCont f) hx fun outcome => ?_
  cases outcome with
  | error e => exact Walk.Within.done _
  | ok a => exact hf a

theorem mono (hPQ : ∀ a, P a → Q a) (hx : x.Within P) : x.Within Q := Walk.Within.mono hPQ hx

end Within

/-- What is so put together keeps within the kind of actions. -/
theorem Made.within {x : Attempt α} (hx : x.Made P) : x.Within P := by
  induction hx with
  | pure a => exact Walk.Within.done _
  | fail fault => exact Walk.Within.done _
  | bind _ _ hx hf => exact hx.bind hf
  | snapshot => exact Walk.Within.look fun _ _ => .done _
  | begin b => exact Walk.Within.begin b (.done _)
  | dispatch ha => exact Walk.Within.dispatch ha fun fault => by cases fault <;> exact .done _
  | wait seconds =>
    exact Walk.Within.wait seconds fun interruption => by cases interruption <;> exact .done _
  | clock => exact Walk.Within.clock fun _ => .done _
  | log line => exact Walk.Within.log line (.done _)
  | notify text => exact Walk.Within.notify text (.done _)

end Attempt

namespace Interpreter

open Attempt (Made)

variable (I : Interpreter) (actorId : Datum)

variable {actorId} in
theorem change_made {changes : Fields} (h : P (.updateActor actorId (.object changes))) :
    Made P (change actorId changes) := .dispatch h

variable {actorId} in
theorem stride_made {changes : Fields} (h : P (.updateActor actorId (.object changes)))
    (seconds : Datum) : Made P (do change actorId changes; Attempt.wait seconds) :=
  .bind (change_made h) fun _ => .wait seconds

theorem move_made
    (h : ∀ x y : Float, P (.updateActor actorId (.object [("x", .float x), ("y", .float y)])))
    (b : Block) : Made P (I.move actorId b) := by
  refine .bind .snapshot fun s => ?_
  cases s.actor? actorId with
  | none => exact .pure ()
  | some a =>
    exact .bind (.ofExcept _) fun _ => .bind (.ofExcept _) fun _ => stride_made (h _ _) _

theorem turn_made
    (h : ∀ direction : Float, P (.updateActor actorId (.object [("direction", .float direction)])))
    (b : Block) : Made P (I.turn actorId b) := by
  refine .bind .snapshot fun s => ?_
  cases s.actor? actorId with
  | none => exact .pure ()
  | some a =>
    exact .bind (.ofExcept _) fun _ => .bind (.ofExcept _) fun _ => stride_made (h _) _

theorem goto_made
    (h : ∀ x y : Float, P (.updateActor actorId (.object [("x", .float x), ("y", .float y)])))
    (b : Block) : Made P (I.goto actorId b) :=
  .bind (.ofExcept _) fun _ => .bind (.ofExcept _) fun _ => stride_made (h _ _) _

theorem speak_made (b : Block) : Made (Action.OfBlock actorId) (speak actorId b) :=
  .bind (.ofExcept _) fun _ => .bind (.ofExcept _) fun _ => .bind .clock fun _ =>
    .bind (.ofExcept _) fun _ => .bind (change_made (.message _)) fun _ =>
      .bind (.wait _) fun _ => change_made (.message _)

theorem handle_made (b : Block) (kind : BlockKind) :
    Made (Action.OfBlock actorId) (I.handle actorId b kind) := by
  cases kind with
  | move => exact I.move_made actorId .place b
  | turn => exact I.turn_made actorId .direction b
  | goto => exact I.goto_made actorId .place b
  | loop => exact .pure ()
  | say | think => exact speak_made actorId b

theorem skip_made (b : Block) : Made P (skip b) := .bind (.ofExcept _) fun _ => .log _

theorem latest_made (b : Block) : Made P (latest actorId b) :=
  .bind .snapshot fun _ => .pure _

/-- A step does what blocks can do if its repetitions do. -/
theorem step_made_of_iterate (room : Nat)
    (h : ∀ b, Made (Action.OfBlock actorId) (I.iterate actorId room b)) (b : Block) :
    Made (Action.OfBlock actorId) (I.step actorId room b) := by
  rw [step_eq]
  refine .bind (latest_made actorId b) fun c => .bind (.ofExcept _) fun kind => ?_
  cases kind with
  | none => exact skip_made c
  | some kind =>
    refine .bind (.begin c) fun _ => ?_
    unfold attend
    split_ifs
    · exact h c
    · exact I.handle_made actorId c kind

/-- A block does what blocks can do, with all the blocks that it repeats. -/
theorem step_made (room : Nat) (b : Block) :
    Made (Action.OfBlock actorId) (I.step actorId room b) := by
  induction room generalizing b with
  | zero =>
    refine I.step_made_of_iterate actorId 0 (fun c => ?_) b
    exact .bind (.ofExcept _) fun _ => .fail _
  | succ room ih =>
    refine I.step_made_of_iterate actorId (room + 1) (fun c => ?_) b
    exact .bind (.ofExcept _) fun n => .times (.each ih _) n

theorem swapFirst_made (h : ∀ first second, P (.swapMoves first second)) : Made P swapFirst := by
  refine .bind .snapshot fun s => ?_
  cases pairToSwap? s with
  | none => exact .pure ()
  | some pair =>
    exact .bind (.dispatch (h _ _)) fun _ => .bind (.log _) fun _ => .notify _

/-- What a run does once the flag is set, up to its end. -/
theorem exists_animate_eq (a : Actor) :
    ∃ rest : Attempt Unit, rest.Made (Action.Played I.home actorId) ∧
      I.animate actorId a = Attempt.dispatch (.setRunning (.bool true)) >>= fun _ => rest := by
  refine ⟨_, .bind (.dispatch .start) fun _ => ?_, rfl⟩
  exact .bind (swapFirst_made .swap) fun _ =>
    .each (fun b => (I.step_made actorId _ b).mono fun _ => .block) _

end Interpreter

end SpriteStage
