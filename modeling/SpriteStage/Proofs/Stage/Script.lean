import SpriteStage.Stage.Basic
import SpriteStage.Proofs.Snapshot.Drawn
import Mathlib.Tactic.SplitIfs

/-!
# How operations are made

All operations of a stage are made alike (`Stage.Work.Script`): they look at the snapshot, draw from
the supply and take notes as long as they like, and then they fail, are refused, or dispatch an
action. Once an action is carried out, all that is left is to answer. What holds of every script
holds of every operation; that each of them is a script is told here, once for each. Seven
operations are *edits*: their script is behind a guard that refuses them while the running flag is
set (`Stage.Work.Guarded`).
-/

namespace SpriteStage

/-! ### What the stage makes -/

/-- What is drawn from a supply of this kind leaves one of this kind. -/
structure Supply.Kept (D : Supply → Prop) : Prop where
  block : ∀ {kind : Datum} {supply supply' : Supply} {b : Block}, D supply →
    Block.create kind .null [] supply = .ok (b, supply') → D supply'
  actor : ∀ {ordinal : Datum} {supply supply' : Supply} {a : Actor}, D supply →
    Actor.create ordinal none supply = .ok (a, supply') → D supply'

theorem Supply.kept_true : Kept fun _ => True := ⟨fun _ _ => trivial, fun _ _ => trivial⟩

/-- The block is made by the stage, from a supply of a kind. -/
def Block.Made (D : Supply → Prop) (b : Block) : Prop :=
  ∃ kind supply supply', D supply ∧ Block.create kind .null [] supply = .ok (b, supply')

/-- The actor is made by the stage, from a supply of a kind. -/
def Actor.Made (D : Supply → Prop) (a : Actor) : Prop :=
  ∃ ordinal supply supply', D supply ∧ Actor.create ordinal none supply = .ok (a, supply')

theorem Block.Made.exists_id {D : Supply → Prop} {b : Block} (h : b.Made D) :
    ∃ id, b.id = .str id := by
  obtain ⟨_, _, _, -, hcreate⟩ := h
  obtain ⟨id, k, rfl, -⟩ := create_cases hcreate
  exact ⟨id, rfl⟩

theorem Actor.Made.exists_id {D : Supply → Prop} {a : Actor} (h : a.Made D) :
    ∃ id, a.id = .str id := by
  obtain ⟨_, _, _, -, hcreate⟩ := h
  obtain ⟨id, name, costume, x, y, rfl, -⟩ := create_cases hcreate
  exact ⟨_, rfl⟩

/-! ### Actions and answers -/

/-- The action changes a program or the list of actors, and what it brings in is made by the stage,
from supplies of a kind. -/
def Action.Edit (D : Supply → Prop) : Action → Prop
  | .addBlock block _ | .addChild _ block _ => block.Made D
  | .addActor actor => actor.Made D
  | .removeBlock .. | .updateParams .. | .clearBlocks _ | .removeActor _ => True
  | _ => False

/-- What the action carries into the snapshot just as it was given is of a kind: parameters, and
the identifier of the active actor. -/
def Action.Carries (J : Datum → Prop) : Action → Prop
  | .updateParams _ params _ => J params
  | .selectActor actorId => J actorId
  | _ => True

/-- If the detail names a block or an actor, then by an identifier of a kind. -/
def Detail.Names (K : Datum → Prop) : Detail → Prop
  | .nothing => True
  | .made id | .found id _ | .actor id => K id

/-- If the answer names a block or an actor, then by an identifier of a kind. -/
def Answer.Names (K : Datum → Prop) : Answer → Prop
  | .done _ detail => detail.Names K
  | .refused .. => True

namespace Stage.Work

/-- The answer is none that the running flag gives. -/
def Unhindered (answer : Answer) : Prop := ∀ notice, answer ≠ .refused .running notice

/-- The answer is one that the script of an operation gives. -/
structure Fair (K : Datum → Prop) (answer : Answer) : Prop where
  unhindered : Unhindered answer
  names : answer.Names K

variable {K : Datum → Prop}

theorem fair_done (notice : Option String) {detail : Detail} (h : detail.Names K) :
    Fair K (.done notice detail) := ⟨nofun, h⟩

theorem fair_refused {cause : Refusal} (h : cause ≠ .running) (notice : Option String) :
    Fair K (.refused cause notice) :=
  ⟨fun _ heq => h (Answer.refused.inj heq).1, trivial⟩

/-! ### Scripts -/

/-- All that is left of an operation is to answer that it was carried out. -/
inductive Closing (Q : Answer → Prop) : Work Answer → Prop
  | done {notice : Option String} {detail : Detail} : Q (.done notice detail) →
      Closing Q (done notice detail)
  | state {f : Snapshot → Work Answer} : (∀ s, Closing Q (f s)) → Closing Q (state >>= f)

/-- The work of an operation: which supplies it draws from, which actions it dispatches and which
answers it gives. -/
inductive Script (D : Supply → Prop) (P : Action → Prop) (Q : Answer → Prop) : Work Answer → Prop
  | throw (fault : Fault) : Script D P Q (throw fault)
  | refuse {cause : Refusal} {notice : Option String} : Q (.refused cause notice) →
      Script D P Q (refuse cause notice)
  | closing {w : Work Answer} : Closing Q w → Script D P Q w
  | state {f : Snapshot → Work Answer} : (∀ s, Script D P Q (f s)) → Script D P Q (state >>= f)
  | log {text : String} {w : Work Answer} : Script D P Q w →
      Script D P Q (mapScene (StageScene.log text) >>= fun _ => w)
  | draw {α : Type} {g : Supply → Except Fault (α × Supply)} {f : Except Fault α → Work Answer} :
      (∀ supply a supply', D supply → g supply = .ok (a, supply') → D supply') →
      (∀ fault, Script D P Q (f (.error fault))) →
      (∀ a, (∃ supply supply', D supply ∧ g supply = .ok (a, supply')) → Script D P Q (f (.ok a))) →
      Script D P Q (draw g >>= f)
  /-- An action that is not carried out may be followed by anything. -/
  | dispatch {a : Action} {f : Option Snapshot → Work Answer} : P a → Script D P Q (f none) →
      (∀ s, Closing Q (f (some s))) → Script D P Q (dispatch a >>= f)

namespace Script

variable {D : Supply → Prop} {P P' : Action → Prop} {Q Q' : Answer → Prop} {w : Work Answer}

theorem done {notice : Option String} {detail : Detail} (h : Q (.done notice detail)) :
    Script D P Q (done notice detail) := .closing (.done h)

/-- A dispatch whose outcome makes no difference. -/
theorem dispatched {a : Action} (ha : P a) (h : Closing Q w) :
    Script D P Q (Work.dispatch a >>= fun _ => w) := .dispatch ha (.closing h) fun _ => h

theorem make (hD : Supply.Kept D) {operation : String} {kind : Datum}
    {f : Option Block → Work Answer} (hnone : Script D P Q (f none))
    (hsome : ∀ b, b.Made D → Script D P Q (f (some b))) :
    Script D P Q (make operation kind >>= f) := by
  rw [Work.make, bind_assoc]
  refine .draw (fun _ _ _ => hD.block) (fun fault => ?_) fun b hb => hsome b ⟨kind, hb⟩
  dsimp only
  split_ifs
  · rw [bind_assoc]
    exact .log hnone
  · exact .throw fault

theorem unlessRunning (h : Script D P Q w) (hQ : Q (.refused .running (some runningNotice))) :
    Script D P Q (unlessRunning w) := by
  refine .state fun s => ?_
  split_ifs
  · exact .refuse hQ
  · exact h

theorem mono (hP : ∀ a, P a → P' a) (hQ : ∀ answer, Q answer → Q' answer) (h : Script D P Q w) :
    Script D P' Q' w := by
  have hclosing {w : Work Answer} (h : Closing Q w) : Closing Q' w := by
    induction h with
    | done hdone => exact .done (hQ _ hdone)
    | state _ ih => exact .state ih
  induction h with
  | throw fault => exact .throw fault
  | refuse hrefused => exact .refuse (hQ _ hrefused)
  | closing h => exact .closing (hclosing h)
  | state _ ih => exact .state ih
  | log _ ih => exact .log ih
  | draw hg _ _ ihfailed ihdrawn => exact .draw hg ihfailed ihdrawn
  | dispatch ha _ hcarried ih => exact .dispatch (hP _ ha) ih fun s => hclosing (hcarried s)

end Script

/-! ### Edits -/

/-- The work is behind the guard, and there it edits: what it carries into the snapshot is of a
kind, and what it names are identifiers of a kind. -/
def Guarded (J K : Datum → Prop) (w : Work Answer) : Prop :=
  ∃ inner : Work Answer, w = unlessRunning inner ∧
    ∀ D, Supply.Kept D → inner.Script D (fun a => a.Edit D ∧ a.Carries J) (Fair K)

/-- An edit together with its guard. -/
theorem Guarded.script {D : Supply → Prop} {J K : Datum → Prop} {w : Work Answer}
    (h : w.Guarded J K) (hD : Supply.Kept D) :
    w.Script D (fun a => a.Edit D ∧ a.Carries J) (·.Names K) := by
  obtain ⟨inner, rfl, hinner⟩ := h
  exact .unlessRunning ((hinner D hD).mono (fun _ ha => ha) fun _ hanswer => hanswer.names) trivial

end Stage.Work

namespace Stage

open Work

variable {J K : Datum → Prop}

theorem guarded_addBlock (hK : ∀ id, K (.str id)) (kind address : Datum) :
    Guarded J K (addBlock kind address) := by
  refine ⟨_, rfl, fun D hD => .state fun s => ?_⟩
  cases s.addressed? address with
  | none => exact .refuse (fair_refused (by decide) _)
  | some a =>
    refine .make hD (.refuse (fair_refused (by decide) _)) fun block hblock => ?_
    obtain ⟨id, hid⟩ := hblock.exists_id
    exact .dispatched ⟨hblock, trivial⟩ (.done (fair_done _ (hid ▸ hK id)))

theorem guarded_removeBlock (blockId address : Datum) :
    Guarded J K (removeBlock blockId address) :=
  ⟨_, rfl, fun _ _ => .dispatch ⟨trivial, trivial⟩ (.refuse (fair_refused (by decide) _))
    fun _ => .done (fair_done _ trivial)⟩

theorem guarded_updateBlock {blockId params : Datum} (hid : K blockId)
    (hparams : ∀ entries, params.entries = .ok entries → J (.object entries)) (address : Datum) :
    Guarded J K (updateBlock blockId params address) := by
  refine ⟨_, rfl, fun D hD => ?_⟩
  cases hentries : params.entries with
  | error fault => exact .throw fault
  | ok entries =>
    exact .dispatched ⟨trivial, hparams entries hentries⟩ (.state fun _ => .done (fair_done _ hid))

theorem guarded_addChild (hnull : K .null) (hK : ∀ id, K (.str id))
    (parentId kind address : Datum) : Guarded J K (addChild parentId kind address) := by
  refine ⟨_, rfl, fun D hD => ?_⟩
  refine .make hD (.refuse (fair_refused (by decide) _)) fun block hblock => ?_
  obtain ⟨id, hid⟩ := hblock.exists_id
  exact .dispatch ⟨hblock, trivial⟩ (.done (fair_done _ hnull))
    fun _ => .done (fair_done _ (hid ▸ hK id))

theorem guarded_clearBlocks (address : Datum) : Guarded J K (clearBlocks address) :=
  ⟨_, rfl, fun _ _ => .dispatched ⟨trivial, trivial⟩ (.done (fair_done _ trivial))⟩

theorem guarded_addActor (hK : ∀ id, K (.str id)) : Guarded J K addActor := by
  refine ⟨_, rfl, fun D hD => .state fun s => ?_⟩
  refine .draw (fun _ _ _ => hD.actor) (fun fault => .throw fault) fun a ha => ?_
  have hactor : a.Made D := ⟨_, ha⟩
  obtain ⟨id, hid⟩ := hactor.exists_id
  exact .dispatched ⟨hactor, trivial⟩ (.done (fair_done _ (hid ▸ hK id)))

theorem guarded_removeActor (actorId : Datum) : Guarded J K (removeActor actorId) := by
  refine ⟨_, rfl, fun D hD => .state fun s => ?_⟩
  split_ifs
  · exact .log (.refuse (fair_refused (by decide) _))
  · exact .refuse (fair_refused (by decide) _)
  · exact .dispatched ⟨trivial, trivial⟩ (.done (fair_done _ trivial))

/-! ### Other operations -/

theorem script_selectActor {D : Supply → Prop} {actorId : Datum} (hid : K actorId) :
    (selectActor actorId).Script D (· = .selectActor actorId) (Fair K) := by
  refine .state fun s => ?_
  split_ifs
  · exact .refuse (fair_refused (by decide) _)
  · exact .dispatched rfl (.done (fair_done _ hid))

theorem script_stop {D : Supply → Prop} :
    stop.Script D (· = .setRunning (.bool false)) (Fair K) :=
  .dispatched rfl (.done (fair_done _ trivial))

end Stage

end SpriteStage
