import SpriteStage.Proofs.Stage.Script
import SpriteStage.Proofs.Stage.Sound

/-!
# Operations

What the operations of a stage bring in is made by the stage: blocks without children and of a kind
that there is, and actors without a program. All that a script does to the scene is to dispatch
actions and to take notes (`Stage.Work.Script.yields`), whatever it is given and whatever
identifiers are drawn, also where it is refused or fails half-way. Seven operations are *edits*
(`Stage.Work.IsEdit`): they are refused while the running flag is set, and only then
(`Stage.Work.IsEdit.refused`, `Stage.Work.IsEdit.not_refused`).
-/

namespace SpriteStage

/-! ### What the stage makes -/

theorem Forest.sound_singleton {b : Block} (hb : b.Sound) (hc : b.children = []) :
    Forest.Sound [b] := by
  refine Forest.sound_of_nodup ?_ fun c hmem => ?_
  · rw [Forest.ids_cons, hc]
    exact List.nodup_singleton _
  rw [Forest.preorder_cons, hc] at hmem
  cases List.mem_singleton.mp hmem
  exact hb

/-- A new block with an identifier that is drawn is sound. -/
theorem Block.create_sound {kind : Datum} {overrides : Fields} {supply supply' : Supply} {b : Block}
    (h : Block.create kind .null overrides supply = .ok (b, supply')) : Forest.Sound [b] := by
  obtain ⟨id, k, rfl, -⟩ := create_cases h
  exact Forest.sound_singleton ⟨⟨id, rfl⟩, ⟨k, rfl⟩, fun hne => absurd rfl hne⟩ rfl

/-- A new actor has a text for its identifier and no program. -/
theorem Actor.create_sound {ordinal : Datum} {supply supply' : Supply} {a : Actor}
    (h : Actor.create ordinal none supply = .ok (a, supply')) :
    a.id.IsText ∧ Forest.Sound a.blocks := by
  obtain ⟨id, name, costume, x, y, rfl, -⟩ := create_cases h
  exact ⟨⟨_, rfl⟩, Forest.sound_nil⟩

theorem Action.Edit.sound {D : Supply → Prop} {a : Action} (h : a.Edit D) : a.Sound := by
  cases a with
  | addBlock | addChild =>
    obtain ⟨_, _, _, -, hcreate⟩ := h
    exact Block.create_sound hcreate
  | addActor =>
    obtain ⟨_, _, _, -, hcreate⟩ := h
    exact Actor.create_sound hcreate
  | _ => trivial

namespace Stage.Work

variable {α β : Type} {D : Supply → Prop} {P : Action → Prop}

/-- From a supply of a kind, the work dispatches actions of a kind and takes notes, leaves a supply
of the kind, and comes to a value that has the property. -/
def Yields (D : Supply → Prop) (P : Action → Prop) (w : Work α) (Q : α → Prop) : Prop :=
  ∀ s : Stage, D s.supply → s.scene.Works P (w.run.run s).2.scene ∧ D (w.run.run s).2.supply ∧
    ∀ a, (w.run.run s).1 = .ok a → Q a

theorem run_get (s : Stage) : (get : Work Stage).run.run s = pure (.ok s, s) := rfl

theorem run_bind (w : Work α) (f : α → Work β) (s : Stage) :
    (w >>= f).run.run s = match w.run.run s with
      | (.ok a, s') => (f a).run.run s'
      | (.error fault, s') => (.error fault, s') := by
  change StateT.run (ExceptT.bindCont f (w.run.run s).1) (w.run.run s).2 = _
  generalize w.run.run s = r
  obtain ⟨fault | a, s'⟩ := r <;> rfl

theorem run_dispatch (a : Action) (s : Stage) :
    (dispatch a).run.run s = ((s.scene.send a).2, { s with scene := (s.scene.send a).1 }) := by
  simp only [dispatch, ExceptT.run_bind, StateT.run_bind, run_get, pure_bind]
  generalize s.scene.send a = sent
  obtain ⟨scene, fault | next⟩ := sent <;> rfl

theorem run_draw (f : Supply → Except Fault (α × Supply)) (s : Stage) :
    (draw f).run.run s = match f s.supply with
      | .ok (value, supply) => (.ok (.ok value), { s with supply })
      | .error fault => (.ok (.error fault), s) := by
  simp only [draw, ExceptT.run_bind, StateT.run_bind, run_get, pure_bind]
  cases f s.supply <;> rfl

namespace Yields

variable {w : Work α} {f : α → Work β} {Q Q' : α → Prop} {R : β → Prop}

theorem pure {a : α} (h : Q a) : Yields D P (pure a) Q :=
  fun _ hD => ⟨.refl, hD, fun _ heq => by cases heq; exact h⟩

theorem throw (fault : Fault) : Yields D P (throw fault : Work α) Q :=
  fun _ hD => ⟨.refl, hD, nofun⟩

theorem bind (hw : w.Yields D P Q) (hf : ∀ a, Q a → (f a).Yields D P R) :
    Yields D P (w >>= f) R := by
  intro s hD
  obtain ⟨hs, hD', hQ⟩ := hw s hD
  rw [run_bind]
  generalize w.run.run s = r at hs hD' hQ
  obtain ⟨fault | a, s'⟩ := r
  · exact ⟨hs, hD', nofun⟩
  · obtain ⟨hs', hD'', hR⟩ := hf a (hQ a rfl) s' hD'
    exact ⟨hs.trans hs', hD'', hR⟩

theorem state : Yields D P Work.state fun _ => True :=
  fun _ hD => ⟨.refl, hD, fun _ _ => trivial⟩

theorem mapScene {g : StageScene → StageScene} (hg : ∀ sc, StageScene.Works P sc (g sc)) :
    Yields D P (mapScene g) fun _ => True := fun s hD => ⟨hg s.scene, hD, fun _ _ => trivial⟩

theorem dispatch {a : Action} (ha : P a) : Yields D P (dispatch a) fun _ => True := by
  intro s hD
  rw [run_dispatch]
  exact ⟨.send .refl ha, hD, fun _ _ => trivial⟩

theorem tell (notice : Option String) : Yields D P (tell notice) fun _ => True := by
  cases notice with
  | none => exact .pure trivial
  | some text => exact mapScene fun sc => .notify text sc

theorem done (notice : Option String) (detail : Detail) :
    Yields D P (done notice detail) fun answer => answer = .done notice detail :=
  (tell notice).bind fun _ _ => .pure rfl

theorem refuse (cause : Refusal) (notice : Option String) :
    Yields D P (refuse cause notice) fun answer => answer = .refused cause notice :=
  (tell notice).bind fun _ _ => .pure rfl

theorem weaken (hw : w.Yields D P Q) (hQ : ∀ a, Q a → Q' a) : w.Yields D P Q' := by
  intro s hD
  obtain ⟨hs, hD', ha⟩ := hw s hD
  exact ⟨hs, hD', fun a h => hQ a (ha a h)⟩

end Yields

theorem Closing.yields {w : Work Answer} {Q : Answer → Prop} (h : Closing Q w) :
    w.Yields D P Q := by
  induction h with
  | done hdone => exact (Yields.done _ _).weaken fun _ heq => heq ▸ hdone
  | state _ ih => exact Yields.state.bind fun s _ => ih s

theorem Script.yields {w : Work Answer} {Q : Answer → Prop} (h : w.Script D P Q) :
    w.Yields D P Q := by
  induction h with
  | throw fault => exact .throw fault
  | refuse hrefused => exact (Yields.refuse _ _).weaken fun _ heq => heq ▸ hrefused
  | closing h => exact h.yields
  | state _ ih => exact Yields.state.bind fun s _ => ih s
  | @log text _ _ ih => exact (Yields.mapScene fun sc => .log text sc).bind fun _ _ => ih
  | @draw _ g _ hg _ _ ihfailed ihdrawn =>
    intro s hD
    rw [run_bind, run_draw]
    cases hdrawn : g s.supply with
    | error fault => exact ihfailed fault s hD
    | ok drawn =>
      have hD' : D drawn.2 := hg _ _ _ hD hdrawn
      exact ihdrawn drawn.1 ⟨_, _, hD, hdrawn⟩ { s with supply := drawn.2 } hD'
  | dispatch ha _ hcarried ih =>
    refine (Yields.dispatch ha).bind fun next _ => ?_
    cases next with
    | none => exact ih
    | some s => exact (hcarried s).yields

/-- The work changes programs or the list of actors, and is refused if, and only if, the running
flag is set. -/
def IsEdit (w : Work Answer) : Prop :=
  ∃ inner : Work Answer, w = unlessRunning inner ∧
    ∀ D, Supply.Kept D → inner.Yields D (Action.Edit D) Unhindered

namespace IsEdit

variable {w : Work Answer} {s : Stage}

theorem of_guarded (h : Guarded (fun _ => True) (fun _ => True) w) : w.IsEdit := by
  obtain ⟨inner, rfl, hinner⟩ := h
  refine ⟨inner, rfl, fun D hD => ?_⟩
  have hscript := (hinner D hD).mono (fun _ ha => ha.1) fun _ hanswer => hanswer.unhindered
  exact hscript.yields

theorem refused (hw : w.IsEdit) (hs : s.state.running) :
    w.run.run s = (.ok (.refused .running (some runningNotice)),
      { s with scene := StageScene.notify runningNotice s.scene }) := by
  obtain ⟨inner, rfl, -⟩ := hw
  have hrun : (unlessRunning inner).run.run s =
    (if s.state.running then refuse .running (some runningNotice) else inner).run.run s := rfl
  rw [hrun, if_pos hs]
  rfl

theorem run_eq (hs : s.state.running = false) (inner : Work Answer) :
    (unlessRunning inner).run.run s = inner.run.run s := by
  have hrun : (unlessRunning inner).run.run s =
    (if s.state.running then refuse .running (some runningNotice) else inner).run.run s := rfl
  rw [hrun, hs]
  rfl

theorem not_refused (hw : w.IsEdit) (hs : s.state.running = false) (notice : Option String) :
    (w.run.run s).1 ≠ .ok (.refused .running notice) := by
  obtain ⟨inner, rfl, hinner⟩ := hw
  rw [run_eq hs]
  obtain ⟨-, -, hanswer⟩ := hinner _ Supply.kept_true s trivial
  exact fun heq => hanswer _ heq notice rfl

theorem works (hw : w.IsEdit) (hD : Supply.Kept D) (hs : D s.supply) :
    s.scene.Works (Action.Edit D) (w.run.run s).2.scene ∧ D (w.run.run s).2.supply := by
  cases hrunning : s.state.running with
  | true =>
    rw [hw.refused hrunning]
    exact ⟨.notify runningNotice s.scene, hs⟩
  | false =>
    obtain ⟨inner, rfl, hinner⟩ := hw
    rw [run_eq hrunning]
    obtain ⟨hworks, hsupply, -⟩ := hinner D hD s hs
    exact ⟨hworks, hsupply⟩

end IsEdit

end Stage.Work

/-! ### The operations -/

namespace Stage

open Work

theorem yields_selectActor (D : Supply → Prop) (actorId : Datum) :
    (selectActor actorId).Yields D (· = .selectActor actorId) Unhindered :=
  (script_selectActor (K := fun _ => True) trivial).yields.weaken fun _ h => h.unhindered

theorem yields_stop (D : Supply → Prop) :
    stop.Yields D (· = .setRunning (.bool false)) Unhindered :=
  (script_stop (K := fun _ => True)).yields.weaken fun _ h => h.unhindered

/-- A run in the background is refused, or it is a further run. -/
theorem startRun_cases (s : Stage) (address : Datum) :
    (s.startRun address).2 = s ∨ (s.startRun address).2 =
      { s with
        scene := (StageScene.addRun address s.scene).2
        lastRun := some (StageScene.addRun address s.scene).1 } := by
  unfold startRun
  split_ifs
  · exact .inl rfl
  · exact .inr rfl

end Stage

end SpriteStage
