import SpriteStage.Proofs.Snapshot.Typed
import SpriteStage.Proofs.Stage.Detection
import SpriteStage.Proofs.Stage.Session
import SpriteStage.Proofs.Stage.Sparing

/-!
# Stages in order

A stage is in order if its snapshot is typed and its history is one that can be kept. It stays in
order through a session (`Store.inOrder_endures`). On a stage in order, work *returns* if it comes
to a value (`Stage.Work.Returns`): no edit that is given data of the kind that it takes fails there,
whatever the snapshot is otherwise and whatever identifiers are drawn.
-/

namespace SpriteStage

/-- The snapshot is typed, and the history can be kept. -/
structure Store.InOrder (store : Store Listener) : Prop where
  typed : store.state.Typed
  keeps : store.Keeps

theorem Store.inOrder_endures : Store.Endures Action.Typing Store.InOrder := by
  intro store store' a ha hrecord hs
  constructor
  · rw [hrecord.state, carried_state]
    exact hs.typed.after ha
  · rw [Keeps, hrecord.limit, carried_limit]
    exact hs.keeps

theorem Action.Asked.typing {D : Supply → Prop} {a : Action} (h : a.Asked D) : a.Typing := by
  cases h with
  | edit h =>
    cases a with
    | addBlock | addChild =>
      obtain ⟨_, _, _, -, hcreate⟩ := h
      exact (Block.create_typed hcreate).1
    | addActor =>
      obtain ⟨_, _, _, -, hcreate⟩ := h
      exact Actor.create_typed hcreate
    | _ => trivial
  | _ => trivial

/-- A stage is in order at the beginning, if the limit of its history is a whole number. -/
theorem Session.opened_inOrder (I : Interpreter) (supply : Supply) (tick : Datum) (limit : Int)
    (now : Number) (scheduling : Bool) :
    (opened I supply tick (.int limit) now scheduling).scene.Enduring Action.Typing
      Store.InOrder := by
  have htyped : Snapshot.Typed .initial := by
    intro a ha
    cases List.mem_singleton.mp ha
    exact ⟨⟨_, rfl⟩, Forest.typed_nil⟩
  exact ⟨⟨htyped, rfl⟩, fun resume hresume => nomatch hresume⟩

/-- If no block can be made of a kind that is given as a text, then there is no such kind. -/
theorem Block.refusesKind_of_create {kind : String} {supply : Supply} {fault : Fault}
    (h : Block.create (.str kind) .null [] supply = .error fault) : fault.refusesKind := by
  have hof : BlockKind.ofDatum (.str kind) = .ok (BlockKind.ofName? kind) := rfl
  unfold Block.create BlockKind.require at h
  rw [hof] at h
  cases hkind : BlockKind.ofName? kind with
  | none =>
    rw [hkind] at h
    cases h
    rfl
  | some k =>
    rw [hkind] at h
    cases h

namespace Stage.Work

variable {α : Type}

/-- On a stage in order, the work comes to a value. -/
def Returns (w : Work α) : Prop :=
  ∀ s : Stage, s.scene.store.InOrder → ∃ a, (w.run.run s).1 = .ok a

theorem Attains.returns {w : Work α} {Q : α → Prop} (h : w.Attains Q) : w.Returns := by
  intro s _
  obtain ⟨a, ha, -⟩ := h s
  exact ⟨a, ha⟩

namespace Returns

theorem refuse (cause : Refusal) (notice : Option String) : (refuse cause notice).Returns :=
  ((Attains.tell notice).bind fun _ _ => Attains.pure (Q := fun _ => True) trivial).returns

theorem state {f : Snapshot → Work α} (hf : ∀ s, (f s).Returns) :
    (Work.state >>= f).Returns := by
  intro s hs
  rw [run_bind]
  exact hf s.state s hs

theorem log {w : Work α} (text : String) (hw : w.Returns) :
    (mapScene (StageScene.log text) >>= fun _ => w).Returns := by
  intro s hs
  rw [run_bind]
  exact hw _ hs

/-- A dispatch that cannot fail, and after that only what never fails. -/
theorem dispatch {a : Action} {f : Option Snapshot → Work α} {Q : α → Prop}
    (ha : ∀ s : Snapshot, s.Typed → s.fault? a = none) (hf : ∀ next, (f next).Attains Q) :
    (Work.dispatch a >>= f).Returns := by
  intro s hs
  have hfault := (StageScene.send_fault hs.keeps a).trans (ha _ hs.typed)
  rw [run_bind, run_dispatch]
  generalize s.scene.send a = sent at hfault
  obtain ⟨scene, fault | next⟩ := sent
  · cases hfault
  · obtain ⟨value, hvalue, -⟩ := hf next { s with scene }
    exact ⟨value, hvalue⟩

/-- To make a block of a kind that is given as a text: it is made, or the kind is not known. -/
theorem make {operation kind : String} {f : Option Block → Work α} (hnone : (f none).Returns)
    (hsome : ∀ b, Forest.Typed [b] → (f (some b)).Returns) :
    (Work.make operation (.str kind) >>= f).Returns := by
  intro s hs
  rw [Work.make, bind_assoc, run_bind, run_draw]
  cases hcreate : Block.create (.str kind) .null [] s.supply with
  | ok made => exact hsome made.1 (Block.create_typed hcreate).1 { s with supply := made.2 } hs
  | error fault =>
    simp only [Block.refusesKind_of_create hcreate, if_true]
    exact log _ hnone s hs

theorem unlessRunning {w : Work Answer} (hw : w.Returns) : (unlessRunning w).Returns := by
  refine state fun s => ?_
  split_ifs
  · exact refuse _ _
  · exact hw

end Returns

end Stage.Work

namespace Stage

open Work

theorem returns_addBlock (kind : String) (address : Datum) :
    (addBlock (.str kind) address).Returns := by
  refine .unlessRunning (.state fun s => ?_)
  cases s.addressed? address with
  | none => exact .refuse _ _
  | some a =>
    refine .make (.refuse _ _) fun block hblock => ?_
    exact .dispatch (fun _ hs => hs.fault?_addBlock hblock a.id)
      fun _ => .done (Q := (·.success)) rfl

theorem returns_updateBlock (blockId : Datum) (params : Fields) (address : Datum) :
    (updateBlock blockId (.object params) address).Returns := by
  have hdispatch (s : Snapshot) (hs : s.Typed) := hs.fault?_updateParams blockId params address
  exact .unlessRunning <| .dispatch (Q := (·.success)) hdispatch fun _ =>
    Attains.state.bind fun _ _ => .done rfl

theorem returns_addChild (parentId : Datum) (kind : String) (address : Datum) :
    (addChild parentId (.str kind) address).Returns := by
  refine .unlessRunning (.make (.refuse _ _) fun block hblock => ?_)
  have hdispatch (s : Snapshot) (hs : s.Typed) := hs.fault?_addChild parentId hblock address
  refine .dispatch (Q := fun answer => answer.success) hdispatch fun next => ?_
  cases next <;> exact .done rfl

end Stage

end SpriteStage
