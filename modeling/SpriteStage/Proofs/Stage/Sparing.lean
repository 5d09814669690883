import SpriteStage.Proofs.Stage.Dispatch
import SpriteStage.Proofs.Stage.Work

/-!
# What a refusal leaves

Some operations dispatch before they know whether they can be carried out. Yet whenever an operation
of a stage is refused, the snapshot and the history are as they were, and so they are when it fails,
as long as the store can keep its history (`Stage.Work.Spares`): an action that is not carried out
leaves no trace, and after one that is carried out nothing can go wrong any more
(`Stage.Work.Attains`).
-/

namespace SpriteStage.Stage

namespace Work

variable {α β : Type}

/-- The work never fails, and comes to a value that has the property. -/
def Attains (w : Work α) (Q : α → Prop) : Prop := ∀ s : Stage, ∃ a, (w.run.run s).1 = .ok a ∧ Q a

/-- The work comes to a value that has the property, or it leaves the snapshot and the history as
they are, or it fails because the limit of the history cannot be kept. -/
def Spares (w : Work α) (Q : α → Prop) : Prop :=
  ∀ s : Stage, s.scene.store.SameRecord (w.run.run s).2.scene.store ∨
    (∃ a, (w.run.run s).1 = .ok a ∧ Q a) ∨
      (∃ fault, (w.run.run s).1 = .error fault) ∧ ¬ s.scene.store.Keeps

namespace Attains

variable {w : Work α} {f : α → Work β} {Q : α → Prop} {R : β → Prop}

theorem pure {a : α} (h : Q a) : Attains (pure a) Q := fun _ => ⟨a, rfl, h⟩

theorem bind (hw : w.Attains Q) (hf : ∀ a, Q a → (f a).Attains R) : Attains (w >>= f) R := by
  intro s
  obtain ⟨a, hresult, hQ⟩ := hw s
  rw [run_bind]
  generalize w.run.run s = r at hresult
  obtain ⟨result, s'⟩ := r
  subst hresult
  exact hf a hQ s'

theorem state : Attains Work.state fun _ => True := fun _ => ⟨_, rfl, trivial⟩

theorem tell (notice : Option String) : Attains (tell notice) fun _ => True := by
  intro s
  cases notice <;> exact ⟨(), rfl, trivial⟩

theorem done {Q : Answer → Prop} {notice : Option String} {detail : Detail}
    (h : Q (.done notice detail)) : Attains (done notice detail) Q :=
  (tell notice).bind fun _ _ => .pure h

end Attains

namespace Spares

variable {w : Work α} {f : α → Work β} {Q : α → Prop} {R : β → Prop}

theorem pure (a : α) : Spares (pure a) Q := fun _ => .inl (.refl _)

theorem throw (fault : Fault) : Spares (throw fault : Work α) Q := fun _ => .inl (.refl _)

theorem bind (hw : w.Spares Q) (hf : ∀ a, (f a).Spares R) (hsure : ∀ a, Q a → (f a).Attains R) :
    Spares (w >>= f) R := by
  intro s
  have hw := hw s
  rw [run_bind]
  generalize w.run.run s = r at hw
  obtain ⟨fault | a, s'⟩ := r
  · obtain hsame | ⟨a, ha, -⟩ | ⟨-, hlimit⟩ := hw
    · exact .inl hsame
    · cases ha
    · exact .inr (.inr ⟨⟨fault, rfl⟩, hlimit⟩)
  · obtain hsame | ⟨b, hb, hQ⟩ | ⟨⟨fault, hfault⟩, -⟩ := hw
    · obtain hsame' | hdone | ⟨hfault, hkeeps⟩ := hf a s'
      · exact .inl (hsame.trans hsame')
      · exact .inr (.inl hdone)
      · refine .inr (.inr ⟨hfault, ?_⟩)
        rwa [Store.Keeps, hsame.limit] at hkeeps
    · cases hb
      exact .inr (.inl (hsure a hQ s'))
    · cases hfault

/-- After work that leaves all as it is, all depends on what comes next. -/
theorem followed (hw : w.Spares fun _ => False) (hf : ∀ a, (f a).Spares R) : Spares (w >>= f) R :=
  hw.bind hf fun _ => False.elim

theorem state {Q : Snapshot → Prop} : Spares Work.state Q := fun _ => .inl (.refl _)

theorem dispatch (a : Action) : Spares (dispatch a) fun next => next.isSome := by
  intro s
  rw [run_dispatch, StageScene.send_eq]
  match s.scene.state.attempt a with
  | .error fault => exact .inl (.refl _)
  | .ok none => exact .inl (.refl _)
  | .ok (some next) =>
    cases hlimit : Store.limitFault? s.scene.store.limit with
    | none => exact .inr (.inl ⟨some next, rfl, rfl⟩)
    | some fault =>
      refine .inr (.inr ⟨⟨fault, rfl⟩, fun hkeeps => ?_⟩)
      cases hlimit.symm.trans hkeeps

theorem log {Q : Unit → Prop} (text : String) : Spares (mapScene (StageScene.log text)) Q :=
  fun _ => .inl (.refl _)

theorem tell {Q : Unit → Prop} (notice : Option String) : Spares (tell notice) Q := by
  intro s
  cases notice <;> exact .inl (.refl _)

theorem done {Q : Answer → Prop} (notice : Option String) (detail : Detail) :
    Spares (done notice detail) Q := (tell notice).followed fun _ => pure _

theorem refuse {Q : Answer → Prop} (cause : Refusal) (notice : Option String) :
    Spares (refuse cause notice) Q := (tell notice).followed fun _ => pure _

end Spares

variable {w : Work Answer} {P : Action → Prop} {Q : Answer → Prop}

theorem Closing.attains (h : Closing Q w) : w.Attains fun answer => answer.success ∧ Q answer := by
  induction h with
  | done hdone => exact .done ⟨rfl, hdone⟩
  | state _ ih => exact Attains.state.bind fun s _ => ih s

theorem Closing.spares {R : Answer → Prop} (h : Closing Q w) : w.Spares R := by
  induction h with
  | done => exact .done _ _
  | state _ ih => exact Spares.state.followed ih

/-- An operation that is not carried out leaves the snapshot and the history as they are. -/
theorem Script.spares (h : w.Script (fun _ => True) P Q) :
    w.Spares fun answer => answer.success ∧ Q answer := by
  induction h with
  | throw fault => exact .throw fault
  | refuse => exact .refuse _ _
  | closing h => exact h.spares
  | state _ ih => exact Spares.state.followed ih
  | log _ ih => exact (Spares.log _).followed fun _ => ih
  | @draw _ g _ _ _ _ ihfailed ihdrawn =>
    intro s
    rw [run_bind, run_draw]
    cases hdrawn : g s.supply with
    | error fault => exact ihfailed fault s
    | ok drawn => exact ihdrawn drawn.1 ⟨_, _, trivial, hdrawn⟩ { s with supply := drawn.2 }
  | dispatch _ _ hcarried ih =>
    refine (Spares.dispatch _).bind (fun next => ?_) fun next hnext => ?_
    · cases next with
      | none => exact ih
      | some s => exact (hcarried s).spares
    · cases next with
      | none => cases hnext
      | some s => exact (hcarried s).attains

end Work

end SpriteStage.Stage
