import SpriteStage.Proofs.Stage.Dispatch
import SpriteStage.Proofs.Stage.Work

/-!
# What work ensures

On a stage that shows a snapshot, work *ensures* what is so of all that it comes to and of the
snapshot that it then leaves, whatever else the stage is like (`Stage.Work.Ensures`). There is one
rule for each way in which operations are made; a dispatch ensures that the snapshot is the one
after the action.
-/

namespace SpriteStage

/-- A kind that is known is named by a text. -/
theorem BlockKind.eq_of_require {kind : Datum} {k : BlockKind} (h : require kind = .ok k) :
    kind = .str k.name := by
  obtain ⟨found, hfound, h⟩ := of_bind_eq_ok h
  cases found with
  | none =>
    obtain ⟨written, -, h⟩ := of_bind_eq_ok h
    cases h
  | some k' =>
    cases h
    cases kind with
    | str name =>
      have hname : ofName? name = some k := Except.ok.inj hfound
      have heq : k.name = name := by simpa using List.find?_some hname
      rw [heq]
    | _ => cases hfound

/-- A new block is of the kind that is asked for, and has what belongs to that kind. -/
theorem Block.create_kind {kind : Datum} {supply supply' : Supply} {b : Block}
    (h : Block.create kind .null [] supply = .ok (b, supply')) :
    ∃ (id : String) (k : BlockKind), kind = .str k.name ∧
      b = { id := .str id, kind, params := .object k.defaults } := by
  obtain ⟨k, hk, h⟩ := of_bind_eq_ok h
  cases h
  have hkind := BlockKind.eq_of_require hk
  exact ⟨_, k, hkind, by rw [hkind]; rfl⟩

/-- A dispatch that does not fail carries the action out, or leaves the snapshot as it is. -/
theorem StageScene.after?_of_send {sc : StageScene} {a : Action} {next : Option Snapshot}
    (h : (sc.send a).2 = .ok next) :
    next = sc.state.after? a ∧ (sc.send a).1.state = next.getD sc.state := by
  cases hfault : sc.state.fault? a with
  | some fault =>
    rw [send_eq, Snapshot.attempt_of_fault hfault] at h
    cases h
  | none =>
    have hstate := (send_state sc a).trans (Snapshot.after_of_none hfault)
    have hnext : next = sc.state.after? a := by
      rw [send_eq, Snapshot.attempt_of_none hfault] at h
      cases hafter : sc.state.after? a with
      | none =>
        rw [hafter] at h
        exact (Except.ok.inj h).symm
      | some carried =>
        rw [hafter] at h
        cases hlimit : Store.limitFault? sc.store.limit with
        | none =>
          rw [hlimit] at h
          exact (Except.ok.inj h).symm
        | some fault =>
          rw [hlimit] at h
          cases h
    exact ⟨hnext, hnext ▸ hstate⟩

namespace Stage.Work

variable {α β : Type}

/-- On a stage with this snapshot, what the work comes to and the snapshot that it leaves are so
related. -/
def Ensures (s : Snapshot) (w : Work α) (Q : α → Snapshot → Prop) : Prop :=
  ∀ (stage : Stage) (a : α), stage.state = s → (w.run.run stage).1 = .ok a →
    Q a (w.run.run stage).2.state

namespace Ensures

variable {s : Snapshot} {w : Work α} {f : α → Work β} {Q : β → Snapshot → Prop}
  {Q' : Answer → Snapshot → Prop}

theorem throw (fault : Fault) : Ensures s (throw fault : Work β) Q := nofun

/-- Whatever comes next is ensured on the snapshot that is there by then. -/
theorem bind {R : α → Snapshot → Prop} (hw : Ensures s w R)
    (hf : ∀ a s', R a s' → Ensures s' (f a) Q) : Ensures s (w >>= f) Q := by
  intro stage b hstage hb
  rw [run_bind] at hb ⊢
  have hw := hw stage
  generalize w.run.run stage = r at hw hb ⊢
  obtain ⟨fault | a, stage'⟩ := r
  · cases hb
  · exact hf a stage'.state (hw a hstage rfl) stage' b rfl hb

theorem state {f : Snapshot → Work β} (h : Ensures s (f s) Q) : Ensures s (state >>= f) Q := by
  intro stage b hstage hb
  rw [run_bind] at hb ⊢
  subst hstage
  exact h stage b rfl hb

theorem log (text : String) {w : Work β} (hw : Ensures s w Q) :
    Ensures s (mapScene (StageScene.log text) >>= fun _ => w) Q :=
  bind (R := fun _ s' => s' = s) (fun _ _ hstage _ => hstage) fun _ _ hs => hs ▸ hw

theorem done {notice : Option String} {detail : Detail} (h : Q' (.done notice detail) s) :
    Ensures s (done notice detail) Q' := by
  cases notice <;> (rintro stage _ rfl ⟨⟩; exact h)

theorem refuse {cause : Refusal} {notice : Option String} (h : Q' (.refused cause notice) s) :
    Ensures s (refuse cause notice) Q' := by
  cases notice <;> (rintro stage _ rfl ⟨⟩; exact h)

/-- After a dispatch that does not fail, the action is carried out or all is as it was. -/
theorem dispatch {a : Action} {f : Option Snapshot → Work β}
    (hsome : ∀ s', s.after? a = some s' → Ensures s' (f (some s')) Q)
    (hnone : s.after? a = none → Ensures s (f none) Q) : Ensures s (dispatch a >>= f) Q := by
  intro stage b hstage hb
  rw [run_bind, run_dispatch] at hb ⊢
  have hsent {next : Option Snapshot} (h : (stage.scene.send a).2 = .ok next) :
      next = s.after? a ∧ (stage.scene.send a).1.state = next.getD s :=
    hstage ▸ StageScene.after?_of_send h
  generalize stage.scene.send a = sent at hsent hb ⊢
  obtain ⟨scene, fault | next⟩ := sent
  · cases hb
  · obtain ⟨hnext, hstate⟩ := hsent rfl
    cases next with
    | none => exact hnone hnext.symm { stage with scene } b hstate hb
    | some s' => exact hsome s' hnext.symm { stage with scene } b hstate hb

theorem draw {g : Supply → Except Fault (α × Supply)} {f : Except Fault α → Work β}
    (hfailed : ∀ fault, Ensures s (f (.error fault)) Q)
    (hdrawn : ∀ supply a supply', g supply = .ok (a, supply') → Ensures s (f (.ok a)) Q) :
    Ensures s (draw g >>= f) Q := by
  intro stage b hstage hb
  rw [run_bind, run_draw] at hb ⊢
  cases hg : g stage.supply with
  | error fault =>
    rw [hg] at hb
    exact hfailed fault stage b hstage hb
  | ok drawn =>
    rw [hg] at hb
    exact hdrawn _ _ _ hg { stage with supply := drawn.2 } b hstage hb

/-- To make a block: no such kind is known, or it is new and has what belongs to that kind. -/
theorem make {operation : String} {kind : Datum} {f : Option Block → Work β}
    (hnone : Ensures s (f none) Q)
    (hsome : ∀ (id : String) (k : BlockKind), kind = .str k.name →
      Ensures s (f (some { id := .str id, kind, params := .object k.defaults })) Q) :
    Ensures s (make operation kind >>= f) Q := by
  rw [Work.make, bind_assoc]
  refine draw (fun fault => ?_) fun supply b supply' hcreate => ?_
  · dsimp only
    split_ifs
    · rw [bind_assoc]
      exact log _ hnone
    · exact .throw fault
  · obtain ⟨id, k, hkind, rfl⟩ := Block.create_kind hcreate
    exact hsome id k hkind

theorem unlessRunning {w : Work Answer} (hrefused : ∀ cause notice, Q' (.refused cause notice) s)
    (hw : Ensures s w Q') : Ensures s (unlessRunning w) Q' := by
  refine state ?_
  split_ifs
  · exact refuse (hrefused _ _)
  · exact hw

end Ensures

end Stage.Work

end SpriteStage
