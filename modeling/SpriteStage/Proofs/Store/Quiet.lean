import SpriteStage.Proofs.Store.Aloof

/-!
# Quiet audiences

Listeners that neither fail nor dispatch anything of their own are *quiet*: they may remember what
they hear and change the list of listeners. With a quiet audience a dispatch does to the store what
the action does to the snapshot, and it fails only if the action does (`Audience.dispatch_quiet`).
-/

namespace SpriteStage

variable {σ ι : Type}

/-- The reaction neither fails nor dispatches. -/
inductive Reaction.Quiet : Reaction ι → Prop
  /-- Nothing more is done. -/
  | done : Quiet .done
  /-- A listener is brought in. -/
  | subscribe {listener : ι} {next : Reaction ι} : next.Quiet → Quiet (.subscribe listener next)
  /-- A listener is taken out. -/
  | unsubscribe {listener : ι} {next : Reaction ι} : next.Quiet → Quiet (.unsubscribe listener next)

/-- No listener ever fails or dispatches. -/
def Audience.Quiet (A : Audience σ ι) : Prop :=
  ∀ listener t store memory, (A.hear listener t store memory).2.Quiet

theorem Reaction.Quiet.aloof {r : Reaction ι} (hr : r.Quiet) : r.Within fun _ => False := by
  induction hr with
  | done => exact .done
  | subscribe _ ih => exact .subscribe ih
  | unsubscribe _ ih => exact .unsubscribe ih

theorem Audience.Quiet.aloof {A : Audience σ ι} (hA : A.Quiet) : A.Aloof :=
  fun listener t store memory => (hA listener t store memory).aloof

namespace Audience

variable [DecidableEq ι] (send : Action → Hall σ ι → Hall σ ι × Dispatched)

theorem perform_quiet {r : Reaction ι} (hr : r.Quiet) (h : Hall σ ι) :
    (perform send r h).2 = none := by
  induction hr generalizing h with
  | done => rfl
  | subscribe _ ih => exact ih _
  | unsubscribe _ ih => exact ih _

theorem tell_quiet {A : Audience σ ι} (hA : A.Quiet) (t : Transition) (listeners : List ι)
    (h : Hall σ ι) : (tell A send t listeners h).2 = none := by
  induction listeners generalizing h with
  | nil => rfl
  | cons listener rest ih =>
    have hnone := perform_quiet send (hA listener t h.store h.memory)
      { h with memory := (A.hear listener t h.store h.memory).1 }
    rw [tell]
    cases hp : perform send (A.hear listener t h.store h.memory).2
        { h with memory := (A.hear listener t h.store h.memory).1 } with
    | mk h' fault =>
      rw [hp] at hnone
      subst hnone
      simp only [hp]
      exact ih h'

theorem dispatchWithin_quiet {A : Audience σ ι} (hA : A.Quiet) (room : Nat) {action : Action}
    {h : Hall σ ι} (hl : h.store.Keeps) :
    (A.dispatchWithin (room + 1) action h).2.fault? = h.store.state.fault? action := by
  cases hf : h.store.state.fault? action with
  | some fault =>
    rw [dispatchWithin_of_error (Snapshot.attempt_of_fault hf)]
    rfl
  | none =>
    have ha := Snapshot.attempt_of_none hf
    cases hn : h.store.state.after? action with
    | none =>
      rw [dispatchWithin_of_none (ha.trans (congrArg Except.ok hn))]
      rfl
    | some next =>
      rw [dispatchWithin_of_some (ha.trans (congrArg Except.ok hn)) hl, conclude_fault?]
      exact tell_quiet (dispatchWithin A room) hA _ _ _

/-- **A dispatch to a quiet audience** does to the store what the action does to the snapshot, and
fails only if the action does. -/
theorem dispatch_quiet {A : Audience σ ι} (hA : A.Quiet) (action : Action) {h : Hall σ ι}
    (hl : h.store.Keeps) :
    (A.dispatch action h).1.store.state = h.store.state.after action ∧
      (A.dispatch action h).1.store.limit = h.store.limit ∧
      (A.dispatch action h).2.fault? = h.store.state.fault? action := by
  obtain ⟨hrecord, -⟩ := dispatch_record hA.aloof (h := h) Leaves.nothing action
    (fun _ _ _ => trivial) trivial
  refine ⟨hrecord.state.trans (h.store.carried_state action),
    hrecord.limit.trans (h.store.carried_limit action), ?_⟩
  obtain ⟨room, hroom⟩ := A.exists_dispatch_eq
  rw [hroom]
  exact dispatchWithin_quiet hA room hl

end Audience

end SpriteStage
