import SpriteStage.Proofs.Store.Aloof
import SpriteStage.Proofs.Walk.Course

/-!
# The steps of a walk

A walk goes on by single steps until it waits or has come to its end (`Walk.step?`), and to go on to
the next wait is to take all the steps up to there (`Walk.exists_advance_eq`). What others do
during a wait is an *interlude*: they dispatch actions, time passes, and in the end the walk is told
whether it was interrupted. `Walk.Reaches` says at which points a walk can be, and after which
interludes.
-/

namespace SpriteStage

/-- A dispatch leaves the status alone. -/
theorem Scene.dispatch_status {σ ι : Type} [DecidableEq ι] (A : Audience σ ι) (a : Action)
    (sc : Scene σ ι) : (sc.dispatch A a).1.status = sc.status := rfl

/-- Something that others do while a walk waits. -/
inductive Errand (σ : Type) where
  | dispatch (action : Action)
  /-- Time passes, and what is remembered changes. -/
  | pass (change : σ → σ)

/-- All that others do during one wait, and how the wait ends. -/
structure Interlude (σ : Type) where
  errands : List (Errand σ)
  interruption : Option Interruption

variable {σ ι α : Type}

/-- The action of an errand, if it is to dispatch one. -/
def Errand.action? : Errand σ → Option Action
  | dispatch action => some action
  | pass _ => none

/-- The actions that are dispatched in an interlude. -/
def Interlude.actions (i : Interlude σ) : List Action := i.errands.filterMap Errand.action?

variable [DecidableEq ι]

/-- The scene after an errand. -/
def Errand.run (S : Surroundings σ ι) (sc : Scene σ ι) : Errand σ → Scene σ ι
  | dispatch action => (sc.dispatch S.toAudience action).1
  | pass change => sc.mapMemory change

/-- The scene after an interlude. -/
def Interlude.run (S : Surroundings σ ι) (sc : Scene σ ι) (i : Interlude σ) : Scene σ ι :=
  i.errands.foldl (Errand.run S) sc

/-- Listeners that dispatch nothing leave it to the interlude what becomes of the snapshot. -/
theorem Interlude.run_state {S : Surroundings σ ι} (aloof : S.toAudience.Aloof) (sc : Scene σ ι)
    (i : Interlude σ) : (i.run S sc).state = sc.state.afterAll i.actions := by
  unfold run actions
  induction i.errands generalizing sc with
  | nil => rfl
  | cons errand rest ih =>
    rw [List.foldl_cons, ih]
    cases errand with
    | dispatch action =>
      have hstate : (Errand.run S sc (.dispatch action)).state = sc.state.after action :=
        Audience.dispatch_state aloof action sc.toHall
      rw [hstate]
      rfl
    | pass change => rfl

namespace Walk

/-- One step of a walk: what is left of it, and the scene then. It takes none if it waits or has
come to its end. -/
def step? (S : Surroundings σ ι) : Walk α → Scene σ ι → Option (Walk α × Scene σ ι)
  | .done _, _ => none
  | .look next, sc => some (next sc.state sc.status, sc)
  | .begin _ next, sc => some (next, sc)
  | .dispatch action next, sc =>
    let (sc, dispatched) := sc.dispatch S.toAudience action
    some (next (Dispatched.fault? dispatched), sc)
  | .wait seconds next, sc =>
    let sc := sc.mapMemory (S.waits seconds)
    (S.waitFault? seconds sc.memory).map fun fault => (next (some (.failed fault)), sc)
  | .clock next, sc => some (next (S.now sc.memory), sc)
  | .enter status next, sc => some (next, { sc with status })
  | .log line next, sc => some (next, sc.mapMemory (S.log line))
  | .notify text next, sc => some (next, sc.mapMemory (S.notify text))

theorem step?_dispatch (S : Surroundings σ ι) (a : Action) (next : Option Fault → Walk α)
    (sc : Scene σ ι) :
    (Walk.dispatch a next).step? S sc =
      some (next (Dispatched.fault? (sc.dispatch S.toAudience a).2),
        (sc.dispatch S.toAudience a).1) := rfl

/-- The walk that was begun in a scene can come to be at another point, which is what is left of it
and the scene then, with these interludes on the way. -/
inductive Reaches (S : Surroundings σ ι) (w : Walk α) (sc : Scene σ ι) :
    List (Interlude σ) → Walk α → Scene σ ι → Prop
  | start : Reaches S w sc [] w sc
  | step {is : List (Interlude σ)} {w₁ w₂ : Walk α} {sc₁ sc₂ : Scene σ ι} :
      Reaches S w sc is w₁ sc₁ → w₁.step? S sc₁ = some (w₂, sc₂) → Reaches S w sc is w₂ sc₂
  | interlude {is : List (Interlude σ)} {w₁ : Walk α} {sc₁ sc₂ : Scene σ ι} {seconds : Datum}
      {resume : Option Interruption → Walk α} (i : Interlude σ) :
      Reaches S w sc is w₁ sc₁ → w₁.advance S sc₁ = (sc₂, .waiting seconds resume) →
      Reaches S w sc (is ++ [i]) (resume i.interruption) (i.run S sc₂)

variable {S : Surroundings σ ι} {w w₁ w₂ : Walk α} {sc sc₁ sc₂ : Scene σ ι}

/-- To go on is to take a step and go on. -/
theorem advance_of_step? (h : w₁.step? S sc₁ = some (w₂, sc₂)) :
    w₁.advance S sc₁ = w₂.advance S sc₂ := by
  cases w₁ with
  | done value => cases h
  | wait seconds next =>
    obtain ⟨fault, hfault, hnext⟩ := Option.map_eq_some_iff.mp h
    cases hnext
    simp only [advance, hfault]
  | look next | begin block next | dispatch action next | clock next | enter status next
  | log line next | notify text next =>
    cases h
    rfl

/-- A walk that takes no step has come to its end, or waits. -/
theorem advance_of_stuck (h : w.step? S sc = none) :
    (∃ value, w = .done value ∧ w.advance S sc = (sc, .ended value)) ∨
      ∃ seconds next, w = .wait seconds next ∧
        w.advance S sc = (sc.mapMemory (S.waits seconds), .waiting seconds next) := by
  cases w with
  | done value => exact .inl ⟨value, rfl, rfl⟩
  | wait seconds next =>
    refine .inr ⟨seconds, next, rfl, ?_⟩
    have hfault := Option.map_eq_none_iff.mp h
    simp only [advance, hfault]
  | look next | begin block next | dispatch action next | clock next | enter status next
  | log line next | notify text next => cases h

/-- **To go on to the next wait** or to the end is to take steps up to a point where there is none
to take; what every step keeps holds there. -/
theorem exists_advance_eq {J : Walk α → Scene σ ι → Prop}
    (hJ : ∀ {w₁ w₂ sc₁ sc₂}, J w₁ sc₁ → w₁.step? S sc₁ = some (w₂, sc₂) → J w₂ sc₂) (h : J w sc) :
    ∃ w' sc', J w' sc' ∧ w'.step? S sc' = none ∧ w.advance S sc = w'.advance S sc' := by
  induction w generalizing sc with
  | done value => exact ⟨_, _, h, rfl, rfl⟩
  | wait seconds next ih =>
    cases hstep : (Walk.wait seconds next).step? S sc with
    | none => exact ⟨_, _, h, hstep, rfl⟩
    | some point =>
      obtain ⟨fault, hfault, rfl⟩ := Option.map_eq_some_iff.mp hstep
      rw [advance_of_step? hstep]
      exact ih _ (hJ h hstep)
  | look next ih => exact ih _ _ (hJ h rfl)
  | begin block next ih => exact ih (hJ h rfl)
  | dispatch action next ih => exact ih _ (hJ h rfl)
  | clock next ih => exact ih _ (hJ h rfl)
  | enter status next ih => exact ih (hJ h rfl)
  | log line next ih => exact ih (hJ h rfl)
  | notify text next ih => exact ih (hJ h rfl)

/-- Where a walk comes to be when it goes on: at its end, or at the wait that it comes to. -/
theorem Reaches.exists_of_advance {is : List (Interlude σ)} (h : w.Reaches S sc is w₁ sc₁) :
    ∃ w₂ sc₂, w.Reaches S sc is w₂ sc₂ ∧ (w₁.advance S sc₁).1.state = sc₂.state ∧
      ((∃ value, w₂ = .done value ∧ (w₁.advance S sc₁).2 = .ended value) ∨
        ∃ seconds next, w₂ = .wait seconds next ∧
          (w₁.advance S sc₁).2 = .waiting seconds next) := by
  obtain ⟨w₂, sc₂, h₂, hstuck, hadvance⟩ := exists_advance_eq Reaches.step h
  refine ⟨w₂, sc₂, h₂, ?_⟩
  rw [hadvance]
  obtain ⟨value, hw, hended⟩ | ⟨seconds, next, hw, hwaits⟩ := advance_of_stuck hstuck
  · rw [hended]
    exact ⟨rfl, .inl ⟨value, hw, rfl⟩⟩
  · rw [hwaits]
    exact ⟨rfl, .inr ⟨seconds, next, hw, rfl⟩⟩

end Walk

end SpriteStage
