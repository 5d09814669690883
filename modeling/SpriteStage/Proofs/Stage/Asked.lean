import SpriteStage.Proofs.Stage.Dispatch
import SpriteStage.Proofs.Stage.Theatre

/-!
# What is asked for is what is done

All that happens to the record of a store in the turn of a run are the actions that its walk asks
for, and in the turn of a tick loop swaps (`Theatre.follows_asked`). What a walk asks for is told
from the scene before the turn, whose queue is another one by the time that the walk goes on; but a
walk sees no more of a scene than the snapshot, the status and the clock.
-/

namespace SpriteStage

variable {P : Action → Prop}

namespace Backstage

theorem remarked_now (a : Action) (b : Backstage) : (b.remarked a).now = b.now := by
  unfold remarked
  cases a.remark? <;> rfl

theorem heed_now (t : Transition) (b : Backstage) (listener : Listener) :
    (b.heed t listener).now = b.now := by
  cases listener with
  | recorder => rfl
  | detector =>
    unfold heed watch startTicking
    split_ifs <;> rfl

theorem foldl_heed_now (t : Transition) (listeners : List Listener) (b : Backstage) :
    (listeners.foldl (heed t) b).now = b.now := by
  induction listeners generalizing b with
  | nil => rfl
  | cons listener rest ih => exact (ih _).trans (heed_now t b listener)

end Backstage

namespace StageScene

variable {sc sc' : StageScene}

/-- To a walk, the two scenes look the same, and what it dispatches comes to the same. -/
structure LooksLike (sc sc' : StageScene) : Prop where
  state : sc'.state = sc.state
  limit : sc'.store.limit = sc.store.limit
  status : sc'.status = sc.status
  now : sc'.memory.now = sc.memory.now

namespace LooksLike

theorem mapMemory (h : LooksLike sc sc') {f : Backstage → Backstage}
    (hf : ∀ b, (f b).now = b.now) : LooksLike (sc.mapMemory f) (sc'.mapMemory f) :=
  ⟨h.state, h.limit, h.status, (hf _).trans (h.now.trans (hf _).symm)⟩

theorem send (h : LooksLike sc sc') (a : Action) :
    LooksLike (sc.send a).1 (sc'.send a).1 ∧ (sc'.send a).2 = (sc.send a).2 := by
  have hremarked := h.mapMemory (Backstage.remarked_now a)
  rw [send_eq, send_eq, h.state, h.limit]
  cases sc.state.attempt a with
  | error fault => exact ⟨hremarked, rfl⟩
  | ok next =>
    cases next with
    | none => exact ⟨hremarked, rfl⟩
    | some next =>
      cases Store.limitFault? sc.store.limit with
      | some fault => exact ⟨⟨rfl, h.limit, h.status, hremarked.now⟩, rfl⟩
      | none =>
        refine ⟨⟨rfl, h.limit, h.status, ?_⟩, rfl⟩
        simp only [Backstage.foldl_heed_now]
        exact hremarked.now

theorem waitFault? (h : LooksLike sc sc') (seconds : Datum) :
    Backstage.surroundings.waitFault? seconds sc'.memory =
      Backstage.surroundings.waitFault? seconds sc.memory := by
  show Fault.of? (seconds.addTo sc'.memory.now) = Fault.of? (seconds.addTo sc.memory.now)
  rw [h.now]

/-- A walk that goes on does no more to the record than what it asks for. -/
theorem follows_stretch {α : Type} {w : Walk α} (h : LooksLike sc sc')
    (hP : ∀ a, .action a ∈ w.stretch sc' → P a) :
    sc.store.Follows P (w.advance Backstage.surroundings sc).1.store := by
  induction w generalizing sc sc' with
  | done value => exact .refl
  | look next ih =>
    refine ih _ _ h ?_
    rw [← h.state, ← h.status]
    exact hP
  | begin block next ih => exact ih h hP
  | dispatch action next ih =>
    obtain ⟨hsent, hdispatched⟩ := h.send action
    have hfirst : P action := hP action List.mem_cons_self
    have hrest := ih (Dispatched.fault? (sc.send action).2) hsent fun a ha =>
      hP a (List.mem_cons_of_mem _ (hdispatched ▸ ha))
    exact (Aside.send hfirst sc).store.trans hrest
  | wait seconds next ih =>
    have hbegun := h.mapMemory (f := Backstage.surroundings.waits seconds) fun _ => rfl
    have hfault := hbegun.waitFault? seconds
    simp only [Walk.stretch, hfault] at hP
    simp only [Walk.advance]
    split
    · rename_i fault hfailed
      rw [hfailed] at hP
      exact ih _ hbegun fun a ha => hP a (List.mem_cons_of_mem _ ha)
    · exact .refl
  | clock next ih =>
    refine ih _ h ?_
    show ∀ a, .action a ∈ (next sc.memory.now).stretch sc' → P a
    rw [← h.now]
    exact hP
  | enter status next ih =>
    have hentered : LooksLike { sc with status } { sc' with status } :=
      ⟨h.state, h.limit, rfl, h.now⟩
    exact ih hentered hP
  | log line next ih =>
    exact ih (h.mapMemory (f := Backstage.surroundings.log line) fun _ => rfl) hP
  | notify text next ih =>
    exact ih (h.mapMemory (f := Backstage.surroundings.notify text) fun _ => rfl) hP

end LooksLike

theorem walkOn_store (number : Nat) (walk : Walk (Except Interruption RunResult))
    (sc : StageScene) :
    (walkOn number walk sc).store = (walk.advance Backstage.surroundings sc).1.store := by
  cases hadvance : walk.advance Backstage.surroundings sc with
  | mk sc' pause =>
    cases pause with
    | waiting seconds resume =>
      unfold walkOn
      rw [hadvance]
      rfl
    | ended value =>
      obtain ⟨run, -, hwalkOn⟩ := exists_walkOn_eq number hadvance
      rw [hwalkOn]
      rfl

/-- What the turn of a run does to the record are the actions that its walk asks for. -/
theorem follows_turnOfRun (h : LooksLike sc sc') (hruns : sc'.memory.runs = sc.memory.runs)
    {I : Interpreter} {number : Nat} (hP : ∀ walk, sc'.walkOfTurn? I (.run number) = some walk →
      ∀ a, .action a ∈ walk.stretch sc' → P a) :
    sc.store.Follows P (turnOfRun I number sc).store := by
  have hflight : walkInFlight sc' = walkInFlight sc := by
    simp only [walkInFlight, h.state, h.status]
  simp only [walkOfTurn?, hruns, hflight] at hP
  unfold turnOfRun
  cases hrun : sc.memory.runs[number]? with
  | none => exact .refl
  | some run =>
    rw [hrun] at hP
    cases run with
    | fresh address cancelled =>
      cases cancelled with
      | true => exact .refl
      | false =>
        simp only at hP ⊢
        split_ifs at hP ⊢
        · exact .refl
        · rw [walkOn_store]
          exact h.follows_stretch (hP _ rfl)
    | woken resume interruption =>
      simp only
      rw [walkOn_store]
      exact h.follows_stretch (hP _ rfl)
    | released result interruption => cases interruption <;> exact .refl
    | _ => exact .refl

/-- What a turn does to the record are the actions that its walk asks for, or swaps. -/
theorem follows_turn (hswap : ∀ first second, P (.swapMoves first second)) {I : Interpreter}
    (hP : ∀ walk, sc.memory.ready.head?.bind (sc.walkOfTurn? I) = some walk →
      ∀ a, .action a ∈ walk.stretch sc → P a) :
    sc.store.Follows P (turn I sc).store := by
  unfold turn
  cases hready : sc.memory.ready with
  | nil => exact .refl
  | cons next rest =>
    rw [hready] at hP
    let called : StageScene := sc.mapMemory fun b => { b with ready := rest }
    have hcalled : LooksLike called sc := ⟨rfl, rfl, rfl, rfl⟩
    cases next with
    | run number => exact follows_turnOfRun hcalled rfl hP
    | loop number => exact (turnOfLoop_aside hswap number called).store

end StageScene

namespace Theatre

/-- **What is asked for is what is done.** Whoever has a turn on the stage, the record changes by
the actions that walks ask for, and by swaps. -/
theorem follows_asked {th : Theatre} {position : Nat}
    (hswap : ∀ first second, P (.swapMoves first second))
    (hP : ∀ a, .action a ∈ Occurrence.asked th (.onStage (.turn position)) → P a) :
    th.scene.store.Follows P ((Session.Occurrence.turn position).follow th.stage).scene.store := by
  let sc : StageScene := th.scene.mapMemory (Session.called position)
  show sc.store.Follows P (StageScene.turn th.stage.interpreter sc).store
  refine StageScene.follows_turn hswap fun walk hwalk a ha => ?_
  rw [Occurrence.asked_turn th hwalk] at hP
  exact hP a ha

end Theatre

end SpriteStage
