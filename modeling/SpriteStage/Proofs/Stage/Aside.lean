import SpriteStage.Stage.Schedule
import SpriteStage.Proofs.Store.Quiet
import SpriteStage.Proofs.Walk.Within
import Mathlib.Logic.Relation

/-!
# What goes on aside from walks

Much of what happens on a stage has nothing to do with the walks that wait there: it dispatches
actions of some kind, and leaves the status and the walks as they are (`StageScene.Aside`). So it is
with the dispatch of an action, with the turns of tick loops, whose actions are swaps
(`StageScene.turnOfLoop_aside`), with the end of a wait, and with a further run that has not begun.
-/

namespace SpriteStage

variable {P Q : Action → Prop}

/-! ### Records -/

namespace Store

variable {ι : Type} {s s' s'' : Store ι}

/-- The record of the second store comes of the first by actions of a kind. -/
def Follows (P : Action → Prop) : Store ι → Store ι → Prop :=
  Relation.ReflTransGen fun s s' => ∃ a, P a ∧ SameRecord (s.carried a) s'

theorem Follows.mono (hPQ : ∀ a, P a → Q a) (h : Follows P s s') : Follows Q s s' :=
  Relation.ReflTransGen.mono (fun _ _ ⟨a, ha, hrecord⟩ => ⟨a, hPQ a ha, hrecord⟩) _ _ h

/-- What no action of the kind takes away holds at the end if it holds at the beginning. -/
theorem Follows.keeps {J : Store ι → Prop}
    (hstep : ∀ s s' a, P a → SameRecord (s.carried a) s' → J s → J s') (h : Follows P s s')
    (hs : J s) : J s' := by
  induction h with
  | refl => exact hs
  | tail _ hlast ih =>
    obtain ⟨a, ha, hrecord⟩ := hlast
    exact hstep _ _ a ha hrecord ih

/-- What no action of the kind changes in a snapshot is the same in both. -/
theorem Follows.congr {β : Type} {f : Snapshot → β} (hstep : ∀ s a, P a → f (s.after a) = f s)
    (h : Follows P s s') : f s'.state = f s.state := by
  refine h.keeps (J := fun s' => f s'.state = f s.state) (fun s₁ s₂ a ha hrecord hs => ?_) rfl
  rw [hrecord.state, carried_state, hstep _ a ha, hs]

end Store

/-! ### Walks that wait -/

/-- The walk of a run that waits, or whose wait is over: how it goes on. -/
def Run.walk? : Run → Option (Option Interruption → Walk (Except Interruption RunResult))
  | .asleep resume | .woken resume _ => some resume
  | _ => none

namespace Backstage

/-- The walks of runs that have begun and not ended, in order. -/
def walks (b : Backstage) : List (Option Interruption → Walk (Except Interruption RunResult)) :=
  b.runs.filterMap Run.walk?

/-- Among the walks, that of a run has its place, which goes to whatever walk the run has later. -/
theorem exists_walks_setRun {b : Backstage} {number : Nat} {old : Run}
    (h : b.runs[number]? = some old) :
    ∃ before after, b.walks = before ++ old.walk?.toList ++ after ∧
      ∀ run, (b.setRun number run).walks = before ++ run.walk?.toList ++ after := by
  obtain ⟨hlt, hget⟩ := List.getElem?_eq_some_iff.mp h
  have hset (run : Run) : (b.setRun number run).walks =
      (b.runs.take number).filterMap Run.walk? ++ run.walk?.toList ++
        (b.runs.drop (number + 1)).filterMap Run.walk? := by
    rw [walks, setRun, List.set_eq_take_append_cons_drop, if_pos hlt, List.filterMap_append]
    cases hwalk : run.walk? <;> simp [hwalk]
  refine ⟨_, _, ?_, hset⟩
  rw [← hset old, setRun, ← hget, List.set_getElem_self, walks]

/-- The run of this number has no walk. -/
def Walkless (b : Backstage) (number : Nat) : Prop :=
  ∀ run, b.runs[number]? = some run → run.walk? = none

theorem walks_setRun {b : Backstage} {number : Nat} {run : Run}
    (h : ∀ old, b.runs[number]? = some old → run.walk? = old.walk?) :
    (b.setRun number run).walks = b.walks := by
  cases hold : b.runs[number]? with
  | none =>
    have hlen : b.runs.length ≤ number := List.getElem?_eq_none_iff.mp hold
    rw [walks, setRun, List.set_eq_of_length_le hlen, walks]
  | some old =>
    obtain ⟨before, after, hwalks, hset⟩ := exists_walks_setRun hold
    rw [hset, hwalks, h old hold]

theorem Walkless.setRun {b : Backstage} {number other : Nat} {run : Run} (h : b.Walkless number)
    (hrun : run.walk? = none) : (b.setRun other run).Walkless number := by
  intro r hr
  rw [Backstage.setRun, List.getElem?_set] at hr
  split_ifs at hr
  · obtain rfl := Option.some.inj hr
    exact hrun
  · exact h r hr

theorem surroundings_quiet : surroundings.toAudience.Quiet := by
  intro listener t store memory
  cases listener <;> exact .done

theorem startTicking_runs (b : Backstage) : b.startTicking.runs = b.runs := by
  unfold startTicking
  split_ifs <;> rfl

theorem watch_runs (t : Transition) (b : Backstage) : (b.watch t).runs = b.runs := by
  unfold watch
  split_ifs
  · exact b.startTicking_runs
  · rfl
  · rfl

/-- Nobody who listens has to do with runs. -/
theorem surroundings_leaves (runs : List Run) :
    surroundings.toAudience.Leaves (fun _ => True) fun b => b.runs = runs where
  hear listener t store b _ hb := by
    cases listener with
    | detector => exact (b.watch_runs t).trans hb
    | recorder => exact hb
  log line b hb := hb

/-- The end of a wait leaves the walks as they are. -/
theorem rouse_walks (turn : Turn) (interruption : Option Interruption) (b : Backstage) :
    (StageScene.rouse turn interruption b).walks = b.walks := by
  unfold StageScene.rouse
  cases turn with
  | loop number => rfl
  | run number =>
    simp only
    split
    · rename_i resume hrun
      exact walks_setRun (b := (b.unsleep (.run number)).enqueue (.run number)) fun old hold => by
        cases hrun.symm.trans hold
        rfl
    · rfl

end Backstage

namespace StageScene

variable {sc sc' sc'' : StageScene}

/-- A dispatch does to the store what the action does, and has nothing to do with runs. -/
theorem send_record (sc : StageScene) (a : Action) :
    Store.SameRecord (sc.store.carried a) (sc.send a).1.store ∧
      (sc.send a).1.memory.runs = sc.memory.runs :=
  Audience.dispatch_record Backstage.surroundings_quiet.aloof
    (Backstage.surroundings_leaves sc.memory.runs) a (h := sc.toHall) (fun _ _ _ => trivial) rfl

theorem send_state (sc : StageScene) (a : Action) : (sc.send a).1.state = sc.state.after a :=
  (send_record sc a).1.state.trans (sc.store.carried_state a)

/-- From the one scene to the other, nothing was done but to dispatch actions of a kind and to
change what is remembered; the status is the same, and so are the walks. -/
structure Aside (P : Action → Prop) (sc sc' : StageScene) : Prop where
  status : sc'.status = sc.status
  walks : sc'.memory.walks = sc.memory.walks
  store : sc.store.Follows P sc'.store

namespace Aside

theorem refl (sc : StageScene) : Aside P sc sc := ⟨rfl, rfl, .refl⟩

theorem trans (h : Aside P sc sc') (h' : Aside P sc' sc'') : Aside P sc sc'' :=
  ⟨h'.status.trans h.status, h'.walks.trans h.walks, h.store.trans h'.store⟩

theorem mono (hPQ : ∀ a, P a → Q a) (h : Aside P sc sc') : Aside Q sc sc' :=
  ⟨h.status, h.walks, h.store.mono hPQ⟩

theorem mapMemory {f : Backstage → Backstage} (h : (f sc.memory).walks = sc.memory.walks) :
    Aside P sc (Scene.mapMemory f sc) := ⟨rfl, h, .refl⟩

theorem log (text : String) (sc : StageScene) : Aside P sc (log text sc) := mapMemory rfl

theorem notify (text : String) (sc : StageScene) : Aside P sc (notify text sc) := mapMemory rfl

theorem setRun {number : Nat} {run : Run}
    (h : ∀ old, sc.memory.runs[number]? = some old → run.walk? = old.walk?) :
    Aside P sc (setRun number run sc) := mapMemory (Backstage.walks_setRun h)

/-- What becomes of a run without its walk is aside. -/
theorem setRun_of_eq_some {number : Nat} {old run : Run}
    (hrun : sc.memory.runs[number]? = some old) (h : run.walk? = old.walk?) :
    Aside P sc (StageScene.setRun number run sc) := by
  refine setRun fun old' hold => ?_
  cases hrun.symm.trans hold
  exact h

theorem send {a : Action} (ha : P a) (sc : StageScene) : Aside P sc (sc.send a).1 := by
  obtain ⟨hrecord, hruns⟩ := send_record sc a
  exact ⟨rfl, congrArg (List.filterMap Run.walk?) hruns, .single ⟨a, ha, hrecord⟩⟩

end Aside

/-! ### Tick loops -/

theorem walkless_of_mem_lingerers {loop : Nat} {waiting : Nat × RunResult}
    (h : waiting ∈ lingerers loop sc) : sc.memory.Walkless waiting.1 := by
  obtain ⟨⟨run, number⟩, hmem, hsome⟩ := List.mem_filterMap.mp h
  have hrun : sc.memory.runs[number]? = some run := List.mk_mem_zipIdx_iff_getElem?.mp hmem
  intro r hr
  cases run with
  | lingering l result =>
    dsimp only at hsome
    split_ifs at hsome
    cases hsome
    cases hrun.symm.trans hr
    rfl
  | _ => cases hsome

theorem endLoop_aside (number : Nat) (interruption : Option Interruption) (sc : StageScene) :
    Aside P sc (endLoop number interruption sc) := by
  let ended := Scene.mapMemory (Backstage.setLoop number (.ended interruption)) sc
  have hended : Aside P sc ended := .mapMemory rfl
  have hwalkless : ∀ waiting ∈ lingerers number sc, ended.memory.Walkless waiting.1 :=
    fun waiting hmem => walkless_of_mem_lingerers hmem
  -- those who wait for the loop have no walk any more, and so it is with each when its time comes
  refine (List.foldlRecOn (motive := fun sc' => Aside P sc sc' ∧
    ∀ waiting ∈ lingerers number sc, sc'.memory.Walkless waiting.1) (lingerers number sc) _
    ⟨hended, hwalkless⟩ fun sc' hsc' waiting hmem => ?_).1
  obtain ⟨haside, hall⟩ := hsc'
  have hset : Aside P sc' (StageScene.setRun waiting.1 (.released waiting.2 interruption) sc') :=
    .setRun fun old hold => (hall waiting hmem old hold).symm
  exact ⟨(haside.trans hset).trans (.mapMemory rfl), fun other hother =>
    (hall other hother).setRun rfl⟩

theorem leaveLoop_aside (number : Nat) (interruption : Option Interruption) (sc : StageScene) :
    Aside P sc (leaveLoop number interruption sc) := by
  have hforgotten : Aside P sc
      (if sc.state.running then sc else Scene.mapMemory (Backstage.withHandled []) sc) := by
    split_ifs
    · exact .refl sc
    · exact .mapMemory rfl
  exact hforgotten.trans (endLoop_aside number interruption _)

theorem swap_aside (hP : ∀ first second, P (.swapMoves first second)) (a b : Actor)
    (sc : StageScene) : Aside P sc (swap a b sc).1 := by
  have hsend := Aside.send (hP a.id b.id) sc
  unfold swap
  cases h : sc.send (.swapMoves a.id b.id) with
  | mk sc' dispatched =>
    rw [h] at hsend
    cases dispatched with
    | error fault => exact hsend
    | ok next => exact ((hsend.trans (.mapMemory rfl)).trans (.log _ _)).trans (.notify _ _)

theorem check_aside (hP : ∀ first second, P (.swapMoves first second)) (sc : StageScene) :
    Aside P sc (check sc).1 := by
  unfold check
  split_ifs
  · cases firstCollision? sc.memory.detector.handled sc.state.actors with
    | error fault => exact .refl sc
    | ok pair =>
      cases pair with
      | none => exact .refl sc
      | some pair =>
        obtain ⟨a, b⟩ := pair
        have hswap := swap_aside hP a b sc
        simp only
        cases h : swap a b sc with
        | mk sc' fault =>
          rw [h] at hswap
          cases fault <;> exact hswap
  · exact .refl sc

theorem tick_aside (hP : ∀ first second, P (.swapMoves first second)) (number : Nat)
    (sc : StageScene) : Aside P sc (tick number sc) := by
  unfold tick
  split_ifs
  · have hcheck := check_aside hP sc
    cases h : check sc with
    | mk sc' outcome =>
      rw [h] at hcheck
      cases outcome with
      | error fault => exact hcheck.trans (leaveLoop_aside number _ sc')
      | ok pair =>
        have hwaits : Aside P sc' (sc'.mapMemory
            (Backstage.surroundings.waits sc'.memory.detector.tick)) := .mapMemory rfl
        simp only
        split
        · exact (hcheck.trans hwaits).trans (leaveLoop_aside number _ _)
        · exact (hcheck.trans hwaits).trans (.mapMemory rfl)
  · exact leaveLoop_aside number none sc

/-- All that a tick loop does in its turn is to swap moves. -/
theorem turnOfLoop_aside (hP : ∀ first second, P (.swapMoves first second)) (number : Nat)
    (sc : StageScene) : Aside P sc (turnOfLoop number sc) := by
  unfold turnOfLoop
  split
  · exact endLoop_aside number _ sc
  · exact tick_aside hP number sc
  · exact tick_aside hP number sc
  · exact leaveLoop_aside number _ sc
  · exact .refl sc

/-! ### Runs that have not begun, waits, ends of walks -/

/-- The end of a wait, whenever it is and however it ends. -/
theorem rouse_aside (turn : Turn) (interruption : Option Interruption) (now : Number)
    (sc : StageScene) :
    Aside P sc (Scene.mapMemory (fun b => rouse turn interruption { b with now }) sc) :=
  .mapMemory (Backstage.rouse_walks turn interruption { sc.memory with now })

theorem addRun_aside (address : Datum) (sc : StageScene) : Aside P sc (addRun address sc).2 := by
  refine .mapMemory (f := fun b =>
    { b with
      runs := b.runs ++ [.fresh address false]
      ready := b.ready ++ [.run b.runs.length] }) ?_
  simp [Backstage.walks, Run.walk?]

theorem exists_awaitLoop_eq (number : Nat) (result : RunResult) (sc : StageScene) :
    ∃ run, run.walk? = none ∧ awaitLoop number result sc = setRun number run sc := by
  unfold awaitLoop
  simp only
  split
  · exact ⟨_, rfl, rfl⟩
  · split <;> exact ⟨_, rfl, rfl⟩

/-- A run whose walk has ended has none any more. -/
theorem exists_walkOn_eq (number : Nat) {walk : Walk (Except Interruption RunResult)}
    {value : Except Interruption RunResult}
    (h : walk.advance Backstage.surroundings sc = (sc', .ended value)) :
    ∃ run, run.walk? = none ∧ walkOn number walk sc = setRun number run sc' := by
  unfold walkOn
  rw [h]
  match value with
  | .error interruption => exact ⟨_, rfl, rfl⟩
  | .ok .complete => exact exists_awaitLoop_eq number _ sc'
  | .ok (.broken fault) => exact exists_awaitLoop_eq number _ sc'
  | .ok (.refused .notFound) => exact exists_awaitLoop_eq number _ sc'
  | .ok (.refused .noBlocks) => exact exists_awaitLoop_eq number _ sc'
  | .ok (.refused .alreadyRunning) => exact ⟨_, rfl, rfl⟩

/-- A walk that goes on has nothing to do with runs. -/
theorem advance_runs {α : Type} (w : Walk α) (sc : StageScene) :
    (w.advance Backstage.surroundings sc).1.memory.runs = sc.memory.runs := by
  induction w generalizing sc with
  | done value => rfl
  | look next ih => exact ih ..
  | begin block next ih => exact ih ..
  | dispatch action next ih => exact (ih ..).trans (send_record sc action).2
  | wait seconds next ih =>
    simp only [Walk.advance]
    split
    · exact ih ..
    · rfl
  | clock next ih => exact ih ..
  | enter status next ih => exact ih ..
  | log line next ih => exact ih ..
  | notify text next ih => exact ih ..

end StageScene

end SpriteStage
