import SpriteStage.Proofs.Stage.Aside
import SpriteStage.Proofs.Walk.Underway

/-!
# Walks in flight

A run that is not refused takes the status to `running` and sets the running flag, and as long as
its walk waits the status stays there; once the walk does not wait any more the status is another
one. So the status knows of all walks that wait on a stage, and of those that were begun past it:
there is just one while it is `running`, and none otherwise (`StageScene.Orderly`). No turn takes
that away (`StageScene.Orderly.turn`).
-/

namespace SpriteStage

variable {P : Action → Prop} {α : Type}

namespace StageScene

/-- What comes of a walk under way when it goes on in a scene: it waits again, and has done no more
than to dispatch actions of the kind, or it has ended and taken the status away from `running`. -/
inductive Advanced (P : Action → Prop) (sc : StageScene) : StageScene × Pause α → Prop
  | waiting {sc' : StageScene} {seconds : Datum} {resume : Option Interruption → Walk α} :
      (∀ interruption, (resume interruption).Underway P) → sc'.status = sc.status →
      sc.store.Follows P sc'.store → Advanced P sc (sc', .waiting seconds resume)
  | ended {sc' : StageScene} {value : α} :
      sc'.status ≠ .running → Advanced P sc (sc', .ended value)

theorem Advanced.of_aside {sc sc' : StageScene} {r : StageScene × Pause α} (h : sc.Aside P sc') :
    Advanced P sc' r → Advanced P sc r
  | .waiting hresume hstatus hstore =>
    .waiting hresume (hstatus.trans h.status) (h.store.trans hstore)
  | .ended hstatus => .ended hstatus

end StageScene

open StageScene

theorem Walk.Closing.advance {w : Walk α} (hw : w.Closing) (sc : StageScene) :
    ∃ sc' value, w.advance Backstage.surroundings sc = (sc', .ended value) ∧
      sc'.status = sc.status := by
  induction hw generalizing sc with
  | done value => exact ⟨sc, value, rfl, rfl⟩
  | clear _ ih => exact ih _ (sc.send (.setRunning (.bool false))).1
  | log line _ ih => exact ih (sc.mapMemory _)
  | notify text _ ih => exact ih (sc.mapMemory _)

theorem Walk.Underway.advance {w : Walk α} (hw : w.Underway P) (sc : StageScene) :
    Advanced P sc (w.advance Backstage.surroundings sc) := by
  induction hw generalizing sc with
  | look _ ih => exact ih _ _ sc
  | begin block _ ih => exact ih sc
  | dispatch ha _ ih => exact .of_aside (.send ha sc) (ih _ _)
  | @wait seconds next hnext ih =>
    have hwaits : Aside P sc (sc.mapMemory (Backstage.surroundings.waits seconds)) := .mapMemory rfl
    simp only [Walk.advance]
    split
    · exact .of_aside hwaits (ih _ _)
    · exact .waiting hnext rfl hwaits.store
  | clock _ ih => exact ih _ sc
  | @enter status next hstatus hnext =>
    let entered : StageScene := { sc with status }
    obtain ⟨sc', value, hadvance, hsame⟩ := hnext.advance entered
    show Advanced P sc (next.advance Backstage.surroundings entered)
    rw [hadvance]
    exact .ended (hsame.trans_ne hstatus)
  | log line _ ih => exact .of_aside (.log line sc) (ih _)
  | notify text _ ih => exact .of_aside (.notify text sc) (ih _)

namespace StageScene

variable {sc sc' : StageScene} {address : Datum}

/-! ### The beginning of a run -/

/-- A run that is refused changes nothing. -/
theorem advance_run_refused {cause : RunRefusal}
    (h : Interpreter.accept sc.state sc.status address = .error cause) (I : Interpreter) :
    ∃ sc', (I.run address).advance Backstage.surroundings sc =
      (sc', .ended (.ok (.refused cause))) ∧ Aside (fun _ => False) sc sc' := by
  simp only [Interpreter.run, Walk.advance, h]
  cases cause.notice? with
  | none => exact ⟨sc, rfl, .refl sc⟩
  | some text => exact ⟨notify text sc, rfl, .notify text sc⟩

/-- A run that is not refused sets the flag, and is then under way. -/
theorem advance_run_accepted {a : Actor}
    (h : Interpreter.accept sc.state sc.status address = .ok a) (I : Interpreter) :
    ∃ sc', sc'.status = .running ∧
      Store.SameRecord (sc.store.carried (.setRunning (.bool true))) sc'.store ∧
      Advanced Action.Play sc' ((I.run address).advance Backstage.surroundings sc) := by
  obtain ⟨next, hcourse, hnext⟩ := I.exists_course_eq (sc.state.addressee address) a
  simp only [Interpreter.run, Walk.advance, h, hcourse]
  let line := "[Interpreter] run started for " ++ (sc.state.addressee address).label
  let started : StageScene := log line { sc with status := .running }
  exact ⟨(started.send (.setRunning (.bool true))).1, rfl, (send_record started _).1,
    (hnext _).advance _⟩

/-- While the status is `running`, a request for a run changes nothing at all. -/
theorem advance_run_of_running (h : sc.status = .running) (I : Interpreter) (address : Datum) :
    (I.run address).advance Backstage.surroundings sc =
      (sc, .ended (.ok (.refused .alreadyRunning))) := by
  have haccept : Interpreter.accept sc.state sc.status address = .error .alreadyRunning := by
    simp [Interpreter.accept, h]
  simp only [Interpreter.run, Walk.advance, haccept, RunRefusal.notice?]

/-! ### Order -/

/-- Whatever goes on with walks between two scenes, these are its actions: a walk that begins sets
the flag, and from then on all is play as long as a walk is under way. -/
structure Onward (sc sc' : StageScene) : Prop where
  begun : sc.status ≠ .running → sc'.status = .running →
    ∃ s, Store.SameRecord (sc.store.carried (.setRunning (.bool true))) s ∧
      s.Follows Action.Play sc'.store
  kept : sc.status = .running → sc'.status = .running → sc.store.Follows Action.Play sc'.store

theorem Onward.of_aside (h : sc.Aside Action.Play sc') : Onward sc sc' where
  begun hbefore hafter := absurd (h.status.symm.trans hafter) hbefore
  kept _ _ := h.store

/-- All walks that wait are under way, and there is one if the status is `running` and none
otherwise. The walks are those of the scene and some that were begun past it. -/
structure Orderly (guests : List (Option Interruption → Walk (Except Interruption RunResult)))
    (sc : StageScene) : Prop where
  underway : ∀ resume ∈ sc.memory.walks ++ guests, ∀ interruption,
    (resume interruption).Underway Action.Play
  single : (sc.memory.walks ++ guests).length = if sc.status = .running then 1 else 0

namespace Orderly

variable {guests guests' : List (Option Interruption → Walk (Except Interruption RunResult))}

theorem aside (h : sc.Orderly guests) (ha : sc.Aside P sc') : sc'.Orderly guests := by
  obtain ⟨hunderway, hsingle⟩ := h
  rw [← ha.walks] at hunderway hsingle
  rw [← ha.status] at hsingle
  exact ⟨hunderway, hsingle⟩

theorem status_of_mem (h : sc.Orderly guests)
    {resume : Option Interruption → Walk (Except Interruption RunResult)}
    (hmem : resume ∈ sc.memory.walks ++ guests) : sc.status = .running := by
  by_contra hstatus
  have hlength := h.single
  rw [if_neg hstatus, List.length_eq_zero_iff] at hlength
  rw [hlength] at hmem
  cases hmem

end Orderly

/-- What the turn of a run comes to if its walk is under way in `sc₀`. -/
theorem walkOn_advanced {number : Nat} {old : Run} {sc₀ : StageScene}
    {walk : Walk (Except Interruption RunResult)} (hrun : sc.memory.runs[number]? = some old)
    (hwalk : Advanced Action.Play sc₀ (walk.advance Backstage.surroundings sc)) :
    ∃ before after, sc.memory.walks = before ++ old.walk?.toList ++ after ∧
      ((∃ resume, (∀ interruption, (resume interruption).Underway Action.Play) ∧
          (walkOn number walk sc).memory.walks = before ++ [resume] ++ after ∧
          (walkOn number walk sc).status = sc₀.status ∧
          sc₀.store.Follows Action.Play (walkOn number walk sc).store) ∨
        (walkOn number walk sc).memory.walks = before ++ after ∧
          (walkOn number walk sc).status ≠ .running) := by
  have hruns := advance_runs walk sc
  cases hadvance : walk.advance Backstage.surroundings sc with
  | mk sc' pause =>
    rw [hadvance] at hwalk hruns
    have hrun' : sc'.memory.runs[number]? = some old := hruns ▸ hrun
    have hwalks : sc'.memory.walks = sc.memory.walks := congrArg (List.filterMap Run.walk?) hruns
    obtain ⟨before, after, hplace, hset⟩ := Backstage.exists_walks_setRun hrun'
    refine ⟨before, after, hwalks ▸ hplace, ?_⟩
    cases hwalk with
    | @waiting _ seconds resume hresume hstatus hstore =>
      have hwalkOn : walkOn number walk sc = Scene.mapMemory (Backstage.sleep seconds (.run number))
          (setRun number (.asleep resume) sc') := by
        unfold walkOn
        rw [hadvance]
      rw [hwalkOn]
      exact .inl ⟨resume, hresume, hset (.asleep resume), hstatus, hstore⟩
    | ended hstatus =>
      obtain ⟨run, hwalkless, hwalkOn⟩ := exists_walkOn_eq number hadvance
      have hgone := hset run
      rw [hwalkless, Option.toList_none, List.append_nil] at hgone
      rw [hwalkOn]
      exact .inr ⟨hgone, hstatus⟩

namespace Orderly

variable {guests : List (Option Interruption → Walk (Except Interruption RunResult))}

/-- The turn of a run whose walk is under way: the walk stood among the others, or has just begun.
-/
theorem walkOn (h : sc.Orderly guests) {number : Nat} {old : Run} {sc₀ : StageScene}
    {walk : Walk (Except Interruption RunResult)} (hrun : sc.memory.runs[number]? = some old)
    (hwalk : Advanced Action.Play sc₀ (walk.advance Backstage.surroundings sc))
    (hstatus : sc₀.status = .running) (hold : old.walk? = none → sc.status ≠ .running) :
    (walkOn number walk sc).Orderly guests ∧
      ((walkOn number walk sc).status = .running →
        sc₀.store.Follows Action.Play (walkOn number walk sc).store) := by
  obtain ⟨before, after, hwalks, hcases⟩ := walkOn_advanced hrun hwalk
  obtain ⟨hunderway, hsingle⟩ := h
  rw [hwalks] at hunderway hsingle
  -- the walk of this run apart, no walk is there
  have hothers : before ++ after ++ guests = [] := by
    rw [← List.length_eq_zero_iff]
    cases hwalk? : old.walk? with
    | none =>
      rw [if_neg (hold hwalk?), hwalk?] at hsingle
      simpa using hsingle
    | some resume =>
      rw [hwalk?] at hsingle
      simp only [List.length_append, Option.toList_some, List.length_singleton] at hsingle ⊢
      split_ifs at hsingle <;> omega
  obtain ⟨rfl, rfl, rfl⟩ : before = [] ∧ after = [] ∧ guests = [] := by simpa using hothers
  obtain ⟨resume, hresume, hnext, hrunning, hstore⟩ | ⟨hnext, hended⟩ := hcases
  · refine ⟨⟨fun r hr => ?_, ?_⟩, fun _ => hstore⟩
    · rw [hnext] at hr
      obtain rfl := List.mem_singleton.mp hr
      exact hresume
    · rw [hnext, if_pos (hrunning.trans hstatus)]
      rfl
  · refine ⟨⟨fun r hr => ?_, ?_⟩, fun hrunning => absurd hrunning hended⟩
    · rw [hnext] at hr
      cases hr
    · rw [hnext, if_neg hended]
      rfl

/-- The first turn of a run, while no walk is in flight: it is refused, or its walk begins. -/
theorem begin (h : sc.Orderly guests) (I : Interpreter) {number : Nat} {address : Datum}
    (hrun : sc.memory.runs[number]? = some (.fresh address false)) (hidle : sc.status ≠ .running) :
    (StageScene.walkOn number (I.run address) sc).Orderly guests ∧
      sc.Onward (StageScene.walkOn number (I.run address) sc) := by
  cases haccept : Interpreter.accept sc.state sc.status address with
  | error cause =>
    obtain ⟨sc', hadvance, hsame⟩ := advance_run_refused haccept I
    obtain ⟨run, hwalkless, hwalkOn⟩ := exists_walkOn_eq number hadvance
    have hruns := advance_runs (I.run address) sc
    rw [hadvance] at hruns
    have hrun' : sc'.memory.runs[number]? = some (.fresh address false) := hruns ▸ hrun
    have hset : Aside Action.Play sc' (setRun number run sc') :=
      .setRun_of_eq_some hrun' hwalkless
    have hplay := (hsame.mono fun _ => False.elim).trans hset
    rw [hwalkOn]
    exact ⟨h.aside hplay, .of_aside hplay⟩
  | ok a =>
    obtain ⟨sc₀, hstatus, hrecord, hwalk⟩ := advance_run_accepted haccept I
    obtain ⟨horderly, hstore⟩ := h.walkOn hrun hwalk hstatus fun _ => hidle
    exact ⟨horderly, fun _ hrunning => ⟨sc₀.store, hrecord, hstore hrunning⟩,
      fun hrunning => absurd hrunning hidle⟩

/-- The turn of a run keeps order. -/
theorem turnOfRun (h : sc.Orderly guests) (I : Interpreter) (number : Nat) :
    (turnOfRun I number sc).Orderly guests ∧ sc.Onward (turnOfRun I number sc) := by
  have haside {sc' : StageScene} (ha : sc.Aside Action.Play sc') :
      sc'.Orderly guests ∧ sc.Onward sc' := ⟨h.aside ha, .of_aside ha⟩
  unfold StageScene.turnOfRun
  split
  · rename_i hrun
    exact haside (.setRun_of_eq_some hrun rfl)
  · rename_i address hrun
    split_ifs with hflight
    · exact haside ((Aside.notify runningNotice sc).trans (.setRun_of_eq_some hrun rfl))
    · simp only [walkInFlight, Bool.or_eq_true, decide_eq_true_eq, not_or] at hflight
      exact h.begin I hrun hflight.2
  · rename_i resume interruption hrun
    have hmem : resume ∈ sc.memory.walks ++ guests :=
      List.mem_append_left _ (List.mem_filterMap.mpr ⟨_, List.mem_of_getElem? hrun, rfl⟩)
    have hstatus := h.status_of_mem hmem
    have hwalk := (h.underway resume hmem interruption).advance sc
    obtain ⟨horderly, hstore⟩ := h.walkOn hrun hwalk hstatus nofun
    exact ⟨horderly, fun hidle => absurd hstatus hidle, fun _ => hstore⟩
  · rename_i hrun
    exact haside (.setRun_of_eq_some hrun rfl)
  · rename_i hrun
    exact haside (.setRun_of_eq_some hrun rfl)
  · exact haside (.refl sc)

/-- **No turn takes the order away**, whoever has it. -/
theorem turn (h : sc.Orderly guests) (I : Interpreter) :
    (turn I sc).Orderly guests ∧ sc.Onward (turn I sc) := by
  unfold StageScene.turn
  cases sc.memory.ready with
  | nil => exact ⟨h, .of_aside (.refl sc)⟩
  | cons next rest =>
    let called : StageScene := Scene.mapMemory (fun b => { b with ready := rest }) sc
    have hready : sc.Aside Action.Play called := .mapMemory rfl
    have hcalled := h.aside hready
    cases next with
    | run number =>
      obtain ⟨horderly, hbegun, hkept⟩ := hcalled.turnOfRun I number
      exact ⟨horderly, hbegun, hkept⟩
    | loop number =>
      have hloop := turnOfLoop_aside (P := Action.Play) (fun _ _ => trivial) number called
      exact ⟨hcalled.aside hloop, (Onward.of_aside hloop).begun, (Onward.of_aside hloop).kept⟩

end Orderly

end StageScene

end SpriteStage
