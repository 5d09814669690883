import SpriteStage.Proofs.Stage.Aside
import SpriteStage.Proofs.Walk.Only

/-!
# What lasts through walks

A property of scenes is *lasting* if nothing that a walk can do takes it away, as long as the walk
dispatches only actions of a kind: no such action, no change of the status, and no change behind the
stage but of the detector, its tick loops and the clock (`StageScene.Lasting`). Then it lasts
through every turn of a run (`StageScene.Lasting.turnOfRun`), and through work that dispatches such
actions and takes notes (`StageScene.Lasting.works`).
-/

namespace SpriteStage

variable {P Q : Action → Prop} {α : Type}

/-- What the walk of the run goes on to dispatch, if it does, is of the kind. -/
def Run.Only (P : Action → Prop) (run : Run) : Prop :=
  ∀ resume, run.walk? = some resume → ∀ interruption, (resume interruption).Only P

/-- What the walk that waits goes on to dispatch, if one does, is of the kind. -/
def Pause.Only (P : Action → Prop) : Pause α → Prop
  | .ended _ => True
  | .waiting _ resume => ∀ interruption, (resume interruption).Only P

namespace Backstage

/-- What walks go on to dispatch is of the kind. -/
def Only (P : Action → Prop) (b : Backstage) : Prop :=
  ∀ resume ∈ b.walks, ∀ interruption, (resume interruption).Only P

theorem only_iff {b : Backstage} : b.Only P ↔ ∀ run ∈ b.runs, run.Only P := by
  constructor
  · intro h run hrun resume hwalk
    exact h resume (List.mem_filterMap.mpr ⟨run, hrun, hwalk⟩)
  · intro h resume hmem
    obtain ⟨run, hrun, hwalk⟩ := List.mem_filterMap.mp hmem
    exact h run hrun resume hwalk

theorem Only.setRun {b : Backstage} (hb : b.Only P) (number : Nat) {run : Run}
    (hrun : run.Only P) : (b.setRun number run).Only P := by
  rw [only_iff] at hb ⊢
  intro r hmem
  rcases List.mem_or_eq_of_mem_set hmem with hmem | rfl
  · exact hb r hmem
  · exact hrun

theorem Only.mono {b : Backstage} (hPQ : ∀ a, P a → Q a) (hb : b.Only P) : b.Only Q :=
  fun resume hmem interruption => (hb resume hmem interruption).mono hPQ

/-- The second backstage has the detector, the tick loops and the clock of the first. -/
structure SameWatch (b b' : Backstage) : Prop where
  detector : b'.detector = b.detector
  loops : b'.loops = b.loops
  now : b'.now = b.now
  scheduling : b'.scheduling = b.scheduling

end Backstage

theorem Run.only_of_walkless {run : Run} (h : run.walk? = none) : run.Only P := by
  intro resume hwalk
  rw [h] at hwalk
  cases hwalk

namespace StageScene

/-- What is aside from walks has nothing to do with what they go on to dispatch. -/
theorem Aside.only {sc sc' : StageScene} (h : Aside Q sc sc') (hwalks : sc.memory.Only P) :
    sc'.memory.Only P := by
  unfold Backstage.Only
  rw [h.walks]
  exact hwalks

/-- Nothing that walks do takes the property away, if they dispatch only actions of the kind. -/
structure Lasting (P : Action → Prop) (J : StageScene → Prop) : Prop where
  send : ∀ {sc a}, P a → J sc → J (sc.send a).1
  enter : ∀ {sc} (status : Status), J sc → J { sc with status }
  mapMemory : ∀ {sc} {f : Backstage → Backstage}, sc.memory.SameWatch (f sc.memory) → J sc →
    J (Scene.mapMemory f sc)

/-- The second scene comes of the first by the dispatch of actions of a kind, and by notes in the
journal. -/
inductive Works (P : Action → Prop) (sc : StageScene) : StageScene → Prop
  | refl : Works P sc sc
  | send {sc' : StageScene} {a : Action} : Works P sc sc' → P a → Works P sc (sc'.send a).1
  | note {sc' : StageScene} (f : Journal → Journal) :
      Works P sc sc' → Works P sc (Scene.mapMemory (Backstage.noting f) sc')

namespace Works

variable {sc sc' sc'' : StageScene}

theorem trans (h : Works P sc sc') (h' : Works P sc' sc'') : Works P sc sc'' := by
  induction h' with
  | refl => exact h
  | send _ ha ih => exact ih.send ha
  | note f _ ih => exact ih.note f

theorem mono (hPQ : ∀ a, P a → Q a) (h : Works P sc sc') : Works Q sc sc' := by
  induction h with
  | refl => exact .refl
  | send _ ha ih => exact ih.send (hPQ _ ha)
  | note f _ ih => exact ih.note f

theorem log (text : String) (sc : StageScene) : Works P sc (log text sc) := .note _ .refl

theorem notify (text : String) (sc : StageScene) : Works P sc (notify text sc) := .note _ .refl

/-- Such work has nothing to do with walks. -/
theorem aside (h : Works P sc sc') : Aside P sc sc' := by
  induction h with
  | refl => exact .refl sc
  | send _ ha ih => exact ih.trans (.send ha _)
  | note f _ ih => exact ih.trans (.mapMemory rfl)

end Works

namespace Lasting

variable {J : StageScene → Prop} {sc : StageScene}

theorem notify (hJ : Lasting P J) (text : String) (hs : J sc) : J (notify text sc) :=
  hJ.mapMemory ⟨rfl, rfl, rfl, rfl⟩ hs

theorem log (hJ : Lasting P J) (text : String) (hs : J sc) : J (log text sc) :=
  hJ.mapMemory ⟨rfl, rfl, rfl, rfl⟩ hs

theorem setRun (hJ : Lasting P J) (number : Nat) (run : Run) (hs : J sc) :
    J (setRun number run sc) := hJ.mapMemory ⟨rfl, rfl, rfl, rfl⟩ hs

theorem addRun (hJ : Lasting P J) (address : Datum) (hs : J sc) : J (addRun address sc).2 := by
  let number := sc.memory.runs.length
  exact hJ.mapMemory (f := fun b =>
    { b with runs := b.runs ++ [.fresh address false], ready := b.ready ++ [.run number] })
    ⟨rfl, rfl, rfl, rfl⟩ hs

theorem works (hJ : Lasting P J) {sc' : StageScene} (h : Works P sc sc') (hs : J sc) : J sc' := by
  induction h with
  | refl => exact hs
  | send _ ha ih => exact hJ.send ha ih
  | note f _ ih => exact hJ.mapMemory ⟨rfl, rfl, rfl, rfl⟩ ih

/-- The property lasts while a walk goes on, and what is left of the walk is of the kind. -/
theorem advance (hJ : Lasting P J) {w : Walk α} (hw : w.Only P) (hs : J sc) :
    J (w.advance Backstage.surroundings sc).1 ∧
      (w.advance Backstage.surroundings sc).2.Only P := by
  induction hw generalizing sc with
  | done value => exact ⟨hs, trivial⟩
  | look _ ih => exact ih _ _ hs
  | begin block _ ih => exact ih hs
  | dispatch ha _ ih => exact ih _ (hJ.send ha hs)
  | @wait seconds next hnext ih =>
    have hbegun : J (sc.mapMemory (Backstage.surroundings.waits seconds)) :=
      hJ.mapMemory ⟨rfl, rfl, rfl, rfl⟩ hs
    simp only [Walk.advance]
    split
    · exact ih _ hbegun
    · exact ⟨hbegun, hnext⟩
  | clock _ ih => exact ih _ hs
  | enter status _ ih => exact ih (hJ.enter status hs)
  | log line _ ih => exact ih (hJ.log line hs)
  | notify text _ ih => exact ih (hJ.notify text hs)

theorem walkOn (hJ : Lasting P J) (number : Nat) {w : Walk (Except Interruption RunResult)}
    (hw : w.Only P) (hs : J sc) (hwalks : sc.memory.Only P) :
    J (walkOn number w sc) ∧ (walkOn number w sc).memory.Only P := by
  have hadvance := hJ.advance hw hs
  have hruns := advance_runs w sc
  cases h : w.advance Backstage.surroundings sc with
  | mk sc' pause =>
    rw [h] at hadvance hruns
    obtain ⟨hs', hpause⟩ := hadvance
    have hwalks' : sc'.memory.Only P := by
      rw [Backstage.only_iff] at hwalks ⊢
      rwa [hruns]
    cases pause with
    | waiting seconds resume =>
      have hasleep : (Run.asleep resume).Only P := fun r hr => by cases hr; exact hpause
      simp only [StageScene.walkOn, h]
      exact ⟨hJ.mapMemory ⟨rfl, rfl, rfl, rfl⟩ (hJ.setRun number _ hs'),
        hwalks'.setRun number hasleep⟩
    | ended value =>
      obtain ⟨run, hwalkless, hwalkOn⟩ := exists_walkOn_eq number h
      rw [hwalkOn]
      exact ⟨hJ.setRun number run hs', hwalks'.setRun number (Run.only_of_walkless hwalkless)⟩

/-- The property lasts through the turn of a run. -/
theorem turnOfRun (hJ : Lasting P J) {I : Interpreter} (hI : ∀ address, (I.run address).Only P)
    (number : Nat) (hs : J sc) (hwalks : sc.memory.Only P) :
    J (turnOfRun I number sc) ∧ (turnOfRun I number sc).memory.Only P := by
  have hended {sc : StageScene} (hs : J sc) (hwalks : sc.memory.Only P)
      (outcome : Except Interruption Verdict) :
      J (StageScene.setRun number (.ended outcome) sc) ∧
        (StageScene.setRun number (.ended outcome) sc).memory.Only P :=
    ⟨hJ.setRun number _ hs, hwalks.setRun number (Run.only_of_walkless rfl)⟩
  unfold StageScene.turnOfRun
  split
  · exact hended hs hwalks _
  · split
    · exact hended (hJ.notify runningNotice hs) hwalks _
    · exact hJ.walkOn number (hI _) hs hwalks
  · rename_i resume interruption hrun
    have hmem : resume ∈ sc.memory.walks :=
      List.mem_filterMap.mpr ⟨_, List.mem_of_getElem? hrun, rfl⟩
    exact hJ.walkOn number (hwalks resume hmem interruption) hs hwalks
  · exact hended hs hwalks _
  · exact hended hs hwalks _
  · exact ⟨hs, hwalks⟩

end Lasting

end StageScene

end SpriteStage
