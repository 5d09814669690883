import SpriteStage.Proofs.Stage.Dispatch
import SpriteStage.Proofs.Stage.Theatre

/-!
# Only the present counts

Nobody on a stage looks at the history: not the store when it carries an action out, not those who
listen, not a walk, a tick loop or an operation. Two theatres that differ at most in the history
*have the same present* (`Theatre.SamePresent`), and whatever happens then happens in both alike:
they have the same present again, walks ask for the same, and come to the same results
(`Theatre.SamePresent.after`).
-/

namespace SpriteStage

namespace StageScene

variable {sc sc' sc'' : StageScene}

/-- The scene with another history. -/
def withHistory (history : List Snapshot) (sc : StageScene) : StageScene :=
  { sc with store := { sc.store with history } }

/-- The second scene differs from the first at most in its history. -/
def SamePresent (sc sc' : StageScene) : Prop := ∃ history, sc' = sc.withHistory history

end StageScene

namespace Walk

variable {α : Type}

theorem advance_dispatch (action : Action) (next : Option Fault → Walk α) (sc : StageScene) :
    (dispatch action next).advance Backstage.surroundings sc =
      (next (Dispatched.fault? (sc.send action).2)).advance Backstage.surroundings
        (sc.send action).1 := rfl

theorem stretch_dispatch (action : Action) (next : Option Fault → Walk α) (sc : StageScene) :
    (dispatch action next).stretch sc =
      .action action ::
        (next (Dispatched.fault? (sc.send action).2)).stretch (sc.send action).1 := rfl

/-- The walk goes on alike in the two scenes: it gets to the same place, asks for the same, and
leaves the same present. -/
def Alike (w : Walk α) (sc sc' : StageScene) : Prop :=
  StageScene.SamePresent (w.advance Backstage.surroundings sc).1
      (w.advance Backstage.surroundings sc').1 ∧
    (w.advance Backstage.surroundings sc').2 = (w.advance Backstage.surroundings sc).2 ∧
    w.stretch sc' = w.stretch sc

end Walk

namespace StageScene

variable {sc sc' sc'' : StageScene}

namespace SamePresent

theorem state (h : SamePresent sc sc') : sc'.state = sc.state := by
  obtain ⟨history, rfl⟩ := h
  rfl

theorem memory (h : SamePresent sc sc') : sc'.memory = sc.memory := by
  obtain ⟨history, rfl⟩ := h
  rfl

theorem status (h : SamePresent sc sc') : sc'.status = sc.status := by
  obtain ⟨history, rfl⟩ := h
  rfl

theorem mapMemory (f : Backstage → Backstage) (h : SamePresent sc sc') :
    SamePresent (sc.mapMemory f) (sc'.mapMemory f) := by
  obtain ⟨history, rfl⟩ := h
  exact ⟨history, rfl⟩

theorem send (h : SamePresent sc sc') (a : Action) :
    SamePresent (sc.send a).1 (sc'.send a).1 ∧ (sc'.send a).2 = (sc.send a).2 := by
  obtain ⟨history, rfl⟩ := h
  have hstate : (sc.withHistory history).state = sc.state := rfl
  have hlimit : (sc.withHistory history).store.limit = sc.store.limit := rfl
  rw [send_eq, send_eq, hstate, hlimit]
  match sc.state.attempt a with
  | .error fault => exact ⟨⟨history, rfl⟩, rfl⟩
  | .ok none => exact ⟨⟨history, rfl⟩, rfl⟩
  | .ok (some next) =>
    cases Store.limitFault? sc.store.limit with
    | some fault => exact ⟨⟨_, rfl⟩, rfl⟩
    | none => exact ⟨⟨_, rfl⟩, rfl⟩

/-- Every walk goes on alike. -/
theorem advance {α : Type} (w : Walk α) (h : SamePresent sc sc') : w.Alike sc sc' := by
  induction w generalizing sc sc' with
  | done value => exact ⟨h, rfl, rfl⟩
  | look next ih =>
    simp only [Walk.Alike, Walk.advance, Walk.stretch, h.state, h.status]
    exact ih _ _ h
  | begin block next ih => exact ih h
  | dispatch action next ih =>
    obtain ⟨hsent, hdispatched⟩ := h.send action
    obtain ⟨hscene, hpause, hasked⟩ := ih (Dispatched.fault? (sc.send action).2) hsent
    simp only [Walk.Alike, Walk.advance_dispatch, Walk.stretch_dispatch, hdispatched]
    exact ⟨hscene, hpause, congrArg (Request.action action :: ·) hasked⟩
  | wait seconds next ih =>
    have hbegun := h.mapMemory (Backstage.surroundings.waits seconds)
    simp only [Walk.Alike, Walk.advance, Walk.stretch, hbegun.memory]
    cases Backstage.surroundings.waitFault? seconds
        (sc.mapMemory (Backstage.surroundings.waits seconds)).memory with
    | none => exact ⟨hbegun, rfl, rfl⟩
    | some fault =>
      obtain ⟨hscene, hpause, hasked⟩ := ih (some (.failed fault)) hbegun
      exact ⟨hscene, hpause, congrArg (Request.wait seconds :: ·) hasked⟩
  | clock next ih =>
    simp only [Walk.Alike, Walk.advance, Walk.stretch, h.memory]
    exact ih _ h
  | enter status next ih =>
    obtain ⟨history, rfl⟩ := h
    exact ih ⟨history, rfl⟩
  | log line next ih => exact ih (h.mapMemory _)
  | notify text next ih => exact ih (h.mapMemory _)

theorem log (text : String) (h : SamePresent sc sc') :
    SamePresent (StageScene.log text sc) (StageScene.log text sc') := h.mapMemory _

theorem notify (text : String) (h : SamePresent sc sc') :
    SamePresent (StageScene.notify text sc) (StageScene.notify text sc') := h.mapMemory _

theorem setRun (number : Nat) (run : Run) (h : SamePresent sc sc') :
    SamePresent (StageScene.setRun number run sc) (StageScene.setRun number run sc') :=
  h.mapMemory _

/-! ### Turns of runs -/

theorem awaitLoop (number : Nat) (result : RunResult) (h : SamePresent sc sc') :
    SamePresent (StageScene.awaitLoop number result sc)
      (StageScene.awaitLoop number result sc') := by
  simp only [StageScene.awaitLoop, h.memory]
  cases sc.memory.detector.loop with
  | none => exact h.setRun _ _
  | some loop =>
    simp only
    split <;> exact h.setRun _ _

/-- A run whose walk goes on alike gets to the same. -/
theorem walkOn {walk : Walk (Except Interruption RunResult)} (h : walk.Alike sc sc')
    (number : Nat) :
    SamePresent (StageScene.walkOn number walk sc) (StageScene.walkOn number walk sc') := by
  obtain ⟨hscene, hpause, -⟩ := h
  unfold StageScene.walkOn
  generalize walk.advance Backstage.surroundings sc = went,
    walk.advance Backstage.surroundings sc' = went' at hscene hpause
  obtain ⟨sc, pause⟩ := went
  obtain ⟨sc', pause'⟩ := went'
  subst hpause
  match pause' with
  | .waiting seconds resume => exact (hscene.setRun _ _).mapMemory _
  | .ended (.error interruption) => exact hscene.setRun _ _
  | .ended (.ok .complete) => exact hscene.awaitLoop _ _
  | .ended (.ok (.broken fault)) => exact hscene.awaitLoop _ _
  | .ended (.ok (.refused .alreadyRunning)) => exact hscene.setRun _ _
  | .ended (.ok (.refused .notFound)) => exact hscene.awaitLoop _ _
  | .ended (.ok (.refused .noBlocks)) => exact hscene.awaitLoop _ _

theorem walkInFlight (h : SamePresent sc sc') :
    StageScene.walkInFlight sc' = StageScene.walkInFlight sc := by
  simp only [StageScene.walkInFlight, h.state, h.status]

theorem walkOfTurn? (I : Interpreter) (h : SamePresent sc sc') :
    StageScene.walkOfTurn? I sc' = StageScene.walkOfTurn? I sc := by
  funext turn
  cases turn <;> simp only [StageScene.walkOfTurn?, h.memory, h.walkInFlight]

theorem turnOfRun (I : Interpreter) (number : Nat) (h : SamePresent sc sc') :
    SamePresent (StageScene.turnOfRun I number sc) (StageScene.turnOfRun I number sc') := by
  simp only [StageScene.turnOfRun, h.memory, h.walkInFlight]
  split
  · exact h.setRun _ _
  · split_ifs
    · exact (h.notify _).setRun _ _
    · exact walkOn (h.advance _) _
  · exact walkOn (h.advance _) _
  · exact h.setRun _ _
  · exact h.setRun _ _
  · exact h

/-! ### Turns of tick loops -/

theorem swap (a b : Actor) (h : SamePresent sc sc') :
    SamePresent (StageScene.swap a b sc).1 (StageScene.swap a b sc').1 ∧
      (StageScene.swap a b sc').2 = (StageScene.swap a b sc).2 := by
  obtain ⟨hsent, hdispatched⟩ := h.send (.swapMoves a.id b.id)
  unfold StageScene.swap
  generalize sc.send (.swapMoves a.id b.id) = sent, sc'.send (.swapMoves a.id b.id) = sent'
    at hsent hdispatched
  obtain ⟨sc, dispatched⟩ := sent
  obtain ⟨sc', dispatched'⟩ := sent'
  subst hdispatched
  cases dispatched' with
  | error fault => exact ⟨hsent, rfl⟩
  | ok next =>
    have hscene : SamePresent sc sc' := hsent
    refine ⟨?_, rfl⟩
    simp only [hscene.memory]
    exact ((hscene.mapMemory _).log _).notify _

theorem check (h : SamePresent sc sc') :
    SamePresent (StageScene.check sc).1 (StageScene.check sc').1 ∧
      (StageScene.check sc').2 = (StageScene.check sc).2 := by
  simp only [StageScene.check, h.state, h.memory]
  split_ifs
  · match firstCollision? sc.memory.detector.handled sc.state.actors with
    | .error fault => exact ⟨h, rfl⟩
    | .ok none => exact ⟨h, rfl⟩
    | .ok (some (a, b)) =>
      obtain ⟨hscene, hfault⟩ := h.swap a b
      simp only
      generalize StageScene.swap a b sc = swapped, StageScene.swap a b sc' = swapped'
        at hscene hfault
      obtain ⟨sc, fault⟩ := swapped
      obtain ⟨sc', fault'⟩ := swapped'
      subst hfault
      cases fault' <;> exact ⟨hscene, rfl⟩
  · exact ⟨h, rfl⟩

theorem endLoop (number : Nat) (interruption : Option Interruption) (h : SamePresent sc sc') :
    SamePresent (StageScene.endLoop number interruption sc)
      (StageScene.endLoop number interruption sc') := by
  have hlingerers : lingerers number sc' = lingerers number sc := by
    simp only [lingerers, h.memory]
  unfold StageScene.endLoop
  rw [hlingerers]
  have hended := h.mapMemory (Backstage.setLoop number (.ended interruption))
  generalize sc.mapMemory (Backstage.setLoop number (.ended interruption)) = start,
    sc'.mapMemory (Backstage.setLoop number (.ended interruption)) = start' at hended
  induction lingerers number sc generalizing start start' with
  | nil => exact hended
  | cons waiting rest ih => exact ih _ _ ((hended.setRun _ _).mapMemory _)

theorem leaveLoop (number : Nat) (interruption : Option Interruption) (h : SamePresent sc sc') :
    SamePresent (StageScene.leaveLoop number interruption sc)
      (StageScene.leaveLoop number interruption sc') := by
  simp only [StageScene.leaveLoop, h.state]
  split_ifs
  · exact h.endLoop _ _
  · exact (h.mapMemory _).endLoop _ _

theorem tick (number : Nat) (h : SamePresent sc sc') :
    SamePresent (StageScene.tick number sc) (StageScene.tick number sc') := by
  obtain ⟨hscene, houtcome⟩ := h.check
  simp only [StageScene.tick, h.state]
  split_ifs
  · generalize StageScene.check sc = checked, StageScene.check sc' = checked'
      at hscene houtcome
    obtain ⟨sc, outcome⟩ := checked
    obtain ⟨sc', outcome'⟩ := checked'
    subst houtcome
    cases outcome' with
    | error fault => exact hscene.leaveLoop _ _
    | ok pair =>
      have hlooked : SamePresent sc sc' := hscene
      have hbegun := hlooked.mapMemory (Backstage.surroundings.waits sc.memory.detector.tick)
      simp only [hlooked.memory, hbegun.memory]
      split
      · exact hbegun.leaveLoop _ _
      · exact hbegun.mapMemory _
  · exact h.leaveLoop _ _

theorem turnOfLoop (number : Nat) (h : SamePresent sc sc') :
    SamePresent (StageScene.turnOfLoop number sc) (StageScene.turnOfLoop number sc') := by
  simp only [StageScene.turnOfLoop, h.memory]
  split
  · exact h.endLoop _ _
  · exact h.tick _
  · exact h.tick _
  · exact h.leaveLoop _ _
  · exact h

theorem turn (I : Interpreter) (h : SamePresent sc sc') :
    SamePresent (StageScene.turn I sc) (StageScene.turn I sc') := by
  simp only [StageScene.turn, h.memory]
  cases sc.memory.ready with
  | nil => exact h
  | cons next rest =>
    have hrest := h.mapMemory fun b => { b with ready := rest }
    cases next with
    | run number => exact hrest.turnOfRun I number
    | loop number => exact hrest.turnOfLoop number

/-- A further run that has not begun. -/
theorem addRun (address : Datum) (h : SamePresent sc sc') :
    SamePresent (StageScene.addRun address sc).2 (StageScene.addRun address sc').2 ∧
      (StageScene.addRun address sc').1 = (StageScene.addRun address sc).1 := by
  obtain ⟨history, rfl⟩ := h
  exact ⟨⟨history, rfl⟩, rfl⟩

end SamePresent

end StageScene

/-! ### Operations -/

namespace Stage

/-- The second stage differs from the first at most in its history. -/
def SamePresent (s s' : Stage) : Prop :=
  ∃ scene, s' = { s with scene } ∧ s.scene.SamePresent scene

namespace Work

variable {α β : Type}

/-- The work does not look at the history. -/
def Present (w : Work α) : Prop :=
  ∀ s s' : Stage, s.SamePresent s' →
    (w.run.run s').1 = (w.run.run s).1 ∧ (w.run.run s).2.SamePresent (w.run.run s').2

namespace Present

variable {w : Work α} {f : α → Work β}

theorem pure (a : α) : Present (pure a) := fun _ _ h => ⟨rfl, h⟩

theorem throw (fault : Fault) : Present (throw fault : Work α) := fun _ _ h => ⟨rfl, h⟩

theorem bind (hw : w.Present) (hf : ∀ a, (f a).Present) : Present (w >>= f) := by
  intro s s' h
  obtain ⟨hresult, hstage⟩ := hw s s' h
  rw [run_bind, run_bind]
  generalize w.run.run s = r, w.run.run s' = r' at hresult hstage
  obtain ⟨result, t⟩ := r
  obtain ⟨result', t'⟩ := r'
  subst hresult
  cases result' with
  | error fault => exact ⟨rfl, hstage⟩
  | ok a => exact hf a t t' hstage

theorem state : Present Work.state := by
  rintro s s' ⟨scene, rfl, hscene⟩
  exact ⟨congrArg Except.ok hscene.state, scene, rfl, hscene⟩

theorem mapScene {g : StageScene → StageScene}
    (hg : ∀ sc sc' : StageScene, sc.SamePresent sc' → (g sc).SamePresent (g sc')) :
    Present (mapScene g) := by
  rintro s s' ⟨scene, rfl, hscene⟩
  exact ⟨rfl, g scene, rfl, hg _ _ hscene⟩

theorem dispatch (a : Action) : Present (dispatch a) := by
  rintro s s' ⟨scene, rfl, hscene⟩
  obtain ⟨hsent, hdispatched⟩ := hscene.send a
  rw [run_dispatch, run_dispatch]
  exact ⟨hdispatched, _, rfl, hsent⟩

theorem tell (notice : Option String) : Present (tell notice) := by
  cases notice with
  | none => exact pure ()
  | some text => exact mapScene fun _ _ h => h.notify text

theorem done (notice : Option String) (detail : Detail) : Present (done notice detail) :=
  (tell notice).bind fun _ => pure _

theorem refuse (cause : Refusal) (notice : Option String) : Present (refuse cause notice) :=
  (tell notice).bind fun _ => pure _

end Present

variable {w : Work Answer} {P : Action → Prop} {Q : Answer → Prop}

theorem Closing.present (h : Closing Q w) : w.Present := by
  induction h with
  | done => exact .done _ _
  | state _ ih => exact Present.state.bind ih

theorem Script.present (h : w.Script (fun _ => True) P Q) : w.Present := by
  induction h with
  | throw fault => exact .throw fault
  | refuse => exact .refuse _ _
  | closing h => exact h.present
  | state _ ih => exact Present.state.bind ih
  | log _ ih => exact (Present.mapScene fun _ _ h => h.log _).bind fun _ => ih
  | @draw _ g _ _ _ _ ihfailed ihdrawn =>
    rintro s s' ⟨scene, rfl, hscene⟩
    rw [run_bind, run_bind, run_draw, run_draw]
    cases hdrawn : g s.supply with
    | error fault => exact ihfailed fault s _ ⟨scene, rfl, hscene⟩
    | ok drawn => exact ihdrawn drawn.1 ⟨_, _, trivial, hdrawn⟩ _ _ ⟨scene, rfl, hscene⟩
  | dispatch _ _ hcarried ih =>
    refine (Present.dispatch _).bind fun next => ?_
    cases next with
    | none => exact ih
    | some s => exact (hcarried s).present

end Work

theorem SamePresent.startRun {s s' : Stage} (h : s.SamePresent s') (address : Datum) :
    (s.startRun address).2.SamePresent (s'.startRun address).2 := by
  obtain ⟨scene, rfl, hscene⟩ := h
  obtain ⟨hadded, hnumber⟩ := hscene.addRun address
  have hpending : runPending { s with scene } = s.runPending := by
    simp only [runPending, outcome?, hscene.memory]
  simp only [Stage.startRun, hpending, hscene.walkInFlight, hnumber]
  split_ifs
  · exact ⟨scene, rfl, hscene⟩
  · exact ⟨_, rfl, hadded⟩

end Stage

/-- No operation looks at the history. -/
theorem Stage.SamePresent.perform {s s' : Stage} (h : s.SamePresent s') (o : Operation) :
    (o.perform s).SamePresent (o.perform s') := by
  have hwork {w : Work Answer} (hw : w.Present) : (w.run.run s).2.SamePresent (w.run.run s').2 :=
    (hw s s' h).2
  cases hedit : o.edit? with
  | some w =>
    rw [o.perform_of_edit? hedit, o.perform_of_edit? hedit]
    exact hwork ((o.guarded_of_edit? hedit).script Supply.kept_true).present
  | none =>
    cases o with
    | selectActor actorId =>
      exact hwork (Stage.script_selectActor (K := fun _ => True) trivial).present
    | run address =>
      obtain ⟨scene, rfl, hscene⟩ := h
      exact ⟨_, rfl, (hscene.addRun address).1⟩
    | startRun address => exact h.startRun address
    | stop => exact hwork (Stage.script_stop (K := fun _ => True)).present
    | _ => cases hedit

theorem Stage.SamePresent.follow {s s' : Stage} (h : s.SamePresent s') (o : Session.Occurrence) :
    (o.follow s).SamePresent (o.follow s') := by
  cases o with
  | operation o => exact h.perform o
  | turn position =>
    obtain ⟨scene, rfl, hscene⟩ := h
    exact ⟨_, rfl, (hscene.mapMemory _).turn s.interpreter⟩
  | wake who interruption now =>
    obtain ⟨scene, rfl, hscene⟩ := h
    exact ⟨_, rfl, hscene.mapMemory _⟩

/-! ### Theatres -/

namespace Theatre

/-- The second theatre differs from the first at most in its history. -/
def SamePresent (th th' : Theatre) : Prop :=
  ∃ stage, th' = { th with stage } ∧ th.stage.SamePresent stage

/-- What a request to the interpreter comes to, unless the walk waits; the same of a guest that goes
on. -/
def Occurrence.result? (th : Theatre) : Occurrence → Option (Except Interruption RunResult)
  | .call address => (th.call address).1
  | .resume position interruption now =>
    (th.guests[position]?).bind fun guest => ((th.without position now).goOn (guest interruption)).1
  | _ => none

/-- What requests to the interpreter come to while all this happens, in order. -/
def results : List Occurrence → Theatre → List (Except Interruption RunResult)
  | [], _ => []
  | o :: rest, th => (o.result? th).toList ++ results rest (o.follow th)

namespace SamePresent

variable {th th' : Theatre}

/-- What a walk that goes on alike makes of two theatres. -/
theorem goOn {scene : StageScene} {walk : Walk (Except Interruption RunResult)}
    (h : walk.Alike th.scene scene) :
    (th.goOn walk).2.SamePresent ((th.withScene scene).goOn walk).2 ∧
      ((th.withScene scene).goOn walk).1 = (th.goOn walk).1 := by
  obtain ⟨hadvanced, hpause, -⟩ := h
  have hscene : (th.withScene scene).scene = scene := rfl
  unfold Theatre.goOn
  rw [hscene]
  generalize walk.advance Backstage.surroundings th.scene = went,
    walk.advance Backstage.surroundings scene = went' at hadvanced hpause
  obtain ⟨sc, pause⟩ := went
  obtain ⟨sc', pause'⟩ := went'
  subst hpause
  cases pause' with
  | ended outcome => exact ⟨⟨_, rfl, sc', rfl, hadvanced⟩, rfl⟩
  | waiting seconds resume => exact ⟨⟨_, rfl, sc', rfl, hadvanced⟩, rfl⟩

/-- **What happens next happens alike**: walks ask for the same and come to the same. -/
theorem follow (h : th.SamePresent th') (o : Occurrence) :
    (o.follow th).SamePresent (o.follow th') ∧ o.asked th' = o.asked th ∧
      o.result? th' = o.result? th := by
  obtain ⟨stage, rfl, hstage⟩ := id h
  obtain ⟨scene, rfl, hscene⟩ := id hstage
  cases o with
  | onStage o =>
    refine ⟨⟨_, rfl, hstage.follow o⟩, ?_, rfl⟩
    cases o with
    | turn position =>
      have hcalled := hscene.mapMemory (Session.called position)
      simp only [Occurrence.asked, Theatre.scene, hcalled.memory, hcalled.walkOfTurn?]
      cases (th.stage.scene.mapMemory (Session.called position)).memory.ready.head?.bind _ with
      | none => rfl
      | some walk => exact (hcalled.advance walk).2.2
    | operation o => rfl
    | wake who interruption now => rfl
  | dispatch action => exact ⟨⟨_, rfl, _, rfl, (hscene.send action).1⟩, rfl, rfl⟩
  | call address =>
    have halike := hscene.advance (th.stage.interpreter.run address)
    obtain ⟨hfollow, hresult⟩ := goOn halike
    exact ⟨hfollow, halike.2.2, hresult⟩
  | resume position interruption now =>
    simp only [Occurrence.follow, Occurrence.asked, Occurrence.result?]
    cases th.guests[position]? with
    | none => exact ⟨h, rfl, rfl⟩
    | some guest =>
      have halike := (hscene.mapMemory fun b => { b with now }).advance (guest interruption)
      have hgone : Walk.Alike (guest interruption) (th.without position now).scene _ := halike
      obtain ⟨hfollow, hresult⟩ := goOn hgone
      exact ⟨hfollow, halike.2.2, hresult⟩

/-- **However it goes on, it goes on alike**, with the same requests and the same results. -/
theorem after (h : th.SamePresent th') (happened : List Occurrence) :
    (Theatre.after happened th).SamePresent (Theatre.after happened th') ∧
      requests happened th' = requests happened th ∧
      results happened th' = results happened th := by
  induction happened generalizing th th' with
  | nil => exact ⟨h, rfl, rfl⟩
  | cons o rest ih =>
    obtain ⟨hfollow, hasked, hresult⟩ := h.follow o
    obtain ⟨hafter, hrequests, hresults⟩ := ih hfollow
    refine ⟨hafter, ?_, ?_⟩
    · simp only [requests, hasked, hrequests]
    · simp only [results, hresult, hresults]

end SamePresent

end Theatre

end SpriteStage
