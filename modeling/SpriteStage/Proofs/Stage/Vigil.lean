import SpriteStage.Proofs.Stage.Theatre
import SpriteStage.Proofs.Stage.Watch

/-!
# Vigils

In a session whose waits end of themselves, the detector keeps vigil. However operations, turns of
runs and turns of tick loops follow on each other, there is never more than one tick loop alive,
there is one while the flag is set, no pair counts as handled while it is cleared, and then nobody
looks for collisions (`Session.keeps_vigil`). So every run begins with no pair handled, also where
it finds the tick loop of an earlier run asleep and takes it over.
-/

namespace SpriteStage

theorem Supply.kept_doubles : Kept Doubles where
  block hs h r hr := hs r ((Block.create_typed h).2 ▸ hr)
  actor hs h := (Actor.create_placed hs h).2

theorem Action.Asked.placing {a : Action} (h : a.Asked Supply.Doubles) : a.Placing := by
  cases h with
  | edit h =>
    cases a with
    | addBlock | addChild =>
      obtain ⟨_, _, _, -, hcreate⟩ := h
      exact (Block.create_typed hcreate).1
    | addActor =>
      obtain ⟨_, _, _, hs, hcreate⟩ := h
      exact (Actor.create_placed hs hcreate).1
    | removeBlock | updateParams | clearBlocks | removeActor => trivial
    | _ => cases h
  | _ => trivial

namespace StageScene

variable {sc : StageScene}

namespace Watched

theorem turn (hs : sc.Watched) (hwalks : sc.memory.Only Action.Placing) (I : Interpreter) :
    Watched (turn I sc) ∧ (turn I sc).memory.Only Action.Placing := by
  unfold StageScene.turn
  cases sc.memory.ready with
  | nil => exact ⟨hs, hwalks⟩
  | cons next rest =>
    have hrest : Watched (Scene.mapMemory (fun b => { b with ready := rest }) sc) :=
      hs.congr ⟨rfl, rfl, rfl, rfl⟩
    cases next with
    | run number =>
      have hI (address : Datum) : (I.run address).Only Action.Placing :=
        (I.run_only address).mono fun _ => Action.Acted.placing
      exact watched_lasting.turnOfRun hI number hrest hwalks
    | loop number =>
      have haside := turnOfLoop_aside (P := Action.Play) (fun _ _ => trivial) number
      exact ⟨hrest.turnOfLoop number, (haside _).only hwalks⟩

/-- The end of a wait, of itself if it is that of a tick loop. -/
theorem rouse (hs : sc.Watched) {who : Turn} {interruption : Option Interruption} (now : Float)
    (hloop : ∀ number, who = .loop number →
      sc.memory.loops[number]? = some .asleep ∧ interruption = none) :
    Watched (Scene.mapMemory
      (fun b => StageScene.rouse who interruption { b with now := .float now }) sc) := by
  refine hs.mapMemory ?_
  have hnow := hs.attended.with_now now
  cases who with
  | run number =>
    refine hnow.congr ?_
    unfold StageScene.rouse
    simp only
    split <;> exact ⟨rfl, rfl, rfl, rfl⟩
  | loop number =>
    obtain ⟨hasleep, rfl⟩ := hloop number rfl
    have hroused : (((Backstage.unsleep (.loop number) { sc.memory with now := .float now }).enqueue
        (.loop number))).Attended sc.state.running := hnow.congr ⟨rfl, rfl, rfl, rfl⟩
    exact hroused.setLoop ⟨.asleep, hasleep, rfl⟩ trivial rfl

end Watched

/-- That no pair counts as handled lasts through whatever is dispatched. -/
theorem forgotten_lasting : Lasting (fun _ => True) fun sc : StageScene => sc.handled = [] where
  send {sc a} _ hs := by
    have hleaves : Backstage.surroundings.toAudience.Leaves (fun _ => True)
        fun b => b.detector.handled = [] := by
      refine ⟨fun listener t store b _ hb => ?_, fun line b hb => hb⟩
      cases listener with
      | recorder => exact hb
      | detector =>
        show (b.watch t).detector.handled = []
        unfold Backstage.watch
        split_ifs
        · exact b.startTicking_handled.trans hb
        · rfl
        · exact hb
    exact (Audience.dispatch_record Backstage.surroundings_quiet.aloof hleaves a (h := sc.toHall)
      (fun _ _ _ => trivial) hs).2
  enter _ hs := hs
  mapMemory hf hs := (congrArg Detector.handled hf.detector).trans hs

/-- The turn of a run that sets the flag leaves no pair handled, and so does every turn while the
flag is cleared. -/
theorem Watched.turn_handled (hs : sc.Watched) (hwalks : sc.memory.Only Action.Placing)
    (hrun : sc.state.running = false) (I : Interpreter) : (StageScene.turn I sc).handled = [] := by
  have hforgotten : sc.handled = [] := hs.attended.forgotten hrun
  unfold StageScene.turn
  cases sc.memory.ready with
  | nil => exact hforgotten
  | cons next rest =>
    have hrest : Watched (Scene.mapMemory (fun b => { b with ready := rest }) sc) :=
      hs.congr ⟨rfl, rfl, rfl, rfl⟩
    have hkept : handled (Scene.mapMemory (fun b => { b with ready := rest }) sc) = [] := hforgotten
    cases next with
    | run number =>
      have hI (address : Datum) : (I.run address).Only fun _ => True :=
        (I.run_only address).mono fun _ _ => trivial
      exact (forgotten_lasting.turnOfRun hI number hkept (hwalks.mono fun _ _ => trivial)).1
    | loop number =>
      have hstore := hrest.turnOfLoop_store hrun number
      refine (hrest.turnOfLoop number).attended.forgotten ?_
      rw [Scene.state, hstore]
      exact hrun

/-- There is never more than one tick loop alive, there is one while the flag is set, no pair counts
as handled while it is cleared, and then no look and no tick loop dispatches anything. -/
structure Vigilant (sc : StageScene) : Prop where
  single : ∀ m n, sc.memory.Alive m → sc.memory.Alive n → m = n
  watching : sc.state.running → ∃ n, sc.memory.Alive n
  forgotten : sc.state.running = false → sc.handled = []
  idle : sc.state.running = false →
    check sc = (sc, .ok none) ∧ ∀ number, (turnOfLoop number sc).store = sc.store

theorem Watched.vigilant (hs : sc.Watched) : sc.Vigilant where
  single m n hm hn := Option.some.inj ((hs.attended.last m hm).symm.trans (hs.attended.last n hn))
  watching hrun := by
    obtain ⟨n, -, halive⟩ := Backstage.ticking_iff.mp (hs.attended.watching hrun)
    exact ⟨n, halive⟩
  forgotten := hs.attended.forgotten
  idle hrun := ⟨check_of_not_running hrun, hs.turnOfLoop_store hrun⟩

end StageScene

namespace Session

/-- The scene is watched, and walks and supply give doubles only. -/
structure Watched (s : Stage) : Prop where
  scene : s.scene.Watched
  walks : s.scene.memory.Only Action.Placing
  supply : s.supply.Doubles

/-- What happens on an event loop: the clock shows doubles, and the wait of a tick loop ends only if
there is one and if nobody interrupts it. -/
def Occurrence.Regular (s : Stage) : Occurrence → Prop
  | .wake who interruption now => (∃ x, now = .float x) ∧ ∀ number, who = .loop number →
      s.scene.memory.loops[number]? = some .asleep ∧ interruption = none
  | _ => True

/-- All of this can happen on an event loop, in order. -/
def Regular : List Occurrence → Stage → Prop
  | [], _ => True
  | o :: rest, s => o.Regular s ∧ Regular rest (o.follow s)

variable {s : Stage} {o : Occurrence}

theorem Watched.follow (hs : Watched s) (ho : o.Regular s) : Watched (o.follow s) := by
  cases o with
  | operation o =>
    obtain ⟨hsupply, hworks | ⟨address, hscene⟩⟩ := o.perform_cases Supply.kept_doubles hs.supply
    · have hplacing := hworks.mono fun _ => Action.Asked.placing
      exact ⟨StageScene.watched_lasting.works hplacing hs.scene, hplacing.aside.only hs.walks,
        hsupply⟩
    · have haside := StageScene.addRun_aside (P := Action.Placing) address s.scene
      exact ⟨hscene ▸ StageScene.watched_lasting.addRun address hs.scene,
        hscene ▸ haside.only hs.walks, hsupply⟩
  | turn position =>
    have hcalled : StageScene.Watched (s.scene.mapMemory (called position)) :=
      hs.scene.congr ⟨rfl, rfl, rfl, rfl⟩
    obtain ⟨hscene, hwalks⟩ := hcalled.turn hs.walks s.interpreter
    exact ⟨hscene, hwalks, hs.supply⟩
  | wake who interruption now =>
    obtain ⟨⟨x, rfl⟩, hloop⟩ := ho
    have haside := StageScene.rouse_aside (P := Action.Placing) who interruption (.float x) s.scene
    exact ⟨hs.scene.rouse x hloop, haside.only hs.walks, hs.supply⟩

theorem Watched.after (hs : Watched s) {happened : List Occurrence} (h : Regular happened s) :
    Watched (after happened s) := by
  unfold Session.after
  induction happened generalizing s with
  | nil => exact hs
  | cons o rest ih => exact ih (hs.follow h.1) h.2

/-- What happens while the flag is cleared leaves no pair handled, also if it sets the flag. -/
theorem Watched.follow_handled (hs : Watched s) (ho : o.Regular s)
    (hrun : s.state.running = false) : (o.follow s).scene.handled = [] := by
  have hforgotten : s.scene.handled = [] := hs.scene.attended.forgotten hrun
  have hlasting := StageScene.forgotten_lasting
  cases o with
  | operation o =>
    obtain ⟨-, hworks | ⟨address, hscene⟩⟩ := o.perform_cases Supply.kept_true (s := s) trivial
    · exact hlasting.works (hworks.mono fun _ _ => trivial) hforgotten
    · exact (congrArg StageScene.handled hscene).trans (hlasting.addRun address hforgotten)
  | turn position =>
    have hcalled : StageScene.Watched (s.scene.mapMemory (called position)) :=
      hs.scene.congr ⟨rfl, rfl, rfl, rfl⟩
    exact hcalled.turn_handled hs.walks hrun s.interpreter
  | wake who interruption now =>
    have hrouse (b : Backstage) :
        (StageScene.rouse who interruption b).detector = b.detector := by
      unfold StageScene.rouse
      cases who with
      | loop number => rfl
      | run number =>
        simp only
        split <;> rfl
    exact (congrArg Detector.handled (hrouse _)).trans hforgotten

/-- **The detector keeps vigil** in every session, whatever the operations are given, and in
whatever order runs and tick loops go on between them. Whatever happens next while the flag is
cleared leaves no pair handled; so none is when a run sets it. -/
theorem keeps_vigil (I : Interpreter) (supply : Supply) (state : Snapshot) (tick limit : Datum)
    (now : Float) (happened : List Occurrence) (hsupply : supply.Doubles)
    (hstate : state.running = false) (hplaced : state.Placed) (htick : tick.Waitable)
    (hlimit : Store.limitFault? limit = none)
    (hregular : Regular happened
      (Theatre.opened I supply state tick limit (.float now) true).stage) :
    let s := after happened (Theatre.opened I supply state tick limit (.float now) true).stage
    s.scene.Vigilant ∧
      ∀ o : Occurrence, o.Regular s → s.state.running = false →
        (o.follow s).scene.handled = [] := by
  intro s
  have hopened : Watched (Theatre.opened I supply state tick limit (.float now) true).stage := by
    refine ⟨⟨rfl, hlimit, hplaced, ?_⟩, List.forall_mem_nil _, hsupply⟩
    refine ⟨fun number halive => ?_, List.forall_mem_nil _, fun hrun => ?_, fun _ => rfl, rfl,
      htick, now, rfl⟩
    · exact absurd halive.lt (Nat.not_lt_zero number)
    · exact absurd (hstate.symm.trans hrun) (by decide)
  have hs : Watched s := hopened.after hregular
  exact ⟨hs.scene.vigilant, fun o ho hrun => hs.follow_handled ho hrun⟩

/-- Two who stand in one place. One of them stays there, by a block that takes a while. -/
def company : Snapshot where
  actors := [
    { id := .str "a", name := .str "a",
      blocks := [{ id := .str "g", kind := .str "goto", params := .object [] }] },
    { id := .str "b", name := .str "b" }]
  activeActorId := .str "a"

/-- A run begins, the detector looks, the run ends while the tick loop is asleep, and another run is
asked for. -/
def relief : List Occurrence :=
  [.operation (.startRun .null), .turn 0, .turn 0, .wake (.run 0) none (.float 1000.5), .turn 0,
    .operation (.run .null)]

theorem company_placed : company.Placed := by
  intro a ha
  have hcases : a = company.actors[0] ∨ a = company.actors[1] := by simpa [company] using ha
  rcases hcases with rfl | rfl
  · refine ⟨⟨⟨_, rfl⟩, Forest.typed_singleton_iff.mpr ?_⟩, fun which hwhich => ?_⟩
    · exact ⟨⟨⟨⟨_, rfl⟩, ⟨_, rfl⟩⟩, ⟨_, rfl⟩⟩, Forest.typed_nil⟩
    · rcases Attribute.mem_measures_iff.mp hwhich with rfl | rfl | rfl <;> exact ⟨_, rfl⟩
  · refine ⟨⟨⟨_, rfl⟩, Forest.typed_nil⟩, fun which hwhich => ?_⟩
    rcases Attribute.mem_measures_iff.mp hwhich with rfl | rfl | rfl <;> exact ⟨_, rfl⟩

/-- The stage of these two at the beginning. -/
def meeting : Stage :=
  (Theatre.opened {} {} company (.float 0.1) (.int 50) (.float 1000.0) true).stage

/-- The second run sets the flag while the tick loop of the first is asleep. It begins with no pair
handled, and the one tick loop goes on. -/
theorem relief_keeps_vigil :
    (after (relief.take 3) meeting).scene.handled.length = 1 ∧
      (after relief meeting).scene.Vigilant ∧ (after relief meeting).state.running = false ∧
      (Occurrence.follow (after relief meeting) (.turn 0)).state.running ∧
      (Occurrence.follow (after relief meeting) (.turn 0)).scene.memory.loops.map (·.isOver) =
        [false] ∧
      (Occurrence.follow (after relief meeting) (.turn 0)).scene.handled = [] := by
  have hregular : Regular relief meeting :=
    ⟨trivial, trivial, trivial, ⟨⟨_, rfl⟩, nofun⟩, trivial, trivial, trivial⟩
  have htick : (Datum.float 0.1).Waitable := fun _ => rfl
  have hrun : (after relief meeting).state.running = false := by decide +kernel
  have hvigil := keeps_vigil {} {} company (.float 0.1) (.int 50) 1000.0 relief
    (List.forall_mem_nil _) rfl company_placed htick rfl hregular
  exact ⟨by decide +kernel, hvigil.1, hrun, by decide +kernel, by decide +kernel,
    hvigil.2 (.turn 0) trivial hrun⟩

end Session

end SpriteStage
