import SpriteStage.Proofs.Stage.Flight
import SpriteStage.Proofs.Stage.Session
import SpriteStage.Proofs.Walk.Course

/-!
# Theatres

Runs can be asked for past the operations of a stage, straight from its interpreter, and actions can
be dispatched straight to its store. A *theatre* is a stage together with the walks that were begun
in this way and wait, its guests. However operations, requests, dispatches and the ends of waits
follow on each other, there is at most one walk in flight, and whoever asks for a run meanwhile is
told so and changes nothing (`Theatre.one_walk_at_a_time`).
-/

namespace SpriteStage

/-- What is asked for by a walk that goes on, up to its next wait or its end. -/
def Walk.stretch {α : Type} : Walk α → StageScene → List Request
  | .done _, _ => []
  | .look next, sc => stretch (next sc.state sc.status) sc
  | .begin _ next, sc => stretch next sc
  | .dispatch action next, sc =>
    let (sc, dispatched) := sc.send action
    .action action :: stretch (next (Dispatched.fault? dispatched)) sc
  | .wait seconds next, sc =>
    let sc := sc.mapMemory (Backstage.surroundings.waits seconds)
    .wait seconds ::
      match Backstage.surroundings.waitFault? seconds sc.memory with
      | some fault => stretch (next (some (.failed fault))) sc
      | none => []
  | .clock next, sc => stretch (next (Backstage.surroundings.now sc.memory)) sc
  | .enter status next, sc => stretch next { sc with status }
  | .log line next, sc => stretch next (StageScene.log line sc)
  | .notify text next, sc => stretch next (StageScene.notify text sc)

/-- The walk that goes on in a turn, if one does. -/
def StageScene.walkOfTurn? (I : Interpreter) (sc : StageScene) :
    Turn → Option (Walk (Except Interruption RunResult))
  | .run number =>
    match sc.memory.runs[number]? with
    | some (.fresh address false) => if walkInFlight sc then none else some (I.run address)
    | some (.woken resume interruption) => some (resume interruption)
    | _ => none
  | .loop _ => none

/-- A stage, and the walks that were begun past it and wait. -/
structure Theatre where
  stage : Stage
  guests : List (Option Interruption → Walk (Except Interruption RunResult)) := []

namespace Theatre

/-- The scene of the stage. -/
abbrev scene (th : Theatre) : StageScene := th.stage.scene

/-- The theatre with another scene. -/
def withScene (th : Theatre) (scene : StageScene) : Theatre :=
  { th with stage := { th.stage with scene } }

/-- The walks in flight: they have begun and not ended. -/
def walks (th : Theatre) : List (Option Interruption → Walk (Except Interruption RunResult)) :=
  th.scene.memory.walks ++ th.guests

/-- Lets a walk go on past the stage: what it comes to, unless it waits and becomes a guest. -/
def goOn (walk : Walk (Except Interruption RunResult)) (th : Theatre) :
    Option (Except Interruption RunResult) × Theatre :=
  match walk.advance Backstage.surroundings th.scene with
  | (scene, .waiting _ resume) =>
    (none, { th.withScene scene with guests := th.guests ++ [resume] })
  | (scene, .ended outcome) => (some outcome, th.withScene scene)

/-- Asks the interpreter for a run: its answer, unless the run waits. -/
def call (address : Datum) (th : Theatre) : Option (Except Interruption RunResult) × Theatre :=
  th.goOn (th.stage.interpreter.run address)

/-- The theatre at a time, without one of its guests. -/
def without (position : Nat) (now : Number) (th : Theatre) : Theatre :=
  { th.withScene (th.scene.mapMemory ({ · with now })) with guests := th.guests.eraseIdx position }

/-- What happens next in a theatre. -/
inductive Occurrence where
  /-- Something on the stage. -/
  | onStage (o : Session.Occurrence)
  /-- Somebody dispatches an action. -/
  | dispatch (action : Action)
  /-- Somebody asks the interpreter for a run. -/
  | call (address : Datum)
  /-- The wait of a guest ends at a time, of itself or interrupted. -/
  | resume (position : Nat) (interruption : Option Interruption) (now : Number)

namespace Occurrence

/-- What becomes of the theatre. -/
def follow (th : Theatre) : Occurrence → Theatre
  | onStage o => { th with stage := o.follow th.stage }
  | dispatch action => th.withScene (th.scene.send action).1
  | call address => (th.call address).2
  | resume position interruption now =>
    match th.guests[position]? with
    | some guest => ((th.without position now).goOn (guest interruption)).2
    | none => th

/-- What walks ask for meanwhile, in order. -/
def asked (th : Theatre) : Occurrence → List Request
  | onStage (.turn position) =>
    let scene : StageScene := th.scene.mapMemory (Session.called position)
    match scene.memory.ready.head?.bind (scene.walkOfTurn? th.stage.interpreter) with
    | some walk => walk.stretch scene
    | none => []
  | onStage _ | dispatch _ => []
  | call address => (th.stage.interpreter.run address).stretch th.scene
  | resume position interruption now =>
    match th.guests[position]? with
    | some guest => (guest interruption).stretch (th.without position now).scene
    | none => []

/-- What the walk that goes on in a turn asks for. -/
theorem asked_turn (th : Theatre) {position : Nat} {walk : Walk (Except Interruption RunResult)}
    (h : (th.scene.mapMemory (Session.called position)).memory.ready.head?.bind
      (StageScene.walkOfTurn? th.stage.interpreter
        (th.scene.mapMemory (Session.called position))) = some walk) :
    asked th (.onStage (.turn position)) =
      walk.stretch (th.scene.mapMemory (Session.called position)) := by
  simp only [asked, h]

/-- Whether this is a request to the interpreter. -/
def isCall : Occurrence → Bool
  | call _ => true
  | _ => false

end Occurrence

/-- The theatre after all this happened, in order. -/
def after (happened : List Occurrence) (th : Theatre) : Theatre :=
  happened.foldl Occurrence.follow th

/-- What walks ask for while all this happens, in order. -/
def requests : List Occurrence → Theatre → List Request
  | [], _ => []
  | o :: rest, th => o.asked th ++ requests rest (o.follow th)

/-- All that happens but for requests to the interpreter that are made while a walk is in flight. -/
def heeded : List Occurrence → Theatre → List Occurrence
  | [], _ => []
  | o :: rest, th =>
    (if o.isCall && !th.walks.isEmpty then [] else [o]) ++ heeded rest (o.follow th)

/-- The theatre at the beginning: a stage with any snapshot, an empty history of any limit, and no
guests. -/
def opened (I : Interpreter) (supply : Supply) (state : Snapshot) (tick limit : Datum) (now : Number)
    (scheduling : Bool) : Theatre :=
  let stage := Stage.create state { now, detector := { tick }, scheduling } I supply
  { stage := { stage with scene := { stage.scene with store := { stage.scene.store with limit } } } }

/-! ### Order -/

/-- The walks in flight are under way, and the status tells whether there is one. -/
def Orderly (th : Theatre) : Prop := th.scene.Orderly th.guests

variable {th : Theatre}

theorem Orderly.opened (I : Interpreter) (supply : Supply) (state : Snapshot) (tick limit : Datum)
    (now : Number) (scheduling : Bool) :
    (opened I supply state tick limit now scheduling).Orderly := ⟨nofun, rfl⟩

theorem Orderly.length_walks (h : th.Orderly) :
    th.walks.length = if th.scene.status = .running then 1 else 0 := h.single

theorem Orderly.status_of_ne_nil (h : th.Orderly) (hwalks : th.walks ≠ []) :
    th.scene.status = .running := by
  obtain ⟨resume, hmem⟩ := List.exists_mem_of_ne_nil _ hwalks
  exact h.status_of_mem hmem

/-- A walk that goes on while no other is in flight. -/
theorem goOn_advanced {walk : Walk (Except Interruption RunResult)} {sc₀ : StageScene}
    (hwalks : th.walks = [])
    (hwalk : sc₀.Advanced Action.Play (walk.advance Backstage.surroundings th.scene))
    (hstatus : sc₀.status = .running) :
    (th.goOn walk).2.Orderly ∧ ((th.goOn walk).2.scene.status = .running →
      sc₀.store.Follows Action.Play (th.goOn walk).2.scene.store) := by
  have hruns := StageScene.advance_runs walk th.scene
  obtain ⟨hstage, hguests⟩ := List.append_eq_nil_iff.mp hwalks
  unfold goOn
  cases hadvance : walk.advance Backstage.surroundings th.scene with
  | mk scene pause =>
    rw [hadvance] at hwalk hruns
    have hscene : scene.memory.walks = [] :=
      (congrArg (List.filterMap Run.walk?) hruns).trans hstage
    cases hwalk with
    | @waiting _ seconds resume hresume hsame hstore =>
      have hnow : scene.memory.walks ++ (th.guests ++ [resume]) = [resume] := by
        rw [hscene, hguests]
        rfl
      refine ⟨⟨fun r hr => ?_, ?_⟩, fun _ => hstore⟩
      · obtain rfl := List.mem_singleton.mp (hnow ▸ hr)
        exact hresume
      · exact (congrArg List.length hnow).trans (if_pos (hsame.trans hstatus)).symm
    | ended hended =>
      have hnow : scene.memory.walks ++ th.guests = [] := by
        rw [hscene, hguests]
        rfl
      refine ⟨⟨fun r hr => ?_, ?_⟩, fun hrunning => absurd hrunning hended⟩
      · cases (hnow ▸ hr : r ∈ [])
      · exact (congrArg List.length hnow).trans (if_neg hended).symm

/-- While a walk is in flight, the interpreter answers that a run is under way, and that is all. -/
theorem call_of_running (h : th.scene.status = .running) (address : Datum) :
    th.call address = (some (.ok (.refused .alreadyRunning)), th) := by
  unfold call goOn
  rw [StageScene.advance_run_of_running h]
  rfl

/-- What is aside from walks takes nothing away, if no guest comes or goes. -/
theorem Orderly.of_aside (h : th.Orderly) {th' : Theatre} {P : Action → Prop}
    (ha : th.scene.Aside P th'.scene) (hguests : th'.guests = th.guests) : th'.Orderly := by
  unfold Orderly
  rw [hguests]
  exact StageScene.Orderly.aside h ha

/-- A request for a run is refused, or a walk begins while no other is in flight. -/
theorem call_orderly (h : th.Orderly) (address : Datum) :
    (th.call address).2.Orderly ∧ th.scene.Onward (th.call address).2.scene := by
  let I := th.stage.interpreter
  cases haccept : Interpreter.accept th.scene.state th.scene.status address with
  | error cause =>
    obtain ⟨scene, hadvance, hsame⟩ := StageScene.advance_run_refused haccept I
    have hcall : (th.call address).2 = th.withScene scene := by
      show (th.goOn (I.run address)).2 = _
      rw [goOn, hadvance]
    rw [hcall]
    have hplay : th.scene.Aside Action.Play scene := hsame.mono fun _ => False.elim
    have horderly : (th.withScene scene).Orderly := h.of_aside hplay rfl
    exact ⟨horderly, .of_aside hplay⟩
  | ok a =>
    obtain ⟨-, hidle, -⟩ := Interpreter.accept_eq_ok_iff.mp haccept
    obtain ⟨sc₀, hstatus, hrecord, hwalk⟩ := StageScene.advance_run_accepted haccept I
    have hwalks : th.walks = [] := List.length_eq_zero_iff.mp (h.length_walks.trans (if_neg hidle))
    obtain ⟨horderly, hstore⟩ := goOn_advanced hwalks hwalk hstatus
    exact ⟨horderly, fun _ hrunning => ⟨sc₀.store, hrecord, hstore hrunning⟩,
      fun hrunning => absurd hrunning hidle⟩

/-- A guest goes on while there is no walk but its own. -/
theorem goOn_guest_orderly (h : th.Orderly) {position : Nat}
    {guest : Option Interruption → Walk (Except Interruption RunResult)}
    (hguest : th.guests[position]? = some guest) (interruption : Option Interruption)
    (now : Number) :
    ((th.without position now).goOn (guest interruption)).2.Orderly ∧
      th.scene.Onward ((th.without position now).goOn (guest interruption)).2.scene := by
  have hmem : guest ∈ th.walks := List.mem_append_right _ (List.mem_of_getElem? hguest)
  have hstatus : th.scene.status = .running := h.status_of_mem hmem
  have hwalks : (th.without position now).walks = [] := by
    obtain ⟨hlt, -⟩ := List.getElem?_eq_some_iff.mp hguest
    have hlength := h.length_walks
    rw [if_pos hstatus, walks, List.length_append] at hlength
    rw [← List.length_eq_zero_iff]
    show (th.scene.memory.walks ++ th.guests.eraseIdx position).length = 0
    rw [List.length_append, List.length_eraseIdx_of_lt hlt]
    omega
  obtain ⟨horderly, hstore⟩ :=
    goOn_advanced hwalks ((h.underway guest hmem interruption).advance _) hstatus
  exact ⟨horderly, fun hidle => absurd hstatus hidle, fun _ => hstore⟩

namespace Occurrence

/-- It is neither an operation nor a dispatch of somebody else: walks and tick loops go on, or a run
is asked for. -/
def GoesOn : Occurrence → Prop
  | onStage (.operation _) | dispatch _ => False
  | _ => True

/-- **No occurrence takes the order away.** -/
theorem follow_orderly (h : th.Orderly) (o : Occurrence) :
    (o.follow th).Orderly ∧ (o.GoesOn → th.scene.Onward (o.follow th).scene) := by
  cases o with
  | onStage o =>
    cases o with
    | operation o => exact ⟨h.of_aside (o.perform_aside th.stage) rfl, nofun⟩
    | turn position =>
      have hcalled : th.scene.Aside Action.Play (th.scene.mapMemory (Session.called position)) :=
        .mapMemory rfl
      obtain ⟨horderly, hbegun, hkept⟩ :=
        (StageScene.Orderly.aside h hcalled).turn th.stage.interpreter
      exact ⟨horderly, fun _ => ⟨hbegun, hkept⟩⟩
    | wake who interruption now =>
      have hrouse := StageScene.rouse_aside (P := Action.Play) who interruption now th.scene
      exact ⟨h.of_aside hrouse rfl, fun _ => .of_aside hrouse⟩
  | dispatch action =>
    have hsend : th.scene.Aside (fun _ => True) (th.scene.send action).1 := .send trivial th.scene
    exact ⟨h.of_aside hsend rfl, nofun⟩
  | call address =>
    obtain ⟨horderly, honward⟩ := call_orderly h address
    exact ⟨horderly, fun _ => honward⟩
  | resume position interruption now =>
    cases hguest : th.guests[position]? with
    | none =>
      have hfollow : follow th (.resume position interruption now) = th := by
        simp only [follow, hguest]
      rw [hfollow]
      exact ⟨h, fun _ => .of_aside (.refl th.scene)⟩
    | some guest =>
      have hfollow : follow th (.resume position interruption now) =
          ((th.without position now).goOn (guest interruption)).2 := by
        simp only [follow, hguest]
      obtain ⟨horderly, honward⟩ := goOn_guest_orderly h hguest interruption now
      rw [hfollow]
      exact ⟨horderly, fun _ => honward⟩

end Occurrence

theorem after_orderly (h : th.Orderly) (happened : List Occurrence) :
    (after happened th).Orderly := by
  unfold after
  induction happened generalizing th with
  | nil => exact h
  | cons o rest ih => exact ih (o.follow_orderly h).1

/-! ### Requests for a run while a walk is in flight -/

end Theatre

namespace StageScene

/-- The second scene has the snapshots of the first, its status, its handled pairs and its walks. -/
structure Untouched (sc sc' : StageScene) : Prop where
  store : sc'.store = sc.store
  status : sc'.status = sc.status
  handled : sc'.memory.detector.handled = sc.memory.detector.handled
  walks : sc'.memory.walks = sc.memory.walks

/-- The run of this number has ended: it was answered that a run is under way. -/
def TurnedAway (number : Nat) (sc : StageScene) : Prop :=
  (sc.memory.runs[number]?).bind Run.outcome? = some (.ok .alreadyRunning)

/-- A run that has its first turn while a walk is in flight is turned away. -/
theorem turnOfRun_of_running {sc : StageScene} (h : sc.status = .running) {number : Nat}
    {address : Datum} (hrun : sc.memory.runs[number]? = some (.fresh address false))
    (I : Interpreter) :
    (turnOfRun I number sc).TurnedAway number ∧ sc.Untouched (turnOfRun I number sc) := by
  have hflight : walkInFlight sc = true := by simp [walkInFlight, h]
  have hturn : turnOfRun I number sc =
      setRun number (.ended (.ok .alreadyRunning)) (notify runningNotice sc) := by
    rw [turnOfRun, hrun]
    exact if_pos hflight
  obtain ⟨hlt, -⟩ := List.getElem?_eq_some_iff.mp hrun
  have hset : sc.Aside Action.Play (setRun number (.ended (.ok .alreadyRunning)) sc) :=
    .setRun_of_eq_some hrun rfl
  rw [hturn]
  refine ⟨?_, ⟨rfl, rfl, rfl, hset.walks⟩⟩
  show (((sc.memory.runs.set number (.ended (.ok .alreadyRunning)))[number]?).bind
    Run.outcome?) = _
  rw [List.getElem?_set_self hlt]
  rfl

end StageScene

namespace Theatre

/-- Whoever asks for a run is told that one is under way, and changes nothing. -/
structure Declines (th : Theatre) : Prop where
  /-- The interpreter is asked. -/
  call (address : Datum) : th.call address = (some (.ok (.refused .alreadyRunning)), th)
  /-- A run in the background is asked for. -/
  startRun (address : Datum) : th.stage.startRun address = (false, th.stage)
  /-- The stage is asked for a run, which has its first turn at once. -/
  run (address : Datum) :
    let (number, scene) := StageScene.addRun address th.scene
    let scene := StageScene.turnOfRun th.stage.interpreter number scene
    scene.TurnedAway number ∧ th.scene.Untouched scene
  /-- A run that was asked for before has its first turn. -/
  pending {number : Nat} {address : Datum}
    (h : th.scene.memory.runs[number]? = some (.fresh address false)) :
    let scene := StageScene.turnOfRun th.stage.interpreter number th.scene
    scene.TurnedAway number ∧ th.scene.Untouched scene

variable {th : Theatre}

theorem declines_of_running (h : th.scene.status = .running) : th.Declines where
  call := call_of_running h
  startRun address := by
    have hflight : StageScene.walkInFlight th.stage.scene = true := by
      simp [StageScene.walkInFlight, h]
    simp [Stage.startRun, hflight]
  run address := by
    let added := (StageScene.addRun address th.scene).2
    have hadded : th.scene.Untouched added := by
      have haside := StageScene.addRun_aside (P := Action.Play) address th.scene
      exact ⟨rfl, rfl, rfl, haside.walks⟩
    have hrunning : added.status = .running := h
    have hfresh : added.memory.runs[th.scene.memory.runs.length]? = some (.fresh address false) :=
      List.getElem?_concat_length
    obtain ⟨haway, htouched⟩ :=
      StageScene.turnOfRun_of_running hrunning hfresh th.stage.interpreter
    exact ⟨haway, htouched.store.trans hadded.store, htouched.status.trans hadded.status,
      htouched.handled.trans hadded.handled, htouched.walks.trans hadded.walks⟩
  pending hrun := StageScene.turnOfRun_of_running h hrun th.stage.interpreter

theorem stretch_run_of_running {sc : StageScene} (h : sc.status = .running) (I : Interpreter)
    (address : Datum) : (I.run address).stretch sc = [] := by
  have haccept : Interpreter.accept sc.state sc.status address = .error .alreadyRunning := by
    simp [Interpreter.accept, h]
  simp only [Interpreter.run, Walk.stretch, haccept, RunRefusal.notice?]

/-- Requests to the interpreter that are made while a walk is in flight could as well not be made.
-/
theorem after_heeded (h : th.Orderly) (happened : List Occurrence) :
    after (heeded happened th) th = after happened th ∧
      requests (heeded happened th) th = requests happened th := by
  induction happened generalizing th with
  | nil => exact ⟨rfl, rfl⟩
  | cons o rest ih =>
    obtain ⟨hafter, hrequests⟩ := ih (o.follow_orderly h).1
    by_cases hcall : o.isCall && !th.walks.isEmpty
    · have hheeded : heeded (o :: rest) th = heeded rest (o.follow th) := by
        rw [heeded, if_pos hcall, List.nil_append]
      simp only [Bool.and_eq_true, Bool.not_eq_true', List.isEmpty_eq_false_iff] at hcall
      have hstatus := h.status_of_ne_nil hcall.2
      cases o with
      | call address =>
        have hfollow : (Occurrence.call address).follow th = th := by
          rw [Occurrence.follow, call_of_running hstatus]
        have hasked : (Occurrence.call address).asked th = [] :=
          stretch_run_of_running hstatus _ address
        rw [hfollow] at hafter hrequests hheeded
        rw [hheeded, hafter, hrequests, requests, hasked, hfollow]
        refine ⟨?_, rfl⟩
        rw [after, after, List.foldl_cons, hfollow]
      | _ => cases hcall.1
    · have hheeded : heeded (o :: rest) th = o :: heeded rest (o.follow th) := by
        rw [heeded, if_neg hcall, List.singleton_append]
      rw [hheeded, requests, requests, hrequests]
      exact ⟨hafter, rfl⟩

/-- **At most one walk is in flight, and who asks for another meanwhile changes nothing.** This is
so at any time of anything that happens in a theatre, also after the flag has been cleared. So walks
ask for the same actions and waits, and all becomes the same, if no requests to the interpreter are
made while a walk is in flight. -/
theorem one_walk_at_a_time (I : Interpreter) (supply : Supply) (state : Snapshot)
    (tick limit : Datum) (now : Number) (scheduling : Bool) (happened : List Occurrence) :
    let start := opened I supply state tick limit now scheduling
    let th := after happened start
    th.walks.length ≤ 1 ∧
      (th.walks.length = 1 → th.Declines) ∧
      after (heeded happened start) start = th ∧
      requests (heeded happened start) start = requests happened start := by
  intro start th
  have hstart : start.Orderly := .opened I supply state tick limit now scheduling
  have horderly : th.Orderly := after_orderly hstart happened
  refine ⟨?_, fun hone => ?_, after_heeded hstart happened⟩
  · rw [horderly.length_walks]
    split_ifs <;> decide
  · refine declines_of_running (horderly.status_of_ne_nil fun hnil => ?_)
    rw [hnil] at hone
    cases hone

/-- A run in the background is asked for, but the interpreter is asked before its first turn; its
walk goes on after the stop, and is asked for again. -/
def crowd : List Occurrence :=
  [.onStage (.operation (.addBlock (.str "move") .null)), .onStage (.operation (.startRun .null)),
    .call .null, .onStage (.operation .stop), .call .null]

theorem crowd_declines :
    let start := opened {} {} .initial (.float 0.1) (.int 50) (.float 1000.0) true
    let th := after crowd start
    th.walks.length = 1 ∧ th.scene.state.running = false ∧ th.scene.memory.runs.length = 1 ∧
      th.Declines ∧ (heeded crowd start).length = 4 ∧
      requests (heeded crowd start) start = requests crowd start ∧
      (requests crowd start).length = 4 := by
  intro start th
  obtain ⟨-, hdeclines, -, hrequests⟩ :=
    one_walk_at_a_time {} {} .initial (.float 0.1) (.int 50) (.float 1000.0) true crowd
  have hone : th.walks.length = 1 := by decide +kernel
  exact ⟨hone, by decide +kernel, by decide +kernel, hdeclines hone, by decide +kernel, hrequests,
    by decide +kernel⟩

end Theatre

end SpriteStage
