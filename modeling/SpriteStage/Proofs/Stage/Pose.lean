import SpriteStage.Proofs.Stage.Detection
import SpriteStage.Proofs.Stage.Present

/-!
# Where the actors stood

A run begins with all actors put to one place and direction, and with their messages taken away, in
the turn in which it sets the flag: nobody gets to see where they stood. So two theatres whose
actors differ in that alone (`Theatre.Restaged`) have the same present once a run has begun, and
whatever comes of the run, be it a success or a failure, comes of it in both
(`Theatre.run_forgets_poses`).
-/

namespace SpriteStage

/-- The second actor differs from the first at most in its place, direction and message. -/
def Actor.Restaged (a b : Actor) : Prop :=
  ∃ x y direction message, b = { a with x, y, direction, message }

namespace Snapshot

/-- The second snapshot differs from the first at most in the places, directions and messages of
actors. -/
structure Restaged (s s' : Snapshot) : Prop where
  actors : s.Match Actor.Restaged s'
  active : s'.activeActorId = s.activeActorId
  flag : s'.isRunning = s.isRunning

namespace Restaged

variable {s s' : Snapshot}

theorem running (h : s.Restaged s') : s'.running = s.running := congrArg Datum.truthy h.flag

theorem addressee (h : s.Restaged s') (address : Datum) :
    s'.addressee address = s.addressee address := by
  simp only [Snapshot.addressee, h.active]

/-- A run that is not refused for the one is not refused for the other, and has the same program. -/
theorem accept (h : s.Restaged s') {status : Status} {address : Datum} {a : Actor}
    (ha : Interpreter.accept s status address = .ok a) :
    ∃ b, Interpreter.accept s' status address = .ok b ∧ b.blocks = a.blocks := by
  obtain ⟨hflag, hstatus, hfound, hblocks⟩ := Interpreter.accept_eq_ok_iff.mp ha
  obtain ⟨b, hb, hrestaged⟩ := h.actors.actor? hfound
  have hprogram : b.blocks = a.blocks := by
    obtain ⟨x, y, direction, message, rfl⟩ := hrestaged
    rfl
  refine ⟨b, Interpreter.accept_eq_ok_iff.mpr ⟨h.running.trans hflag, hstatus, ?_, ?_⟩, hprogram⟩
  · rw [Snapshot.addressed?, h.addressee]
    exact hb
  · rwa [hprogram]

/-- The flag makes no difference. -/
theorem withFlag (h : s.Restaged s') (isRunning : Datum) :
    Restaged { s with isRunning } { s' with isRunning } := ⟨h.actors, h.active, rfl⟩

/-- To put all actors to one place and direction makes the two the same. -/
theorem reset (h : s.Restaged s') (x y direction : Datum) :
    s'.after? (.resetActors x y direction) = s.after? (.resetActors x y direction) := by
  have hactors := h.actors.map_eq (f := ({ · with x, y, direction, message := .null })) ?_
  · simp only [after?, hactors, h.active, h.flag]
  · rintro a b - ⟨x', y', direction', message', rfl⟩
    rfl

end Restaged

end Snapshot

/-- The backstage without the one at a position of the queue. -/
def Backstage.dequeued (position : Nat) (b : Backstage) : Backstage :=
  { b with ready := b.ready.eraseIdx position }

/-- What a run does after its first steps, up to its end. -/
def Interpreter.afterOnset (I : Interpreter) (actorId : Datum) (program : Forest) :
    Walk (Except Interruption RunResult) :=
  let blocks : Attempt Unit := do
    swapFirst
    Attempt.each (I.step actorId (Forest.depth program + I.spare)) program
  blocks.run.bind (finish actorId)

namespace StageScene

/-- The scene with another snapshot and another history. -/
def withRecord (state : Snapshot) (history : List Snapshot) (sc : StageScene) : StageScene :=
  { sc with store := { sc.store with state, history } }

/-- The second scene differs from the first at most in its history and in the places, directions and
messages of actors. -/
def Restaged (sc sc' : StageScene) : Prop :=
  ∃ state history, sc' = sc.withRecord state history ∧ sc.state.Restaged state

/-- The scene after the first steps of a run, with no wait in between. -/
def onset (I : Interpreter) (actorId : Datum) (sc : StageScene) : StageScene :=
  let entered : StageScene := { sc with status := .running }
  let started := log ("[Interpreter] run started for " ++ actorId.label) entered
  let flagged := (started.send (.setRunning (.bool true))).1
  (flagged.send (.resetActors (.float 0.0) (.float 0.0) I.home)).1

variable {sc sc' : StageScene}

namespace Restaged

theorem memory (h : sc.Restaged sc') : sc'.memory = sc.memory := by
  obtain ⟨state, history, rfl, -⟩ := h
  rfl

theorem mapMemory (f : Backstage → Backstage) (h : sc.Restaged sc') :
    Restaged (sc.mapMemory f) (sc'.mapMemory f) := by
  obtain ⟨state, history, rfl, hstate⟩ := h
  exact ⟨state, history, rfl, hstate⟩

theorem accept (h : sc.Restaged sc') {address : Datum} {a : Actor}
    (ha : Interpreter.accept sc.state sc.status address = .ok a) :
    ∃ b, Interpreter.accept sc'.state sc'.status address = .ok b ∧ b.blocks = a.blocks := by
  obtain ⟨state, history, rfl, hstate⟩ := h
  exact hstate.accept ha

/-- Two scenes that differ so take an action alike, up to what it makes of the two snapshots. -/
theorem send (h : sc.Restaged sc') (hkeeps : sc.store.Keeps) {a : Action} {next next' : Snapshot}
    (ha : sc.state.attempt a = .ok (some next)) (ha' : sc'.state.attempt a = .ok (some next'))
    (hflag : next'.running = next.running) :
    (sc.send a).1.state = next ∧
      ∃ history, (sc'.send a).1 = withRecord next' history (sc.send a).1 := by
  obtain ⟨state, history, rfl, hstate⟩ := h
  have hkeeps' : (sc.withRecord state history).store.Keeps := hkeeps
  have hheed : Backstage.heed ((sc.withRecord state history).store.announced a next') =
      Backstage.heed (sc.store.announced a next) := Backstage.heed_congr rfl hstate.running hflag
  rw [send_of_some hkeeps ha, send_of_some hkeeps' ha', hheed]
  exact ⟨rfl, _, rfl⟩

/-- To set or clear the flag leaves them so. -/
theorem send_flag (h : sc.Restaged sc') (hkeeps : sc.store.Keeps) (value : Datum) :
    (sc.send (.setRunning value)).1.Restaged (sc'.send (.setRunning value)).1 := by
  obtain ⟨state, history, rfl, hstate⟩ := id h
  have hnext := hstate.withFlag (.bool value.truthy)
  obtain ⟨hsent, history', hsent'⟩ :=
    h.send hkeeps (a := .setRunning value) rfl rfl hnext.running
  exact ⟨_, history', hsent', hsent ▸ hnext⟩

/-- To put all actors to one place and direction takes the difference away. -/
theorem send_reset (h : sc.Restaged sc') (hkeeps : sc.store.Keeps) (x y direction : Datum) :
    SamePresent (sc.send (.resetActors x y direction)).1
      (sc'.send (.resetActors x y direction)).1 := by
  obtain ⟨state, history, rfl, hstate⟩ := id h
  have hattempt : state.attempt (.resetActors x y direction) =
      sc.state.attempt (.resetActors x y direction) :=
    congrArg Except.ok (hstate.reset x y direction)
  obtain ⟨hsent, history', hsent'⟩ := h.send hkeeps rfl hattempt rfl
  exact ⟨history', hsent'.trans (hsent ▸ rfl)⟩

/-- After the first steps of a run there is no difference any more. -/
theorem onset (h : sc.Restaged sc') (hkeeps : sc.store.Keeps) (I : Interpreter) (actorId : Datum) :
    SamePresent (StageScene.onset I actorId sc) (StageScene.onset I actorId sc') := by
  let line := "[Interpreter] run started for " ++ actorId.label
  have hstarted : Restaged (log line { sc with status := .running })
      (log line { sc' with status := .running }) := by
    obtain ⟨state, history, rfl, hstate⟩ := h
    exact ⟨state, history, rfl, hstate⟩
  have hkeeps' : (log line { sc with status := .running }).store.Keeps := hkeeps
  exact (hstarted.send_flag hkeeps' (.bool true)).send_reset (send_keeps hkeeps' _) _ _ _

end Restaged

/-! ### Runs -/

/-- A run that is not refused takes its first steps, and then it depends on its program alone. -/
theorem run_onset {I : Interpreter} {address : Datum} {a : Actor} (hkeeps : sc.store.Keeps)
    (haccept : Interpreter.accept sc.state sc.status address = .ok a) :
    let actorId := sc.state.addressee address
    let rest := I.afterOnset actorId a.blocks
    (I.run address).advance Backstage.surroundings sc =
        rest.advance Backstage.surroundings (sc.onset I actorId) ∧
      (I.run address).stretch sc =
        .action (.setRunning (.bool true)) ::
          .action (.resetActors (.float 0.0) (.float 0.0) I.home) ::
            rest.stretch (sc.onset I actorId) := by
  intro actorId rest
  obtain ⟨flag, reset, hwalk, hflag, hreset⟩ : ∃ flag reset,
      (I.animate actorId a).run.bind (Interpreter.finish actorId) =
          .dispatch (.setRunning (.bool true)) flag ∧
        flag none = .dispatch (.resetActors (.float 0.0) (.float 0.0) I.home) reset ∧
        reset none = rest := ⟨_, _, rfl, rfl, rfl⟩
  let line := "[Interpreter] run started for " ++ actorId.label
  let started : StageScene := log line { sc with status := .running }
  have hstarted : started.store.Keeps := hkeeps
  have hflagged : Dispatched.fault? (started.send (.setRunning (.bool true))).2 = none :=
    send_fault hstarted _
  have hput : Dispatched.fault? ((started.send (.setRunning (.bool true))).1.send
      (.resetActors (.float 0.0) (.float 0.0) I.home)).2 = none :=
    send_fault (send_keeps hstarted _) _
  have hbegun : (I.run address).advance Backstage.surroundings sc =
      ((I.animate actorId a).run.bind (Interpreter.finish actorId)).advance
        Backstage.surroundings started := by
    simp only [Interpreter.run, Walk.advance, haccept]
    rfl
  have hasked : (I.run address).stretch sc =
      ((I.animate actorId a).run.bind (Interpreter.finish actorId)).stretch started := by
    simp only [Interpreter.run, Walk.stretch, haccept]
    rfl
  rw [hbegun, hasked, hwalk, Walk.advance_dispatch, Walk.stretch_dispatch, hflagged, hflag,
    Walk.advance_dispatch, Walk.stretch_dispatch, hput, hreset]
  exact ⟨rfl, rfl⟩

/-- **A run that is not refused goes on alike**, wherever the actors stood. -/
theorem Restaged.run (h : sc.Restaged sc') (hkeeps : sc.store.Keeps) {I : Interpreter}
    {address : Datum} {a : Actor}
    (haccept : Interpreter.accept sc.state sc.status address = .ok a) :
    (I.run address).Alike sc sc' := by
  obtain ⟨state, history, rfl, hstate⟩ := id h
  obtain ⟨b, haccept', hblocks⟩ := hstate.accept haccept
  obtain ⟨hadvance, hstretch⟩ := run_onset (I := I) hkeeps haccept
  have hkeeps' : (sc.withRecord state history).store.Keeps := hkeeps
  obtain ⟨hadvance', hstretch'⟩ := run_onset (I := I) hkeeps' haccept'
  have haddressee : (sc.withRecord state history).state.addressee address =
      sc.state.addressee address := hstate.addressee address
  rw [haddressee, hblocks] at hadvance' hstretch'
  obtain ⟨hscene, hpause, hasked⟩ :=
    (h.onset hkeeps I (sc.state.addressee address)).advance (I.afterOnset _ a.blocks)
  rw [Walk.Alike, hadvance, hadvance', hstretch, hstretch', hasked]
  exact ⟨hscene, hpause, rfl⟩

/-- The first turn of a run on the stage, if it is not refused. -/
theorem turn_called_fresh {I : Interpreter} {position number : Nat} {address : Datum} {a : Actor}
    (hready : sc.memory.ready[position]? = some (.run number))
    (hrun : sc.memory.runs[number]? = some (.fresh address false))
    (haccept : Interpreter.accept sc.state sc.status address = .ok a) :
    let called : StageScene := sc.mapMemory (Session.called position)
    turn I called = walkOn number (I.run address)
        (sc.mapMemory (Backstage.dequeued position)) ∧
      called.memory.ready.head?.bind (walkOfTurn? I called) = some (I.run address) := by
  intro called
  obtain ⟨hidle, hstatus, -⟩ := Interpreter.accept_eq_ok_iff.mp haccept
  have hcalled : called.memory.ready = .run number :: sc.memory.ready.eraseIdx position := by
    show sc.memory.ready[position]?.toList ++ _ = _
    rw [hready]
    rfl
  have hflight : walkInFlight sc = false := by
    simp [walkInFlight, hidle, hstatus]
  have hflight' (f : Backstage → Backstage) : walkInFlight (sc.mapMemory f) = false := hflight
  have hruns : called.memory.runs[number]? = some (.fresh address false) := hrun
  constructor
  · let first : StageScene := sc.mapMemory (Backstage.dequeued position)
    have hturn : turn I called = turnOfRun I number first := by
      rw [turn, hcalled]
      rfl
    have hfirst : first.memory.runs[number]? = some (.fresh address false) := hrun
    have hfree : walkInFlight first = false := hflight' _
    rw [hturn, turnOfRun, hfirst]
    simp only [hfree, Bool.false_eq_true, if_false, first]
  · simp [hcalled, walkOfTurn?, hruns, hflight', called]

end StageScene

/-! ### Theatres -/

namespace Theatre

/-- The second theatre differs from the first at most in its history and in the places, directions
and messages of actors. -/
def Restaged (th th' : Theatre) : Prop :=
  ∃ scene, th' = th.withScene scene ∧ th.scene.Restaged scene

/-- A run begins, and is not refused. -/
inductive Occurrence.Begins (th : Theatre) : Occurrence → Prop
  /-- The interpreter is asked for it. -/
  | call {address : Datum} {a : Actor} :
      Interpreter.accept th.scene.state th.scene.status address = .ok a →
      Begins th (.call address)
  /-- It has its first turn on the stage. -/
  | turn {position number : Nat} {address : Datum} {a : Actor} :
      th.scene.memory.ready[position]? = some (.run number) →
      th.scene.memory.runs[number]? = some (.fresh address false) →
      Interpreter.accept th.scene.state th.scene.status address = .ok a →
      Begins th (.onStage (.turn position))

variable {th th' : Theatre}

/-- Once a run has begun, there is no difference any more. -/
theorem Restaged.follow (h : th.Restaged th') (hkeeps : th.scene.store.Keeps) {o : Occurrence}
    (ho : o.Begins th) :
    (o.follow th).SamePresent (o.follow th') ∧ o.asked th' = o.asked th ∧
      o.result? th' = o.result? th := by
  obtain ⟨scene, rfl, hscene⟩ := h
  cases ho with
  | call haccept =>
    have halike := hscene.run (I := th.stage.interpreter) hkeeps haccept
    obtain ⟨hfollow, hresult⟩ := SamePresent.goOn halike
    exact ⟨hfollow, halike.2.2, hresult⟩
  | @turn position number address a hready hrun haccept =>
    obtain ⟨b, haccept', -⟩ := hscene.accept haccept
    obtain ⟨hturn, hwalk⟩ :=
      StageScene.turn_called_fresh (I := th.stage.interpreter) hready hrun haccept
    have hmemory : scene.memory = th.scene.memory := hscene.memory
    obtain ⟨hturn', hwalk'⟩ := StageScene.turn_called_fresh (I := th.stage.interpreter)
      (hmemory ▸ hready) (hmemory ▸ hrun) haccept'
    have hput (f : Backstage → Backstage) :
        (th.stage.interpreter.run address).Alike (th.scene.mapMemory f) (scene.mapMemory f) :=
      (hscene.mapMemory f).run hkeeps haccept
    have hwent := StageScene.SamePresent.walkOn (hput (Backstage.dequeued position)) number
    rw [← hturn, ← hturn'] at hwent
    have hasked := Occurrence.asked_turn th hwalk
    have hasked' := Occurrence.asked_turn (th.withScene scene) hwalk'
    exact ⟨⟨_, rfl, _, rfl, hwent⟩, hasked'.trans ((hput _).2.2.trans hasked.symm), rfl⟩

/-- **A run does not depend on where the actors stood.** From the moment that it begins, whatever
happens meanwhile and afterwards, the same is asked for, requests come to the same results, the same
is recorded in the same order, the same becomes of the runs, and the snapshot is the same. -/
theorem run_forgets_poses (hkeeps : th.scene.store.Keeps) (h : th.Restaged th') {o : Occurrence}
    (ho : o.Begins th) (happened : List Occurrence) :
    requests (o :: happened) th' = requests (o :: happened) th ∧
      results (o :: happened) th' = results (o :: happened) th ∧
      (after (o :: happened) th').scene.state = (after (o :: happened) th).scene.state ∧
      (after (o :: happened) th').scene.memory = (after (o :: happened) th).scene.memory ∧
      (after (o :: happened) th').scene.status = (after (o :: happened) th).scene.status ∧
      (after (o :: happened) th').guests = (after (o :: happened) th).guests := by
  obtain ⟨hfollow, hasked, hresult⟩ := h.follow hkeeps ho
  obtain ⟨hafter, hrequests, hresults⟩ := hfollow.after happened
  have hsplit (th : Theatre) : after (o :: happened) th = after happened (o.follow th) := rfl
  rw [hsplit, hsplit]
  obtain ⟨stage, hth, scene, hstage, hscene⟩ := hafter
  rw [hth, hstage]
  refine ⟨?_, ?_, hscene.state, hscene.memory, hscene.status, rfl⟩
  · simp only [requests, hasked, hrequests]
  · simp only [results, hresult, hresults]

/-- A stage with an actor that goes to a place and another one that stands somewhere. -/
def strewn (x : Datum) : Theatre :=
  let goto : Block := {
    id := .str "go"
    kind := .str "goto"
    params := .object [("x", .float 5.0), ("y", .float 5.0)] }
  let state : Snapshot := {
    actors := [
      { id := .str "ann", name := .str "Ann", x, blocks := [goto] },
      { id := .str "bob", name := .str "Bob", x }]
    activeActorId := .str "ann" }
  opened {} {} state (.float 0.1) (.int 50) (.float 1000.0) true

/-- Bob is put to the middle when the run of Ann begins, also if his place was nothing like a place;
the run is complete all the same. -/
theorem strewn_forgets_poses :
    let happened : List Occurrence := [.call .null, .resume 0 none (.float 1000.5)]
    let near := after happened (strewn (.float 7.0))
    let lost := after happened (strewn (.str "nowhere"))
    (requests happened (strewn (.str "nowhere"))).length = 5 ∧
      results happened (strewn (.str "nowhere")) = [.ok .complete] ∧
      lost.scene.state = near.scene.state ∧
      (strewn (.str "nowhere")).scene.state.actors.map (·.x.kind) = [.string, .string] ∧
      lost.scene.state.actors.map (·.x.kind) = [.float, .float] := by
  intro happened near lost
  have hrestaged : (strewn (.float 7.0)).Restaged (strewn (.str "nowhere")) :=
    ⟨_, rfl, _, [], rfl,
      ⟨.cons ⟨rfl, _, _, _, _, rfl⟩ (.cons ⟨rfl, _, _, _, _, rfl⟩ .nil), rfl, rfl⟩⟩
  have hkeeps : (strewn (.float 7.0)).scene.store.Keeps := rfl
  have hbegins : (Occurrence.call .null).Begins (strewn (.float 7.0)) := .call rfl
  obtain ⟨hrequests, hresults, hstate, -⟩ :=
    run_forgets_poses hkeeps hrestaged hbegins [.resume 0 none (.float 1000.5)]
  refine ⟨?_, ?_, ?_, rfl, ?_⟩
  · rw [hrequests]
    decide +kernel
  · rw [hresults]
    decide +kernel
  · exact hstate
  · rw [hstate]
    decide +kernel

end Theatre

end SpriteStage
