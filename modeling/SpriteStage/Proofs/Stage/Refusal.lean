import SpriteStage.Proofs.Stage.Theatre
import Mathlib.Data.List.Infix

/-!
# Edits while a walk is in flight

Edits look at the running flag, and not at the status. A walk that begins sets the flag; turns and
ends of waits leave it alone as long as the walk goes on, and so do all operations but one. So edits
are refused, and what stands in programs stays in its place, until somebody stops; from then on they
are carried out, though the walk goes on (`Theatre.edits_refused_until_stop`).
-/

namespace SpriteStage

/-! ### Who is there, and what stands in the programs -/

namespace Snapshot

/-- Who is there, in order, each with the shape of its program. -/
def outline (s : Snapshot) : List (Datum × Forest) :=
  s.actors.map fun a => (a.id, Forest.shape a.blocks)

variable {s s' : Snapshot} {action : Action}

theorem Match.outline_eq (h : s.Match Actor.SameShape s') : s'.outline = s.outline :=
  h.map_eq fun _ _ hid hshape => Prod.ext hid hshape

/-- Play leaves everybody and every block in place. -/
theorem outline_after_of_play (h : action.Play) (s : Snapshot) :
    (s.after action).outline = s.outline := by
  cases action with
  | updateActor actorId changes =>
    exact (match_updateActor (fun _ _ => Actor.sameShape_of_eq) s actorId changes).outline_eq
  | resetActors x y direction =>
    exact (match_resetActors (fun _ _ => Actor.sameShape_of_eq) s x y direction).outline_eq
  | swapMoves first second =>
    exact (match_swapMoves (fun a => Actor.sameShape_of_eq (a := a) rfl)
      (fun a => Forest.shape_turnMoves a.blocks) s first second).outline_eq
  | _ => exact h.elim

theorem outline_after_selectActor (s : Snapshot) (actorId : Datum) :
    (s.after (.selectActor actorId)).outline = s.outline := by
  rw [outline, s.actors_after_selectActor actorId, outline]

end Snapshot

namespace Store

variable {ι : Type} {s s' : Store ι} {P : Action → Prop}

theorem Follows.running (hP : ∀ a, P a → ∀ value, a ≠ .setRunning value) (h : s.Follows P s') :
    s'.state.running = s.state.running :=
  h.congr (f := Snapshot.running) fun s a ha =>
    congrArg Datum.truthy (Snapshot.isRunning_after (hP a ha) s)

theorem Follows.outline_of_play (h : s.Follows Action.Play s') :
    s'.state.outline = s.state.outline :=
  h.congr fun s _ ha => Snapshot.outline_after_of_play ha s

theorem Follows.running_of_play (h : s.Follows Action.Play s') :
    s'.state.running = s.state.running :=
  h.running fun _ ha _ heq => by
    subst heq
    exact ha

end Store

namespace Theatre

variable {th before : Theatre} {begins : Occurrence} {during : List Occurrence}

/-- Somebody stops. -/
def Occurrence.stop : Occurrence := .onStage (.operation .stop)

/-- All edits are refused since a run is under way, and change no snapshot. -/
def RefusesEdits (th : Theatre) : Prop :=
  ∀ o w, Operation.edit? o = some w →
    (w.run.run th.stage).1 = .ok (.refused .running (some runningNotice)) ∧
      (o.perform th.stage).scene.store = th.scene.store

/-- No edit is refused for a run that is under way. -/
def AdmitsEdits (th : Theatre) : Prop :=
  ∀ o w, Operation.edit? o = some w → ∀ notice,
    (w.run.run th.stage).1 ≠ .ok (.refused .running notice)

theorem refusesEdits_of_running (h : th.scene.state.running) : th.RefusesEdits := by
  intro o w hedit
  rw [Operation.perform_of_edit? hedit, (Operation.isEdit_of_edit? hedit).refused h]
  exact ⟨rfl, rfl⟩

theorem admitsEdits_of_not_running (h : th.scene.state.running = false) : th.AdmitsEdits :=
  fun _ _ hedit notice => (Operation.isEdit_of_edit? hedit).not_refused h notice

/-! ### One occurrence -/

/-- No operation but to stop changes the flag, and none changes the outline while it is set. -/
theorem perform_running {o : Operation} (ho : o ≠ .stop) (s : Stage) :
    (o.perform s).state.running = s.state.running ∧
      (s.state.running → (o.perform s).state.outline = s.state.outline) := by
  cases hedit : o.edit? with
  | some w =>
    have hw := Operation.isEdit_of_edit? hedit
    rw [Operation.perform_of_edit? hedit]
    cases hs : s.state.running with
    | true =>
      rw [hw.refused hs]
      exact ⟨hs, fun _ => rfl⟩
    | false =>
      obtain ⟨hworks, -⟩ := hw.works Supply.kept_true (s := s) trivial
      refine ⟨(hworks.aside.store.running fun a ha value heq => ?_).trans hs, nofun⟩
      subst heq
      exact ha
  | none =>
    cases o with
    | selectActor actorId =>
      have hstore := (Stage.yields_selectActor (fun _ => True) actorId s trivial).1.aside.store
      refine ⟨hstore.running fun a ha => ?_, fun _ => hstore.congr fun s a ha => ?_⟩
      · subst ha
        exact nofun
      · subst ha
        exact s.outline_after_selectActor actorId
    | run address => exact ⟨rfl, fun _ => rfl⟩
    | startRun address =>
      have hperform : Operation.perform s (.startRun address) = (s.startRun address).2 := rfl
      rcases s.startRun_cases address with h | h <;> rw [hperform, h] <;> exact ⟨rfl, fun _ => rfl⟩
    | stop => exact absurd rfl ho
    | _ => cases hedit

theorem follow_stop (th : Theatre) : (Occurrence.stop.follow th).scene.state.running = false := by
  let clear : Action := .setRunning (.bool false)
  have hscene : (Occurrence.stop.follow th).scene = (th.scene.send clear).1 := by
    show (StateT.run (ExceptT.bindCont (fun _ => Stage.Work.done none .nothing)
      ((Stage.Work.dispatch clear).run.run th.stage).1)
      ((Stage.Work.dispatch clear).run.run th.stage).2).2.scene = _
    rw [Stage.Work.run_dispatch]
    cases (th.scene.send clear).2 <;> rfl
  rw [hscene, StageScene.send_state]
  rfl

/-- While a walk goes on, nothing but a stop changes the flag, and nothing changes the outline while
it is set. -/
theorem follow_running (h : th.Orderly) {o : Occurrence} (hstop : o ≠ .stop)
    (hdispatch : ∀ action, o ≠ .dispatch action) (hbefore : th.scene.status = .running)
    (hafter : (o.follow th).scene.status = .running) :
    (o.follow th).scene.state.running = th.scene.state.running ∧
      (th.scene.state.running → (o.follow th).scene.state.outline = th.scene.state.outline) := by
  have hkept (hgo : o.GoesOn) : th.scene.store.Follows Action.Play (o.follow th).scene.store :=
    ((o.follow_orderly h).2 hgo).kept hbefore hafter
  cases o with
  | onStage o =>
    cases o with
    | operation o => exact perform_running (fun heq => hstop (by rw [heq]; rfl)) th.stage
    | _ => exact ⟨(hkept trivial).running_of_play, fun _ => (hkept trivial).outline_of_play⟩
  | dispatch action => exact absurd rfl (hdispatch action)
  | _ => exact ⟨(hkept trivial).running_of_play, fun _ => (hkept trivial).outline_of_play⟩

/-- When a walk begins, the flag is set and the outline is the same. -/
theorem follow_begins (h : before.Orderly) (hbefore : before.scene.status ≠ .running)
    (hafter : (begins.follow before).scene.status = .running) :
    (begins.follow before).scene.state.running ∧
      (begins.follow before).scene.state.outline = before.scene.state.outline := by
  have hgo : begins.GoesOn := by
    cases begins with
    | onStage o =>
      cases o with
      | operation o => exact hbefore ((o.perform_aside before.stage).status.symm.trans hafter)
      | _ => trivial
    | dispatch action => exact hbefore hafter
    | _ => trivial
  obtain ⟨s, hrecord, hplay⟩ := ((begins.follow_orderly h).2 hgo).begun hbefore hafter
  have hstate : s.state = before.scene.state.after (.setRunning (.bool true)) :=
    hrecord.state.trans (before.scene.store.carried_state _)
  have hrunning := hplay.running_of_play
  have houtline := hplay.outline_of_play
  rw [hstate] at hrunning houtline
  exact ⟨hrunning, houtline⟩

/-! ### All that happens during a walk -/

theorem after_running (h : th.Orderly) (hdispatch : ∀ action, .dispatch action ∉ during)
    (hwalk : ∀ part, part <+: during → (after part th).scene.status = .running) :
    (.stop ∉ during → (after during th).scene.state.running = th.scene.state.running ∧
      (th.scene.state.running →
        (after during th).scene.state.outline = th.scene.state.outline)) ∧
    (.stop ∈ during → (after during th).scene.state.running = false) := by
  induction during generalizing th with
  | nil => exact ⟨fun _ => ⟨rfl, fun _ => rfl⟩, nofun⟩
  | cons o rest ih =>
    have hbefore : th.scene.status = .running := hwalk [] List.nil_prefix
    have hafter : (o.follow th).scene.status = .running :=
      hwalk [o] (List.prefix_append [o] rest)
    obtain ⟨hkept, hcleared⟩ := ih (o.follow_orderly h).1
      (fun action hmem => hdispatch action (List.mem_cons_of_mem o hmem))
      fun part hpart => hwalk (o :: part) (List.cons_prefix_cons.mpr ⟨rfl, hpart⟩)
    have hsplit : after (o :: rest) th = after rest (o.follow th) := rfl
    rw [hsplit]
    by_cases ho : o = .stop
    · subst ho
      refine ⟨fun hstop => absurd List.mem_cons_self hstop, fun _ => ?_⟩
      by_cases hrest : .stop ∈ rest
      · exact hcleared hrest
      · exact (hkept hrest).1.trans (follow_stop th)
    · obtain ⟨hflag, houtline⟩ := follow_running h ho
        (fun action heq => hdispatch action (heq ▸ List.mem_cons_self)) hbefore hafter
      refine ⟨fun hstop => ?_, fun hstop => ?_⟩
      · obtain ⟨hflag', houtline'⟩ := hkept fun hmem => hstop (List.mem_cons_of_mem o hmem)
        refine ⟨hflag'.trans hflag, fun hrunning => ?_⟩
        exact (houtline' (hflag.trans hrunning)).trans (houtline hrunning)
      · obtain heq | hmem := List.mem_cons.mp hstop
        · exact absurd heq.symm ho
        · exact hcleared hmem

/-- A walk begins when no other is in flight, and is in flight during all that happens then. -/
structure Lasts (before : Theatre) (begins : Occurrence) (during : List Occurrence) : Prop where
  idle : before.scene.status ≠ .running
  running : ∀ part, part <+: during → (after (begins :: part) before).scene.status = .running

/-- **Edits are refused until somebody stops.** As long as a walk is in flight and nobody has
stopped, the edits of the stage are refused and change no snapshot, everybody is there who was there
when it began, in the same order, and all blocks are in their places. From a stop on no edit is
refused any more for a run that is under way, though the walk goes on. -/
theorem edits_refused_until_stop (I : Interpreter) (supply : Supply) (state : Snapshot)
    (tick limit : Datum) (now : Number) (scheduling : Bool) (earlier : List Occurrence)
    (begins : Occurrence) (during : List Occurrence)
    (hwalk : (after earlier (opened I supply state tick limit now scheduling)).Lasts begins during)
    (hdispatch : ∀ action, .dispatch action ∉ during) :
    let before := after earlier (opened I supply state tick limit now scheduling)
    let th := after (begins :: during) before
    (.stop ∉ during → th.RefusesEdits ∧ th.scene.state.outline = before.scene.state.outline) ∧
      (.stop ∈ during → th.AdmitsEdits) := by
  intro before th
  have hbefore : before.Orderly :=
    after_orderly (.opened I supply state tick limit now scheduling) earlier
  have hbegun : (begins.follow before).scene.status = .running := hwalk.running [] List.nil_prefix
  obtain ⟨hflag, houtline⟩ := follow_begins hbefore hwalk.idle hbegun
  obtain ⟨hkept, hcleared⟩ :=
    after_running (begins.follow_orderly hbefore).1 hdispatch hwalk.running
  refine ⟨fun hstop => ?_, fun hstop => admitsEdits_of_not_running (hcleared hstop)⟩
  obtain ⟨hflag', houtline'⟩ := hkept hstop
  exact ⟨refusesEdits_of_running (hflag'.trans hflag), (houtline' hflag).trans houtline⟩

/-- A block is made, and a run in the background is asked for. -/
def errand : List Occurrence :=
  [.onStage (.operation (.addBlock (.str "move") .null)), .onStage (.operation (.startRun .null))]

/-- The detector looks once, and all the while somebody would like to change something. -/
def meddling : List Occurrence :=
  [.onStage (.operation .addActor), .onStage (.turn 0), .onStage (.operation (.clearBlocks .null))]

theorem meddling_refused :
    let before := after errand (opened {} {} .initial (.float 0.1) (.int 50) (.float 1000.0) true)
    let th := after (.onStage (.turn 0) :: meddling) before
    before.Lasts (.onStage (.turn 0)) (meddling ++ [.stop]) ∧
      th.RefusesEdits ∧ th.scene.state.outline = before.scene.state.outline ∧
      (Occurrence.stop.follow th).AdmitsEdits := by
  intro before th
  have hwalk : before.Lasts (.onStage (.turn 0)) (meddling ++ [.stop]) := by
    refine ⟨by decide +kernel, fun part hpart => ?_⟩
    have hall : ∀ part ∈ (meddling ++ [Occurrence.stop]).inits,
        (after (.onStage (.turn 0) :: part) before).scene.status = .running := by decide +kernel
    exact hall part ((List.mem_inits ..).mpr hpart)
  have hwalk' : before.Lasts (.onStage (.turn 0)) meddling :=
    ⟨hwalk.idle, fun part hpart => hwalk.running part (hpart.trans (List.prefix_append ..))⟩
  have hdispatch : ∀ action, .dispatch action ∉ meddling ++ [.stop] := by
    simp [meddling, Occurrence.stop]
  obtain ⟨hrefuses, -⟩ := edits_refused_until_stop {} {} .initial (.float 0.1) (.int 50)
    (.float 1000.0) true errand (.onStage (.turn 0)) meddling hwalk'
    fun action hmem => hdispatch action (List.mem_append_left _ hmem)
  obtain ⟨-, hadmits⟩ := edits_refused_until_stop {} {} .initial (.float 0.1) (.int 50)
    (.float 1000.0) true errand (.onStage (.turn 0)) (meddling ++ [.stop]) hwalk hdispatch
  have hstop : .stop ∉ meddling := by simp [meddling, Occurrence.stop]
  obtain ⟨hth, houtline⟩ := hrefuses hstop
  exact ⟨hwalk, hth, houtline, hadmits (by simp)⟩

/-- Somebody stops while the walk waits, and then a block is added to the program, though the walk
goes on. -/
theorem edit_carried_out_after_stop :
    let before := after errand (opened {} {} .initial (.float 0.1) (.int 50) (.float 1000.0) true)
    let th := after [.onStage (.turn 0), .stop] before
    let edited := (Occurrence.onStage (.operation (.addBlock (.str "turn") .null))).follow th
    before.scene.status ≠ .running ∧ th.scene.status = .running ∧ edited.scene.status = .running ∧
      edited.scene.state.outline ≠ before.scene.state.outline ∧ ¬ th.RefusesEdits := by
  intro before th edited
  let sizes (th : Theatre) : List Nat := th.scene.state.outline.map (·.2.length)
  have hbefore : sizes before = [1] := by decide +kernel
  have hth : sizes th = [1] := by decide +kernel
  have hedited : sizes edited = [2] := by decide +kernel
  have hsizes {th₁ th₂ : Theatre} (h : th₁.scene.state.outline = th₂.scene.state.outline) :
      sizes th₁ = sizes th₂ := congrArg (List.map (·.2.length)) h
  refine ⟨by decide +kernel, by decide +kernel, by decide +kernel, fun houtline => ?_,
    fun hrefuses => ?_⟩
  · have := hedited.symm.trans ((hsizes houtline).trans hbefore)
    cases this
  · obtain ⟨-, hstore⟩ := hrefuses (.addBlock (.str "turn") .null) _ rfl
    have houtline : edited.scene.state.outline = th.scene.state.outline :=
      congrArg (fun store => store.state.outline) hstore
    have := hedited.symm.trans ((hsizes houtline).trans hth)
    cases this

end Theatre

end SpriteStage
