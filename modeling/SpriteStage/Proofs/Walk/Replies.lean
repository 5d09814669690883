import SpriteStage.Proofs.Walk.Completion
import SpriteStage.Proofs.Walk.Only
import SpriteStage.Proofs.Walk.Underway

/-!
# What a run is answered

A walk asks for dispatches and waits, and is answered each time (`Walk.replies`). A run comes to a
result whatever fails on the way, with one exception: it fails just in case the last that it is
answered is that the clearing of the flag failed. It is called off just in case a wait was, and the
flag was cleared after that (`Interpreter.run_raises_iff`).
-/

namespace SpriteStage

/-- What a walk is answered. -/
inductive Reply where
  /-- A dispatch came to an end, or failed. -/
  | dispatched (action : Action) (fault : Option Fault)
  /-- A wait came to an end, or was interrupted. -/
  | waited (seconds : Datum) (interruption : Option Interruption)

variable {σ ι τ α β : Type} [DecidableEq ι] (S : Surroundings σ ι) (answer : Company σ ι τ)

/-- All that a walk is answered that is carried through to its end. -/
def Walk.replies : Walk α → Scene σ ι → τ → List Reply
  | .done _, _, _ => []
  | .look next, sc, t => replies (next sc.state sc.status) sc t
  | .begin _ next, sc, t => replies next sc t
  | .dispatch action next, sc, t =>
    let (sc, dispatched) := sc.dispatch S.toAudience action
    .dispatched action (Dispatched.fault? dispatched) ::
      replies (next (Dispatched.fault? dispatched)) sc t
  | .wait seconds next, sc, t =>
    let sc := sc.mapMemory (S.waits seconds)
    match S.waitFault? seconds sc.memory with
    | some fault =>
      .waited seconds (some (.failed fault)) :: replies (next (some (.failed fault))) sc t
    | none =>
      let ((sc, t), interruption) := answer seconds sc t
      .waited seconds interruption :: replies (next interruption) sc t
  | .clock next, sc, t => replies (next (S.now sc.memory)) sc t
  | .enter status next, sc, t => replies next { sc with status } t
  | .log line next, sc, t => replies next (sc.mapMemory (S.log line)) t
  | .notify text next, sc, t => replies next (sc.mapMemory (S.notify text)) t

theorem Walk.replies_bind (w : Walk α) (f : α → Walk β) (sc : Scene σ ι) (t : τ) :
    (w.bind f).replies S answer sc t =
      w.replies S answer sc t ++
        (f (w.carry S answer sc t).2).replies S answer (w.carry S answer sc t).1.1
          (w.carry S answer sc t).1.2 := by
  induction w generalizing sc t with
  | done value => rfl
  | look next ih => exact ih ..
  | begin block next ih => exact ih ..
  | dispatch action next ih => exact congrArg (_ :: ·) (ih ..)
  | wait seconds next ih =>
    simp only [Walk.bind, carry, replies]
    cases S.waitFault? seconds (sc.mapMemory (S.waits seconds)).memory with
    | some fault => exact congrArg (_ :: ·) (ih ..)
    | none => exact congrArg (_ :: ·) (ih ..)
  | clock next ih => exact ih ..
  | enter status next ih => exact ih ..
  | log line next ih => exact ih ..
  | notify text next ih => exact ih ..

/-- What comes after an attempt goes on from where that left, unless it failed. -/
theorem Attempt.carry_bind (x : Attempt α) (f : α → Attempt β) (p : Place σ ι τ) :
    (x >>= f).run.carry S answer p.1 p.2 =
      match x.run.carry S answer p.1 p.2 with
      | (q, .ok a) => (f a).run.carry S answer q.1 q.2
      | (q, .error e) => (q, .error e) := by
  refine (Walk.carry_bind S answer x.run (ExceptT.bindCont f) p.1 p.2).trans ?_
  obtain ⟨q, outcome⟩ := x.run.carry S answer p.1 p.2
  cases outcome <;> rfl

theorem Attempt.replies_bind (x : Attempt α) (f : α → Attempt β) (p : Place σ ι τ) :
    (x >>= f).run.replies S answer p.1 p.2 =
      x.run.replies S answer p.1 p.2 ++
        match x.run.carry S answer p.1 p.2 with
        | (q, .ok a) => (f a).run.replies S answer q.1 q.2
        | (_, .error _) => [] := by
  refine (Walk.replies_bind S answer x.run (ExceptT.bindCont f) p.1 p.2).trans ?_
  obtain ⟨q, outcome⟩ := x.run.carry S answer p.1 p.2
  cases outcome <;> rfl

/-- An attempt is called off just in case the last that it is answered is that a wait was. -/
theorem Attempt.Made.cancelled_iff {P : Action → Prop} {x : Attempt α} (hx : x.Made P)
    (p : Place σ ι τ) :
    (x.run.carry S answer p.1 p.2).2 = .error .cancelled ↔
      ∃ seconds, (x.run.replies S answer p.1 p.2).getLast? =
        some (.waited seconds (some .cancelled)) := by
  induction hx generalizing p with
  | pure | fail | snapshot | begin | clock | log | notify =>
    exact iff_of_false (by rintro ⟨⟩) (by rintro ⟨_, ⟨⟩⟩)
  | @bind _ _ x f _ _ hx hf =>
    have hx := hx p
    rw [Attempt.carry_bind, Attempt.replies_bind]
    generalize x.run.replies S answer p.1 p.2 = before,
      x.run.carry S answer p.1 p.2 = walked at hx ⊢
    obtain ⟨q, outcome⟩ := walked
    cases outcome with
    | error e =>
      rw [List.append_nil, ← hx, Except.error.injEq, Except.error.injEq]
    | ok a =>
      refine (hf a q).trans (exists_congr fun seconds => ?_)
      have hbefore : before.getLast? ≠ some (.waited seconds (some .cancelled)) := fun h => by
        cases hx.mpr ⟨seconds, h⟩
      -- what was answered before does not show through, since the attempt went on after it
      rw [List.getLast?_append]
      change _ ↔ ((f a).run.replies S answer q.1 q.2).getLast?.or before.getLast? = _
      cases ((f a).run.replies S answer q.1 q.2).getLast? with
      | none => exact iff_of_false (by simp) hbefore
      | some reply => exact Iff.rfl
  | @dispatch a _ =>
    simp only [Attempt.dispatch, ExceptT.run_mk, Walk.carry, Walk.replies]
    cases Dispatched.fault? (p.1.dispatch S.toAudience a).2 <;>
      exact iff_of_false (by rintro ⟨⟩) (by rintro ⟨_, ⟨⟩⟩)
  | wait seconds =>
    simp only [Attempt.wait, ExceptT.run_mk, Walk.carry, Walk.replies]
    cases S.waitFault? seconds (p.1.mapMemory (S.waits seconds)).memory with
    | some fault => exact iff_of_false (by rintro ⟨⟩) (by rintro ⟨_, ⟨⟩⟩)
    | none =>
      obtain ⟨q, interruption⟩ := answer seconds (p.1.mapMemory (S.waits seconds)) p.2
      cases interruption with
      | none => exact iff_of_false (by rintro ⟨⟩) (by rintro ⟨_, ⟨⟩⟩)
      | some e =>
        simp [Walk.replies, Walk.carry]

namespace Interpreter

variable {S} {answer} {I : Interpreter} {actorId address : Datum} {p : Place σ ι τ}

/-- What a run comes to if its blocks have come to this and the flag was cleared. -/
def absorbed : Except Interruption Unit → Except Interruption RunResult
  | .ok () => .ok .complete
  | .error (.failed fault) => .ok (.broken fault)
  | .error .cancelled => .error .cancelled

theorem absorbed_ne_failed (outcome : Except Interruption Unit) (fault : Fault) :
    absorbed outcome ≠ .error (.failed fault) := by
  match outcome with
  | .ok () | .error (.failed _) | .error .cancelled => rintro ⟨⟩

theorem absorbed_eq_cancelled_iff {outcome : Except Interruption Unit} :
    absorbed outcome = .error .cancelled ↔ outcome = .error .cancelled := by
  match outcome with
  | .ok () | .error (.failed _) => exact iff_of_false (by rintro ⟨⟩) (by rintro ⟨⟩)
  | .error .cancelled => exact iff_of_true rfl rfl

/-- To clear the flag is to be answered once, if nothing else is asked for after it. -/
theorem exists_clearing_replies {next : Walk (Except Interruption RunResult)}
    {result : Except Interruption RunResult} (p : Place σ ι τ)
    (hnext : ∀ q : Place σ ι τ, next.replies S answer q.1 q.2 = [] ∧
      (next.carry S answer q.1 q.2).2 = result) :
    ∃ fault?, (clearing next).replies S answer p.1 p.2 = [.dispatched .clearing fault?] ∧
      ((clearing next).carry S answer p.1 p.2).2 =
        match fault? with
        | some fault => .error (.failed fault)
        | none => result := by
  obtain ⟨hreplies, hcarry⟩ := hnext (p.send S .clearing)
  have hdispatched : (clearing next).replies S answer p.1 p.2 =
      .dispatched .clearing (p.sendFault? S .clearing) ::
        match p.sendFault? S .clearing with
        | some _ => []
        | none => next.replies S answer (p.send S .clearing).1 p.2 := by
    simp only [clearing, Walk.replies, Place.sendFault?, Place.send, Action.clearing]
    cases Dispatched.fault? (p.1.dispatch S.toAudience (.setRunning (.bool false))).2 <;> rfl
  have hfault : p.sendFault? S (.setRunning (.bool false)) = p.sendFault? S .clearing := rfl
  refine ⟨p.sendFault? S .clearing, ?_⟩
  rw [hdispatched, clearing_carry, hfault]
  cases p.sendFault? S .clearing with
  | some fault => exact ⟨rfl, rfl⟩
  | none => exact ⟨congrArg (_ :: ·) hreplies, hcarry⟩

/-- The end of a run is answered once, on the clearing of the flag. -/
theorem exists_finish_replies (answer : Company σ ι τ) (actorId : Datum)
    (outcome : Except Interruption Unit) (p : Place σ ι τ) :
    ∃ fault?, (finish actorId outcome).replies S answer p.1 p.2 =
        [.dispatched .clearing fault?] ∧
      ((finish actorId outcome).carry S answer p.1 p.2).2 =
        match fault? with
        | some fault => .error (.failed fault)
        | none => absorbed outcome := by
  match outcome with
  | .ok () => exact exists_clearing_replies ({ p.1 with status := .done }, p.2) fun q => ⟨rfl, rfl⟩
  | .error (.failed fault) =>
    let told := S.notify "Error running animation"
      (S.log ("[Interpreter] run failed for " ++ actorId.label ++ ": " ++ fault.message) p.1.memory)
    exact exists_clearing_replies ({ p.1 with status := .failed, memory := told }, p.2) fun q =>
      ⟨rfl, rfl⟩
  | .error .cancelled =>
    exact exists_clearing_replies ({ p.1 with status := .failed }, p.2) fun q => ⟨rfl, rfl⟩

/-- A run that is not refused is answered while it goes through its blocks, and once at its end. -/
theorem run_replies {a : Actor} (haccept : accept p.1.state p.1.status address = .ok a) :
    (I.run address).replies S answer p.1 p.2 =
      let actorId := p.1.state.addressee address
      let walked := (I.animate actorId a).run.carry S answer (p.begun S actorId).1 p.2
      (I.animate actorId a).run.replies S answer (p.begun S actorId).1 p.2 ++
        (finish actorId walked.2).replies S answer walked.1.1 walked.1.2 := by
  simp only [run, Walk.replies, haccept]
  exact Walk.replies_bind S answer _ _ _ _

/-- **A run comes to a result** whatever fails on the way, with one exception: it fails just in case
the last that it is answered is that the clearing of the flag failed. It is called off just in case
the last wait was, and then the flag was cleared. -/
theorem run_raises_iff (I : Interpreter) (S : Surroundings σ ι) (answer : Company σ ι τ)
    (p : Place σ ι τ) (address : Datum) :
    let outcome := ((I.run address).carry S answer p.1 p.2).2
    let replies := (I.run address).replies S answer p.1 p.2
    (∀ fault, outcome = .error (.failed fault) ↔
      replies.getLast? = some (.dispatched .clearing (some fault))) ∧
    (outcome = .error .cancelled ↔ ∃ before seconds, replies =
      before ++ [.waited seconds (some .cancelled), .dispatched .clearing none]) := by
  intro outcome replies
  cases haccept : accept p.1.state p.1.status address with
  | error cause =>
    have houtcome : outcome = .ok (.refused cause) := run_refused_iff.mpr haccept
    have hreplies : replies = [] := by
      simp only [replies, run, Walk.replies, haccept]
      cases cause.notice? <;> rfl
    rw [houtcome, hreplies]
    refine ⟨fun fault => iff_of_false (by rintro ⟨⟩) (by rintro ⟨⟩), iff_of_false (by rintro ⟨⟩) ?_⟩
    rintro ⟨before, seconds, h⟩
    simp at h
  | ok a =>
    let actorId := p.1.state.addressee address
    let walked := (I.animate actorId a).run.carry S answer (p.begun S actorId).1 p.2
    obtain ⟨fault?, hreplies, houtcome⟩ :=
      exists_finish_replies (S := S) answer actorId walked.2 walked.1
    have hcancelled := (I.animate_made actorId a).cancelled_iff S answer (p.begun S actorId)
    have houtcome' : outcome = _ := (congrArg Prod.snd (run_carry haccept)).trans houtcome
    have hreplies' : replies = _ :=
      (run_replies haccept).trans (congrArg (_ ++ ·) hreplies)
    rw [houtcome', hreplies']
    cases fault? with
    | some fault =>
      refine ⟨fun other => by simp, iff_of_false (by rintro ⟨⟩) ?_⟩
      rintro ⟨before, seconds, h⟩
      have hlast := congrArg List.getLast? h
      simp at hlast
    | none =>
      refine ⟨fun fault => iff_of_false (absorbed_ne_failed _ fault) (by simp), ?_⟩
      rw [absorbed_eq_cancelled_iff]
      refine hcancelled.trans ⟨?_, ?_⟩
      · rintro ⟨seconds, hlast⟩
        obtain ⟨before, hbefore⟩ := List.getLast?_eq_some_iff.mp hlast
        exact ⟨before, seconds, (congrArg (· ++ _) hbefore).trans (List.append_assoc _ _ _)⟩
      · rintro ⟨before, seconds, h⟩
        have hbefore := List.append_cancel_right (h.trans
          (List.append_assoc before [.waited seconds (some .cancelled)] [_]).symm)
        exact ⟨seconds, List.getLast?_eq_some_iff.mpr ⟨before, hbefore⟩⟩

/-- The pacer comes to the end of its program, and then a listener fails on the clearing of the
flag: the run raises that failure, instead of coming to a result. -/
theorem pacer_raises :
    ¬ ∀ (I : Interpreter) (R : RehearsalRoom Rehearsal Onlooker) (sc : Scene Rehearsal Onlooker)
        (plan : Plan) (address : Datum),
      (∃ result, (R.run I address sc plan).2 = .ok result) ∨
        (R.run I address sc plan).2 = .error .cancelled := by
  intro h
  have hraises : (Rehearsal.recorded.run { spare := 0 } (.str "") pacerScene []).2 =
      .error (.failed Rehearsal.listenerFault) := by decide +kernel
  obtain ⟨result, hresult⟩ | hcancelled :=
    h { spare := 0 } Rehearsal.recorded pacerScene [] (.str "")
  · cases hraises.symm.trans hresult
  · cases hraises.symm.trans hcancelled

end Interpreter

end SpriteStage
