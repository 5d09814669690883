import SpriteStage.Proofs.Store.Quiet

/-!
# The trail of a walk

What can be seen of a walk that is carried through to its end: the blocks that it began, with what
the store held and the clock showed then, and what it asked for, that is, actions and waits, in
order (`Walk.trail`). An attempt *leads* from one place to another if it is carried there, leaves a
trail on the way and comes to an outcome; `Leads` has one rule for each thing that an attempt can
do. The rules are for calm surroundings, in which no listener or wait fails; the company that a walk
has while it waits may act on the store.
-/

namespace SpriteStage

/-- The beginning of a block, in the form that it had then. -/
structure Start where
  /-- What the store held. -/
  snapshot : Snapshot
  /-- What the clock showed. -/
  time : Number
  block : Block

/-- What a walk asks for. -/
inductive Request where
  | action (action : Action)
  | wait (seconds : Datum)

/-- What can be seen of a walk. -/
inductive Footprint where
  /-- It began a block. -/
  | began (start : Start)
  /-- It asked for something. -/
  | asked (request : Request)

namespace Footprint

/-- The beginning of a block that is seen, if it is one. -/
def start? : Footprint → Option Start
  | began start => some start
  | asked _ => none

/-- What is seen to be asked for, if it is that. -/
def request? : Footprint → Option Request
  | began _ => none
  | asked request => some request

/-- The blocks that were begun, in order. -/
def starts (trail : List Footprint) : List Start := trail.filterMap start?

/-- What was asked for, in order. -/
def requests (trail : List Footprint) : List Request := trail.filterMap request?

@[simp] theorem starts_append (t t' : List Footprint) : starts (t ++ t') = starts t ++ starts t' :=
  List.filterMap_append

@[simp] theorem requests_append (t t' : List Footprint) :
    requests (t ++ t') = requests t ++ requests t' :=
  List.filterMap_append

@[simp] theorem starts_cons_began (start : Start) (t : List Footprint) :
    starts (.began start :: t) = start :: starts t := rfl

@[simp] theorem requests_cons_began (start : Start) (t : List Footprint) :
    requests (.began start :: t) = requests t := rfl

@[simp] theorem starts_asked (rs : List Request) : starts (rs.map .asked) = [] := by
  induction rs with
  | nil => rfl
  | cons r rs ih => exact ih

@[simp] theorem requests_asked (rs : List Request) : requests (rs.map .asked) = rs := by
  induction rs with
  | nil => rfl
  | cons r rs ih => exact congrArg (r :: ·) ih

end Footprint

/-- Those who act while a walk waits and then answer the wait, keeping account in a `τ`. -/
abbrev Company (σ ι τ : Type) :=
  Datum → Scene σ ι → τ → (Scene σ ι × τ) × Option Interruption

variable {σ ι τ α β : Type} [DecidableEq ι] (S : Surroundings σ ι) (answer : Company σ ι τ)

namespace Walk

/-- What can be seen of a walk that is carried through to its end. -/
def trail : Walk α → Scene σ ι → τ → List Footprint
  | .done _, _, _ => []
  | .look next, sc, t => trail (next sc.state sc.status) sc t
  | .begin block next, sc, t => .began ⟨sc.state, S.now sc.memory, block⟩ :: trail next sc t
  | .dispatch action next, sc, t =>
    let (sc, dispatched) := sc.dispatch S.toAudience action
    .asked (.action action) :: trail (next (Dispatched.fault? dispatched)) sc t
  | .wait seconds next, sc, t =>
    let sc := sc.mapMemory (S.waits seconds)
    .asked (.wait seconds) ::
      match S.waitFault? seconds sc.memory with
      | some fault => trail (next (some (.failed fault))) sc t
      | none =>
        let ((sc, t), interruption) := answer seconds sc t
        trail (next interruption) sc t
  | .clock next, sc, t => trail (next (S.now sc.memory)) sc t
  | .enter status next, sc, t => trail next { sc with status } t
  | .log line next, sc, t => trail next (sc.mapMemory (S.log line)) t
  | .notify text next, sc, t => trail next (sc.mapMemory (S.notify text)) t

theorem carry_bind (w : Walk α) (f : α → Walk β) (sc : Scene σ ι) (t : τ) :
    (w.bind f).carry S answer sc t =
      (f (w.carry S answer sc t).2).carry S answer (w.carry S answer sc t).1.1
        (w.carry S answer sc t).1.2 := by
  induction w generalizing sc t with
  | done value => rfl
  | look next ih => exact ih ..
  | begin block next ih => exact ih ..
  | dispatch action next ih => exact ih ..
  | wait seconds next ih =>
    simp only [Walk.bind, carry]
    cases S.waitFault? seconds (sc.mapMemory (S.waits seconds)).memory with
    | some fault => exact ih ..
    | none => exact ih ..
  | clock next ih => exact ih ..
  | enter status next ih => exact ih ..
  | log line next ih => exact ih ..
  | notify text next ih => exact ih ..

theorem trail_bind (w : Walk α) (f : α → Walk β) (sc : Scene σ ι) (t : τ) :
    (w.bind f).trail S answer sc t =
      w.trail S answer sc t ++
        (f (w.carry S answer sc t).2).trail S answer (w.carry S answer sc t).1.1
          (w.carry S answer sc t).1.2 := by
  induction w generalizing sc t with
  | done value => rfl
  | look next ih => exact ih ..
  | begin block next ih => exact congrArg (_ :: ·) (ih ..)
  | dispatch action next ih => exact congrArg (_ :: ·) (ih ..)
  | wait seconds next ih =>
    simp only [Walk.bind, carry, trail, List.cons_append]
    cases S.waitFault? seconds (sc.mapMemory (S.waits seconds)).memory with
    | some fault => exact congrArg (_ :: ·) (ih ..)
    | none => exact congrArg (_ :: ·) (ih ..)
  | clock next ih => exact ih ..
  | enter status next ih => exact ih ..
  | log line next ih => exact ih ..
  | notify text next ih => exact ih ..

/-- The time of a start is one that the clock showed. -/
theorem time_of_mem_starts (w : Walk α) (sc : Scene σ ι) (t : τ) {start : Start}
    (h : start ∈ Footprint.starts (w.trail S answer sc t)) :
    ∃ memory, start.time = S.now memory := by
  induction w generalizing sc t with
  | done value => cases h
  | look next ih => exact ih _ _ _ _ h
  | begin block next ih =>
    rcases List.mem_cons.mp h with rfl | h
    · exact ⟨sc.memory, rfl⟩
    · exact ih _ _ h
  | dispatch action next ih => exact ih _ _ _ h
  | wait seconds next ih =>
    simp only [trail] at h
    cases hfault : S.waitFault? seconds (sc.mapMemory (S.waits seconds)).memory with
    | some fault => rw [hfault] at h; exact ih _ _ _ h
    | none => rw [hfault] at h; exact ih _ _ _ h
  | clock next ih => exact ih _ _ _ h
  | enter status next ih => exact ih _ _ h
  | log line next ih => exact ih _ _ h
  | notify text next ih => exact ih _ _ h

end Walk

/-! ### Calm surroundings -/

/-- Listeners are quiet, and no wait fails. -/
structure Surroundings.Calm : Prop where
  quiet : S.toAudience.Quiet
  waits : ∀ seconds memory, S.waitFault? seconds memory = none

/-- Surroundings in which nobody listens, and where the clock stands still. -/
def Surroundings.silent : Surroundings Unit Unit where
  hear _ _ _ memory := (memory, .done)
  log _ memory := memory
  notify _ memory := memory
  waits _ memory := memory
  now _ := .float 0.0

theorem Surroundings.silent_calm : silent.Calm := ⟨fun _ _ _ _ => .done, fun _ _ => rfl⟩

/-- Nobody does anything during a wait. -/
def Company.nobody : Company σ ι τ := fun _ sc t => ((sc, t), none)

/-- Waits are answered without an interruption, and meanwhile others do to the snapshot only what
`others` allows. -/
def Company.Within (others : Snapshot → Snapshot → Prop) : Prop :=
  ∀ seconds (sc : Scene σ ι) t, sc.store.Keeps →
    (answer seconds sc t).2 = none ∧ (answer seconds sc t).1.1.store.Keeps ∧
      others sc.state (answer seconds sc t).1.1.state

/-- The store of the scene holds this snapshot, and has a limit that can be kept. -/
structure At (s : Snapshot) (p : Scene σ ι × τ) : Prop where
  state : p.1.state = s
  keeps : p.1.store.Keeps

/-- From one place, an attempt is carried to another; `trail` is what is seen of it, and `outcome`
what it comes to. -/
structure Leads (x : Attempt α) (p : Scene σ ι × τ) (trail : List Footprint) (p' : Scene σ ι × τ)
    (outcome : Except Interruption α) : Prop where
  carry : x.run.carry S answer p.1 p.2 = (p', outcome)
  trail : x.run.trail S answer p.1 p.2 = trail

namespace Leads

variable {S} {answer} {x : Attempt α} {f : α → Attempt β} {p p' p'' : Scene σ ι × τ}
  {l l' : List Footprint} {s : Snapshot}

theorem pure (a : α) (p : Scene σ ι × τ) : Leads S answer (pure a) p [] p (.ok a) := ⟨rfl, rfl⟩

theorem throw (e : Interruption) (p : Scene σ ι × τ) :
    Leads S answer (throw e : Attempt α) p [] p (.error e) := ⟨rfl, rfl⟩

theorem bind {a : α} {r : Except Interruption β} (hx : Leads S answer x p l p' (.ok a))
    (hf : Leads S answer (f a) p' l' p'' r) : Leads S answer (x >>= f) p (l ++ l') p'' r := by
  constructor
  · refine (Walk.carry_bind S answer x.run (ExceptT.bindCont f) p.1 p.2).trans ?_
    rw [hx.carry]
    exact hf.carry
  · refine (Walk.trail_bind S answer x.run (ExceptT.bindCont f) p.1 p.2).trans ?_
    rw [hx.carry, hx.trail]
    exact congrArg (l ++ ·) hf.trail

theorem bind_silent {a : α} {r : Except Interruption β} (hx : Leads S answer x p [] p' (.ok a))
    (hf : Leads S answer (f a) p' l p'' r) : Leads S answer (x >>= f) p l p'' r := hx.bind hf

theorem bind_error {e : Interruption} (hx : Leads S answer x p l p' (.error e)) :
    Leads S answer (x >>= f) p l p' (.error e) := by
  constructor
  · refine (Walk.carry_bind S answer x.run (ExceptT.bindCont f) p.1 p.2).trans ?_
    rw [hx.carry]
    rfl
  · refine (Walk.trail_bind S answer x.run (ExceptT.bindCont f) p.1 p.2).trans ?_
    rw [hx.carry, hx.trail]
    exact List.append_nil l

theorem ofExcept_ok {d : Except Fault α} {a : α} (h : d = .ok a) (p : Scene σ ι × τ) :
    Leads S answer (Attempt.ofExcept d) p [] p (.ok a) := by
  rw [h]; exact .pure a p

theorem ofExcept_error {d : Except Fault α} {fault : Fault} (h : d = .error fault)
    (p : Scene σ ι × τ) :
    Leads S answer (Attempt.ofExcept d) p [] p (.error (.failed fault)) := by
  rw [h]; exact .throw _ p

theorem snapshot (hp : At s p) : Leads S answer Attempt.snapshot p [] p (.ok s) :=
  ⟨congrArg (fun s => (p, Except.ok s)) hp.state, rfl⟩

theorem begin (hp : At s p) (b : Block) :
    Leads S answer (Attempt.begin b) p [.began ⟨s, S.now p.1.memory, b⟩] p (.ok ()) :=
  ⟨rfl, congrArg (fun s => [Footprint.began ⟨s, S.now p.1.memory, b⟩]) hp.state⟩

theorem clock (p : Scene σ ι × τ) :
    Leads S answer Attempt.clock p [] p (.ok (S.now p.1.memory)) := ⟨rfl, rfl⟩

theorem log (hp : At s p) (line : String) :
    ∃ p', Leads S answer (Attempt.log line) p [] p' (.ok ()) ∧ At s p' :=
  ⟨(p.1.mapMemory (S.log line), p.2), ⟨rfl, rfl⟩, hp.state, hp.keeps⟩

theorem notify (hp : At s p) (text : String) :
    ∃ p', Leads S answer (Attempt.notify text) p [] p' (.ok ()) ∧ At s p' :=
  ⟨(p.1.mapMemory (S.notify text), p.2), ⟨rfl, rfl⟩, hp.state, hp.keeps⟩

theorem dispatch (calm : S.Calm) (hp : At s p) {a : Action} (ha : s.fault? a = none) :
    ∃ p', Leads S answer (Attempt.dispatch a) p [.asked (.action a)] p' (.ok ()) ∧
      At (s.after a) p' := by
  obtain ⟨hstate, hlimit, hfault⟩ := Audience.dispatch_quiet calm.quiet a hp.keeps
  have hs : p.1.store.state = s := hp.state
  rw [hs] at hstate hfault
  refine ⟨((p.1.dispatch S.toAudience a).1, p.2), ⟨?_, ?_⟩, hstate, ?_⟩
  · simp only [Attempt.dispatch, ExceptT.run_mk, Walk.carry, Scene.dispatch, hfault, ha]
  · simp only [Attempt.dispatch, ExceptT.run_mk, Walk.trail, Scene.dispatch, hfault, ha]
  · exact (congrArg Store.limitFault? hlimit).trans hp.keeps

theorem wait {others : Snapshot → Snapshot → Prop} (calm : S.Calm) (within : answer.Within others)
    (hp : At s p) (seconds : Datum) :
    ∃ p' s', Leads S answer (Attempt.wait seconds) p [.asked (.wait seconds)] p' (.ok ()) ∧
      At s' p' ∧ others s s' := by
  obtain ⟨hnone, hkeeps, hothers⟩ :=
    within seconds (p.1.mapMemory (S.waits seconds)) p.2 hp.keeps
  refine ⟨(answer seconds (p.1.mapMemory (S.waits seconds)) p.2).1, _, ⟨?_, ?_⟩, ⟨rfl, hkeeps⟩, ?_⟩
  · simp only [Attempt.wait, ExceptT.run_mk, Walk.carry, calm.waits, hnone]
  · simp only [Attempt.wait, ExceptT.run_mk, Walk.trail, calm.waits, hnone]
  · rw [← hp.state]
    exact hothers

end Leads

end SpriteStage
