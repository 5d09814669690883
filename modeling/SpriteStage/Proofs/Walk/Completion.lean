import SpriteStage.Rehearsal
import SpriteStage.Proofs.Walk.Course

/-!
# Completion

When a walk is complete is said here without the interpreter: its opening steps are granted, and
then so is all that its blocks ask for, each block in the form that it has in the store when its
turn comes (`Interpreter.Completes`). The interpreter comes to the end of its blocks in just that
case (`Interpreter.animate_comes_iff`), and however it ends, the running flag is cleared, the status
says whether the blocks were completed, and nothing of the run stands in the way of the next
(`Interpreter.run_never_stuck`).
-/

namespace SpriteStage

/-- Where a walk has got to: the scene, and the account that its company keeps. -/
abbrev Place (σ ι τ : Type) := Scene σ ι × τ

variable {σ ι τ α β : Type} [DecidableEq ι] (S : Surroundings σ ι) (answer : Company σ ι τ)

namespace Place

/-- The place after a dispatch. -/
def send (a : Action) (p : Place σ ι τ) : Place σ ι τ := ((p.1.dispatch S.toAudience a).1, p.2)

/-- The failure of a dispatch. -/
def sendFault? (a : Action) (p : Place σ ι τ) : Option Fault :=
  Dispatched.fault? (p.1.dispatch S.toAudience a).2

omit [DecidableEq ι] in
/-- The place with a change to what is remembered. -/
def mapMemory (f : σ → σ) (p : Place σ ι τ) : Place σ ι τ := (p.1.mapMemory f, p.2)

omit [DecidableEq ι] in
/-- The place at which a run for an actor begins. -/
def begun (actorId : Datum) (p : Place σ ι τ) : Place σ ι τ :=
  ({ p.1 with
      status := .running
      memory := S.log ("[Interpreter] run started for " ++ actorId.label) p.1.memory }, p.2)

end Place

/-- All requests are granted, one after the other: no dispatch fails, and no wait is interrupted. -/
inductive Granted : List Request → Place σ ι τ → Place σ ι τ → Prop
  | nil {p : Place σ ι τ} : Granted [] p p
  | action {a : Action} {rest : List Request} {p p' : Place σ ι τ} :
      p.sendFault? S a = none → Granted rest (p.send S a) p' → Granted (.action a :: rest) p p'
  | wait {seconds : Datum} {rest : List Request} {p p₁ p' : Place σ ι τ} :
      S.waitFault? seconds (S.waits seconds p.1.memory) = none →
      answer seconds (p.1.mapMemory (S.waits seconds)) p.2 = (p₁, none) →
      Granted rest p₁ p' → Granted (.wait seconds :: rest) p p'

namespace Interpreter

variable (I : Interpreter) (actorId : Datum)

/-- All blocks are done, one after the other, with room for `room` repetitions inside each other. A
block is done in the form that the store has for it when its turn comes. -/
inductive Completed : Nat → List Block → Place σ ι τ → Place σ ι τ → Prop
  | nil {room : Nat} {p : Place σ ι τ} : Completed room [] p p
  /-- A block of a kind that is not known is noted in the log, which names the kind. -/
  | skip {room : Nat} {b c : Block} {kind : String} {rest : List Block} {p p' : Place σ ι τ} :
      p.1.state.current actorId b = c → BlockKind.ofDatum c.kind = .ok none →
      c.kind.written = .ok kind →
      Completed room rest (p.mapMemory
        (S.log ("[Interpreter] skipping unknown block kind " ++ kind))) p' →
      Completed room (b :: rest) p p'
  /-- A block that repeats nothing is done if all that it asks for is granted. -/
  | leaf {room : Nat} {b c : Block} {rest : List Block} {kind : BlockKind}
      {requests : List Request} {p p₁ p' : Place σ ι τ} :
      p.1.state.current actorId b = c → BlockKind.ofDatum c.kind = .ok (some kind) →
      kind ≠ .loop → I.leaf actorId p.1.state (S.now p.1.memory) c = .ok requests →
      Granted S answer requests p p₁ → Completed room rest p₁ p' → Completed room (b :: rest) p p'
  /-- A repetition is done if its children are, as often as it says. -/
  | loop {room n : Nat} {b c : Block} {rest : List Block} {p p₁ p' : Place σ ι τ} :
      p.1.state.current actorId b = c → BlockKind.ofDatum c.kind = .ok (some .loop) →
      count c = .ok n → Completed room (List.replicate n c.children).flatten p p₁ →
      Completed (room + 1) rest p₁ p' → Completed (room + 1) (b :: rest) p p'

/-- The moves of the first two visible actors are turned, if at least two actors can move, and this
is made known. -/
def Preflight (p p' : Place σ ι τ) : Prop :=
  match pairToSwap? p.1.state with
  | none => p' = p
  | some (a, b) => ∃ p₁, Granted S answer [.action (.swapMoves a.id b.id)] p p₁ ∧
    p' = p₁.mapMemory fun memory =>
      S.notify "Sprites collided! Animation directions swapped!"
        (S.log ("[Interpreter] pre-flight swap " ++ a.id.label ++ " <-> " ++ b.id.label) memory)

/-- The opening steps of a run are granted: the flag is set, all actors are put to the start, and
the moves of two actors are turned if they should be. -/
def Opened (p p' : Place σ ι τ) : Prop :=
  ∃ p₁, Granted S answer [.action (.setRunning (.bool true)),
      .action (.resetActors (.float 0.0) (.float 0.0) I.home)] p p₁ ∧
    Preflight S answer p₁ p'

/-- The opening steps of a run are granted, and then all blocks of the actor are done. -/
def Completes (a : Actor) (p p' : Place σ ι τ) : Prop :=
  ∃ p₁, Opened S answer I p p₁ ∧
    Completed S answer I actorId (Forest.depth a.blocks + I.spare) a.blocks p₁ p'

end Interpreter

/-! ### What an attempt comes to -/

/-- From one place, an attempt is carried to another and comes to a value there. -/
def Attempt.Comes (x : Attempt α) (p : Place σ ι τ) (a : α) (p' : Place σ ι τ) : Prop :=
  x.run.carry S answer p.1 p.2 = (p', .ok a)

namespace Attempt

open Interpreter (Completed)

variable {S} {answer} {p p' : Place σ ι τ}

theorem comes_bind {x : Attempt α} {f : α → Attempt β} {b : β} :
    Comes S answer (x >>= f) p b p' ↔
      ∃ a p₁, Comes S answer x p a p₁ ∧ Comes S answer (f a) p₁ b p' := by
  have hbind : (x >>= f).run.carry S answer p.1 p.2 =
      (ExceptT.bindCont f (x.run.carry S answer p.1 p.2).2).carry S answer
        (x.run.carry S answer p.1 p.2).1.1 (x.run.carry S answer p.1 p.2).1.2 :=
    Walk.carry_bind S answer x.run (ExceptT.bindCont f) p.1 p.2
  unfold Comes
  rw [hbind]
  obtain ⟨p₁, outcome⟩ := x.run.carry S answer p.1 p.2
  cases outcome with
  | error e => exact ⟨fun h => (by cases congrArg Prod.snd h), fun ⟨_, _, h, _⟩ => by cases h⟩
  | ok a =>
    refine ⟨fun h => ⟨a, p₁, rfl, h⟩, fun ⟨_, _, h, h'⟩ => ?_⟩
    cases h
    exact h'

theorem comes_pure {a b : α} : Comes S answer (pure a) p b p' ↔ b = a ∧ p' = p := by
  refine ⟨fun h => ?_, fun ⟨ha, hp⟩ => by rw [ha, hp]; rfl⟩
  cases h
  exact ⟨rfl, rfl⟩

theorem not_comes_throw {e : Interruption} {a : α} :
    ¬ Comes S answer (throw e : Attempt α) p a p' := fun h => by cases congrArg Prod.snd h

theorem comes_ofExcept {d : Except Fault α} {a : α} :
    Comes S answer (ofExcept d) p a p' ↔ d = .ok a ∧ p' = p := by
  cases d with
  | error fault => exact ⟨fun h => (not_comes_throw h).elim, fun ⟨h, _⟩ => by cases h⟩
  | ok b =>
    refine comes_pure.trans ⟨fun ⟨ha, hp⟩ => ⟨by rw [ha], hp⟩, fun ⟨h, hp⟩ => ⟨?_, hp⟩⟩
    cases h
    rfl

/-- What has to be computed first has to come to a value. -/
theorem comes_ofExcept_bind {d : Except Fault α} {f : α → Attempt β} {b : β} :
    Comes S answer (ofExcept d >>= f) p b p' ↔ ∃ a, d = .ok a ∧ Comes S answer (f a) p b p' := by
  rw [comes_bind]
  constructor
  · rintro ⟨a, p₁, hx, hf⟩
    obtain ⟨ha, rfl⟩ := comes_ofExcept.mp hx
    exact ⟨a, ha, hf⟩
  · rintro ⟨a, ha, hf⟩
    exact ⟨a, p, comes_ofExcept.mpr ⟨ha, rfl⟩, hf⟩

/-- What is carried to a value at once can be left out. -/
theorem comes_bind_of_carry {x : Attempt α} {a : α} {p₁ : Place σ ι τ}
    (hx : x.run.carry S answer p.1 p.2 = (p₁, .ok a)) {f : α → Attempt β} {b : β} :
    Comes S answer (x >>= f) p b p' ↔ Comes S answer (f a) p₁ b p' := by
  rw [comes_bind]
  refine ⟨fun ⟨_, _, h, hf⟩ => ?_, fun hf => ⟨a, p₁, hx, hf⟩⟩
  cases hx.symm.trans h
  exact hf

theorem comes_snapshot_bind {f : Snapshot → Attempt β} {b : β} :
    Comes S answer (snapshot >>= f) p b p' ↔ Comes S answer (f p.1.state) p b p' :=
  comes_bind_of_carry rfl

/-- A dispatch and what comes after it. -/
theorem comes_dispatch {a : Action} {u : Unit} :
    Comes S answer (dispatch a) p u p' ↔ p.sendFault? S a = none ∧ p' = p.send S a := by
  unfold Comes
  simp only [dispatch, ExceptT.run_mk, Walk.carry, Place.sendFault?, Place.send]
  cases Dispatched.fault? (p.1.dispatch S.toAudience a).2 with
  | none =>
    constructor
    · intro h
      cases h
      exact ⟨rfl, rfl⟩
    · rintro ⟨-, rfl⟩
      rfl
  | some fault =>
    constructor
    · intro h
      cases congrArg Prod.snd h
    · rintro ⟨h, -⟩
      cases h

theorem comes_wait {seconds : Datum} {u : Unit} :
    Comes S answer (wait seconds) p u p' ↔
      S.waitFault? seconds (S.waits seconds p.1.memory) = none ∧
        answer seconds (p.1.mapMemory (S.waits seconds)) p.2 = (p', none) := by
  unfold Comes
  simp only [wait, ExceptT.run_mk, Walk.carry, Scene.mapMemory]
  cases S.waitFault? seconds (S.waits seconds p.1.memory) with
  | some fault =>
    constructor
    · intro h
      cases congrArg Prod.snd h
    · rintro ⟨h, -⟩
      cases h
  | none =>
    obtain ⟨p₁, interruption⟩ :=
      answer seconds { p.1 with memory := S.waits seconds p.1.memory } p.2
    cases interruption with
    | some e =>
      constructor
      · intro h
        cases congrArg Prod.snd h
      · rintro ⟨-, h⟩
        cases h
    | none =>
      constructor
      · intro h
        cases h
        exact ⟨rfl, rfl⟩
      · rintro ⟨-, h⟩
        cases h
        rfl

/-! ### Requests -/

/-- An attempt asks for what a computation says: it comes to its end if that has a value and all of
it is granted. -/
def Asks (S : Surroundings σ ι) (answer : Company σ ι τ) (x : Attempt Unit)
    (d : Except Fault (List Request)) (p : Place σ ι τ) : Prop :=
  ∀ p', Comes S answer x p () p' ↔ ∃ requests, d = .ok requests ∧ Granted S answer requests p p'

theorem asks_nothing : Asks S answer (pure ()) (.ok []) p := by
  intro p'
  rw [comes_pure]
  constructor
  · rintro ⟨-, rfl⟩
    exact ⟨[], rfl, .nil⟩
  · rintro ⟨_, h, hg⟩
    cases h
    cases hg
    exact ⟨rfl, rfl⟩

theorem asks_compute {d : Except Fault α} {f : α → Attempt Unit}
    {g : α → Except Fault (List Request)} (h : ∀ a, Asks S answer (f a) (g a) p) :
    Asks S answer (ofExcept d >>= f) (d >>= g) p := by
  intro p'
  rw [comes_ofExcept_bind]
  cases d with
  | error fault => exact ⟨fun ⟨_, ha, _⟩ => (by cases ha), fun ⟨_, ha, _⟩ => (by cases ha)⟩
  | ok a =>
    refine Iff.trans ⟨fun ⟨_, ha, hf⟩ => ?_, fun hf => ⟨a, rfl, hf⟩⟩ (h a p')
    cases ha
    exact hf

theorem granted_action_iff {a : Action} {rest : List Request} :
    Granted S answer (.action a :: rest) p p' ↔
      p.sendFault? S a = none ∧ Granted S answer rest (p.send S a) p' := by
  refine ⟨fun h => ?_, fun ⟨ha, hr⟩ => .action ha hr⟩
  cases h with
  | action ha hr => exact ⟨ha, hr⟩

theorem granted_wait_iff {seconds : Datum} {rest : List Request} :
    Granted S answer (.wait seconds :: rest) p p' ↔
      ∃ p₁, Comes S answer (wait seconds) p () p₁ ∧ Granted S answer rest p₁ p' := by
  constructor
  · intro h
    cases h with
    | wait hf ha hr => exact ⟨_, comes_wait.mpr ⟨hf, ha⟩, hr⟩
  · rintro ⟨p₁, hw, hr⟩
    obtain ⟨hf, ha⟩ := comes_wait.mp hw
    exact .wait hf ha hr

theorem granted_nil_iff : Granted S answer [] p p' ↔ p' = p := by
  refine ⟨fun h => ?_, fun h => h ▸ .nil⟩
  cases h
  rfl

/-- One action is granted if its dispatch comes to an end. -/
theorem comes_dispatch_iff_granted {a : Action} :
    Comes S answer (dispatch a) p () p' ↔ Granted S answer [.action a] p p' := by
  rw [comes_dispatch, granted_action_iff, granted_nil_iff]

theorem comes_dispatch_bind {a : Action} {f : Unit → Attempt β} {b : β} :
    Comes S answer (dispatch a >>= f) p b p' ↔
      p.sendFault? S a = none ∧ Comes S answer (f ()) (p.send S a) b p' := by
  rw [comes_bind]
  constructor
  · rintro ⟨_, p₁, hx, hf⟩
    obtain ⟨hnone, rfl⟩ := comes_dispatch.mp hx
    exact ⟨hnone, hf⟩
  · rintro ⟨hnone, hf⟩
    exact ⟨(), _, comes_dispatch.mpr ⟨hnone, rfl⟩, hf⟩

theorem comes_wait_bind {seconds : Datum} {f : Unit → Attempt β} {b : β} :
    Comes S answer (wait seconds >>= f) p b p' ↔
      ∃ p₁, Comes S answer (wait seconds) p () p₁ ∧ Comes S answer (f ()) p₁ b p' := by
  rw [comes_bind]
  exact ⟨fun ⟨_, p₁, hx, hf⟩ => ⟨p₁, hx, hf⟩, fun ⟨p₁, hx, hf⟩ => ⟨(), p₁, hx, hf⟩⟩

/-- Requests that are already known. -/
theorem asks_of_iff {x : Attempt Unit} {requests : List Request}
    (h : ∀ p', Comes S answer x p () p' ↔ Granted S answer requests p p') :
    Asks S answer x (.ok requests) p := by
  intro p'
  rw [h]
  refine ⟨fun hg => ⟨requests, rfl, hg⟩, fun ⟨_, hr, hg⟩ => ?_⟩
  cases hr
  exact hg

/-- A change of the walked actor and a wait. -/
theorem asks_stride (actorId : Datum) (changes : Fields) (seconds : Datum) :
    Asks S answer (do Interpreter.change actorId changes; wait seconds)
      (.ok [Interpreter.toChange actorId changes, .wait seconds]) p := by
  refine asks_of_iff fun p' => ?_
  rw [Interpreter.change, comes_dispatch_bind, Interpreter.toChange, granted_action_iff,
    granted_wait_iff]
  simp only [granted_nil_iff, exists_eq_right']

/-- A change of the walked actor, a wait and another change. -/
theorem asks_bubble (actorId : Datum) (before after : Fields) (seconds : Datum) :
    Asks S answer (do
        Interpreter.change actorId before
        wait seconds
        Interpreter.change actorId after)
      (.ok [Interpreter.toChange actorId before, .wait seconds,
        Interpreter.toChange actorId after]) p := by
  refine asks_of_iff fun p' => ?_
  rw [Interpreter.change, comes_dispatch_bind, Interpreter.toChange, granted_action_iff,
    granted_wait_iff, comes_wait_bind]
  simp only [Interpreter.change, comes_dispatch_iff_granted, Interpreter.toChange]

end Attempt

namespace Interpreter

open Attempt (Comes Asks asks_compute asks_stride asks_bubble asks_nothing)

variable {S} {answer} {I : Interpreter} {actorId : Datum} {p p' : Place σ ι τ} {b : Block}

/-! ### What a block comes to -/

theorem move_asks (hk : b.kind? = some .move) :
    Asks S answer (I.move actorId b) (I.leaf actorId p.1.state (S.now p.1.memory) b) p := by
  unfold move leaf
  rw [hk]
  intro p'
  rw [Attempt.comes_snapshot_bind]
  revert p'
  cases p.1.state.actor? actorId with
  | none => exact asks_nothing
  | some a => exact asks_compute fun steps => asks_compute fun (x, y) => asks_stride _ _ _

theorem turn_asks (hk : b.kind? = some .turn) :
    Asks S answer (I.turn actorId b) (I.leaf actorId p.1.state (S.now p.1.memory) b) p := by
  unfold turn leaf
  rw [hk]
  intro p'
  rw [Attempt.comes_snapshot_bind]
  revert p'
  cases p.1.state.actor? actorId with
  | none => exact asks_nothing
  | some a => exact asks_compute fun degrees => asks_compute fun direction => asks_stride _ _ _

theorem goto_asks (hk : b.kind? = some .goto) :
    Asks S answer (I.goto actorId b) (I.leaf actorId p.1.state (S.now p.1.memory) b) p := by
  unfold goto leaf
  rw [hk]
  exact asks_compute fun x => asks_compute fun y => asks_stride _ _ _

theorem speak_asks (hk : b.kind? = some .say ∨ b.kind? = some .think) :
    Asks S answer (speak actorId b) (I.leaf actorId p.1.state (S.now p.1.memory) b) p := by
  unfold speak leaf
  rcases hk with hk | hk <;> rw [hk]
  all_goals
    refine asks_compute fun seconds => asks_compute fun text => ?_
    intro p'
    rw [Attempt.comes_bind_of_carry (show Attempt.clock.run.carry S answer p.1 p.2 = _ from rfl)]
    revert p'
    exact asks_compute fun expiresAt => asks_bubble _ _ _ _

/-- A block that repeats nothing asks for what its leaf asks for. -/
theorem handle_asks {kind : BlockKind} (hk : b.kind? = some kind) (hl : kind ≠ .loop) :
    Asks S answer (I.handle actorId b kind) (I.leaf actorId p.1.state (S.now p.1.memory) b) p := by
  cases kind with
  | move => exact move_asks hk
  | turn => exact turn_asks hk
  | goto => exact goto_asks hk
  | loop => exact absurd rfl hl
  | say => exact speak_asks (.inl hk)
  | think => exact speak_asks (.inr hk)

theorem kind?_of_ofDatum {kind : BlockKind} (h : BlockKind.ofDatum b.kind = .ok (some kind)) :
    b.kind? = some kind := by
  unfold Block.kind?
  cases hb : b.kind with
  | str name => rw [hb] at h; exact Except.ok.inj h
  | num n => rw [hb] at h; cases Except.ok.inj h
  | null | bool | list | object => rw [hb] at h; cases h

/-- What can come to an end does so by one block after the other. -/
theorem completed_cons_iff {room : Nat} {rest : List Block} :
    Completed S answer I actorId room (b :: rest) p p' ↔
      ∃ p₁, Completed S answer I actorId room [b] p p₁ ∧
        Completed S answer I actorId room rest p₁ p' := by
  constructor
  · intro h
    cases h with
    | skip hc hk hwritten hrest => exact ⟨_, .skip hc hk hwritten .nil, hrest⟩
    | leaf hc hk hl hleaf hg hrest => exact ⟨_, .leaf hc hk hl hleaf hg .nil, hrest⟩
    | loop hc hk hn hbody hrest => exact ⟨_, .loop hc hk hn hbody .nil, hrest⟩
  · rintro ⟨p₁, hb, hrest⟩
    cases hb with
    | skip hc hk hwritten hnil => cases hnil; exact .skip hc hk hwritten hrest
    | leaf hc hk hl hleaf hg hnil => cases hnil; exact .leaf hc hk hl hleaf hg hrest
    | loop hc hk hn hbody hnil => cases hnil; exact .loop hc hk hn hbody hrest

theorem completed_nil_iff {room : Nat} :
    Completed S answer I actorId room [] p p' ↔ p' = p := by
  refine ⟨fun h => ?_, fun h => h ▸ .nil⟩
  cases h
  rfl

theorem completed_append_iff {room : Nat} {blocks rest : List Block} :
    Completed S answer I actorId room (blocks ++ rest) p p' ↔
      ∃ p₁, Completed S answer I actorId room blocks p p₁ ∧
        Completed S answer I actorId room rest p₁ p' := by
  induction blocks generalizing p with
  | nil => simp [completed_nil_iff]
  | cons b blocks ih =>
    rw [List.cons_append]
    constructor
    · intro h
      obtain ⟨p₁, hb, h⟩ := completed_cons_iff.mp h
      obtain ⟨p₂, h, h'⟩ := ih.mp h
      exact ⟨p₂, completed_cons_iff.mpr ⟨p₁, hb, h⟩, h'⟩
    · rintro ⟨p₂, h, h'⟩
      obtain ⟨p₁, hb, h⟩ := completed_cons_iff.mp h
      exact completed_cons_iff.mpr ⟨p₁, hb, ih.mpr ⟨p₂, h, h'⟩⟩

/-- The blocks of a list come to their end if each of them does. -/
theorem each_comes_iff {body : Block → Attempt Unit} {room : Nat}
    (hbody : ∀ {b} {p p' : Place σ ι τ},
      Comes S answer (body b) p () p' ↔ Completed S answer I actorId room [b] p p')
    (blocks : List Block) :
    Comes S answer (Attempt.each body blocks) p () p' ↔
      Completed S answer I actorId room blocks p p' := by
  induction blocks generalizing p with
  | nil =>
    rw [completed_nil_iff]
    exact Attempt.comes_pure.trans (and_iff_right rfl)
  | cons b rest ih =>
    rw [completed_cons_iff]
    refine Attempt.comes_bind.trans ⟨fun ⟨_, p₁, hb, hrest⟩ => ?_, fun ⟨p₁, hb, hrest⟩ => ?_⟩
    · exact ⟨p₁, hbody.mp hb, ih.mp hrest⟩
    · exact ⟨(), p₁, hbody.mpr hb, ih.mpr hrest⟩

/-- To do blocks some times over is to do that many copies of them. -/
theorem times_comes_iff {body : Attempt Unit} {room : Nat} {blocks : List Block}
    (hbody : ∀ {p p' : Place σ ι τ},
      Comes S answer body p () p' ↔ Completed S answer I actorId room blocks p p') (n : Nat) :
    Comes S answer (Attempt.times n body) p () p' ↔
      Completed S answer I actorId room (List.replicate n blocks).flatten p p' := by
  induction n generalizing p with
  | zero =>
    rw [List.replicate_zero, List.flatten_nil, completed_nil_iff]
    exact Attempt.comes_pure.trans (and_iff_right rfl)
  | succ n ih =>
    rw [List.replicate_succ, List.flatten_cons, completed_append_iff]
    refine Attempt.comes_bind.trans ⟨fun ⟨_, p₁, hb, hrest⟩ => ?_, fun ⟨p₁, hb, hrest⟩ => ?_⟩
    · exact ⟨p₁, hbody.mp hb, ih.mp hrest⟩
    · exact ⟨(), p₁, hbody.mpr hb, ih.mpr hrest⟩

/-- How a repetition is to come to its end. -/
def Repeated (S : Surroundings σ ι) (answer : Company σ ι τ) (I : Interpreter) (actorId : Datum) :
    Nat → Block → Place σ ι τ → Place σ ι τ → Prop
  | 0, _, _, _ => False
  | room + 1, b, p, p' => ∃ n, count b = .ok n ∧
      Completed S answer I actorId room (List.replicate n b.children).flatten p p'

theorem latest_bind_iff {f : Block → Attempt Unit} :
    Comes S answer (latest actorId b >>= f) p () p' ↔
      Comes S answer (f (p.1.state.current actorId b)) p () p' :=
  Attempt.comes_bind_of_carry rfl

theorem begin_bind_iff {f : Unit → Attempt Unit} :
    Comes S answer (Attempt.begin b >>= f) p () p' ↔ Comes S answer (f ()) p () p' :=
  Attempt.comes_bind_of_carry rfl

/-- A step comes to its end as its block is to, if repetitions do. -/
theorem step_comes_iff_of_iterate {room : Nat}
    (hiterate : ∀ {b} {p p' : Place σ ι τ}, Comes S answer (I.iterate actorId room b) p () p' ↔
      Repeated S answer I actorId room b p p') :
    Comes S answer (I.step actorId room b) p () p' ↔
      Completed S answer I actorId room [b] p p' := by
  rw [step_eq, latest_bind_iff, Attempt.comes_ofExcept_bind]
  generalize hc : p.1.state.current actorId b = c
  constructor
  · rintro ⟨kind, hk, h⟩
    match kind, hk, h with
    | none, hk, h =>
      obtain ⟨written, hwritten, hlog⟩ := Attempt.comes_ofExcept_bind.mp h
      cases hlog
      exact .skip hc hk hwritten .nil
    | some kind, hk, h =>
      have h : Comes S answer (I.attend actorId room c kind) p () p' := begin_bind_iff.mp h
      by_cases hl : kind = .loop
      · subst hl
        have hr : Repeated S answer I actorId room c p p' := hiterate.mp h
        match room, hr with
        | room + 1, ⟨n, hn, hbody⟩ => exact .loop hc hk hn hbody .nil
      · rw [attend, if_neg hl] at h
        obtain ⟨requests, hleaf, hg⟩ := (handle_asks (kind?_of_ofDatum hk) hl p').mp h
        exact .leaf hc hk hl hleaf hg .nil
  · intro h
    cases h with
    | skip hc' hk hwritten hnil =>
      obtain rfl := hc.symm.trans hc'
      cases hnil
      exact ⟨none, hk, Attempt.comes_ofExcept_bind.mpr ⟨_, hwritten, rfl⟩⟩
    | @leaf _ _ _ _ kind _ _ _ _ hc' hk hl hleaf hg hnil =>
      obtain rfl := hc.symm.trans hc'
      cases hnil
      refine ⟨some kind, hk, begin_bind_iff.mpr ?_⟩
      rw [attend, if_neg hl]
      exact (handle_asks (kind?_of_ofDatum hk) hl p').mpr ⟨_, hleaf, hg⟩
    | @loop room n _ _ _ _ _ _ hc' hk hn hbody hnil =>
      obtain rfl := hc.symm.trans hc'
      cases hnil
      refine ⟨some .loop, hk, begin_bind_iff.mpr ?_⟩
      exact hiterate.mpr ⟨n, hn, hbody⟩

theorem step_comes_iff {room : Nat} :
    Comes S answer (I.step actorId room b) p () p' ↔
      Completed S answer I actorId room [b] p p' := by
  induction room generalizing b p p' with
  | zero =>
    refine step_comes_iff_of_iterate ⟨fun h => ?_, False.elim⟩
    obtain ⟨n, -, hthrow⟩ := Attempt.comes_ofExcept_bind.mp h
    exact Attempt.not_comes_throw hthrow
  | succ room ih =>
    refine step_comes_iff_of_iterate ?_
    intro b p p'
    refine Attempt.comes_ofExcept_bind.trans (exists_congr fun n => and_congr_right fun _ => ?_)
    exact times_comes_iff (fun {p p'} => each_comes_iff ih b.children) n

/-! ### From the opening to the last block -/

theorem log_bind_iff {line : String} {f : Unit → Attempt Unit} :
    Comes S answer (Attempt.log line >>= f) p () p' ↔
      Comes S answer (f ()) (p.mapMemory (S.log line)) () p' :=
  Attempt.comes_bind_of_carry rfl

theorem notify_comes_iff {text : String} :
    Comes S answer (Attempt.notify text) p () p' ↔ p' = p.mapMemory (S.notify text) := by
  refine ⟨fun h => ?_, fun h => h ▸ rfl⟩
  cases h
  rfl

/-- The turning of two actors before the blocks comes to its end as it is to. -/
theorem swapFirst_comes_iff : Comes S answer swapFirst p () p' ↔ Preflight S answer p p' := by
  rw [swapFirst, Attempt.comes_snapshot_bind, Preflight]
  cases pairToSwap? p.1.state with
  | none => exact Attempt.comes_pure.trans (and_iff_right rfl)
  | some pair =>
    obtain ⟨a, b⟩ := pair
    simp only [Attempt.comes_dispatch_bind, log_bind_iff, notify_comes_iff,
      Attempt.granted_action_iff, Attempt.granted_nil_iff]
    exact ⟨fun ⟨hnone, hp⟩ => ⟨_, ⟨hnone, rfl⟩, hp⟩, fun ⟨_, ⟨hnone, h⟩, hp⟩ => ⟨hnone, h ▸ hp⟩⟩

/-- **The interpreter comes to the end of its blocks** just in case they are complete. -/
theorem animate_comes_iff {a : Actor} :
    Comes S answer (I.animate actorId a) p () p' ↔ Completes S answer I actorId a p p' := by
  rw [animate, Attempt.comes_dispatch_bind, Attempt.comes_dispatch_bind, Attempt.comes_bind]
  simp only [Completes, Opened, Attempt.granted_action_iff, Attempt.granted_nil_iff]
  constructor
  · rintro ⟨hset, hreset, _, p₁, hswap, hblocks⟩
    exact ⟨p₁, ⟨_, ⟨hset, hreset, rfl⟩, swapFirst_comes_iff.mp hswap⟩,
      (each_comes_iff step_comes_iff a.blocks).mp hblocks⟩
  · rintro ⟨p₁, ⟨_, ⟨hset, hreset, rfl⟩, hswap⟩, hblocks⟩
    exact ⟨hset, hreset, (), p₁, swapFirst_comes_iff.mpr hswap,
      (each_comes_iff step_comes_iff a.blocks).mpr hblocks⟩

/-! ### What a run comes to -/

/-- A run that is not refused begins, goes through its blocks and is finished. -/
theorem run_carry {address : Datum} {a : Actor}
    (haccept : accept p.1.state p.1.status address = .ok a) :
    (I.run address).carry S answer p.1 p.2 =
      let actorId := p.1.state.addressee address
      let walked := (I.animate actorId a).run.carry S answer (p.begun S actorId).1 p.2
      (finish actorId walked.2).carry S answer walked.1.1 walked.1.2 := by
  simp only [run, Walk.carry, haccept]
  exact Walk.carry_bind S answer _ _ _ _

theorem clearing_carry {next : Walk (Except Interruption α)} (p : Place σ ι τ) :
    (clearing next).carry S answer p.1 p.2 =
      match p.sendFault? S (.setRunning (.bool false)) with
      | some fault => (p.send S (.setRunning (.bool false)), .error (.failed fault))
      | none => next.carry S answer (p.send S (.setRunning (.bool false))).1 p.2 := by
  simp only [clearing, Walk.carry, Place.sendFault?, Place.send]
  cases Dispatched.fault? (p.1.dispatch S.toAudience (.setRunning (.bool false))).2 <;> rfl

/-- How the interpreter stands when its blocks have come to this. -/
def statusAfter : Except Interruption Unit → Status
  | .ok () => .done
  | .error _ => .failed

/-- What is still to be done when the flag has been cleared: no more than to speak of it. -/
structure Remains (S : Surroundings σ ι) (answer : Company σ ι τ)
    (next : Walk (Except Interruption RunResult)) : Prop where
  state : ∀ q : Place σ ι τ, (next.carry S answer q.1 q.2).1.1.state = q.1.state
  status : ∀ q : Place σ ι τ, (next.carry S answer q.1 q.2).1.1.status = q.1.status
  begun : ∀ (q : Place σ ι τ) cause, (next.carry S answer q.1 q.2).2 ≠ .ok (.refused cause)

/-- However the blocks have ended, the status is set, the flag is cleared, and no more than words
remain. -/
theorem exists_finish_carry (outcome : Except Interruption Unit) (p : Place σ ι τ) :
    ∃ (q : Place σ ι τ) (next : Walk (Except Interruption RunResult)),
      (finish actorId outcome).carry S answer p.1 p.2 =
        (clearing next).carry S answer q.1 q.2 ∧
      q.1.state = p.1.state ∧ q.1.status = statusAfter outcome ∧ Remains S answer next := by
  match outcome with
  | .ok () =>
    refine ⟨({ p.1 with status := .done }, p.2),
      .log ("[Interpreter] run finished for " ++ actorId.label) <|
        .notify "Animation complete!" <| .done (.ok .complete), rfl, rfl, rfl, ?_⟩
    exact ⟨fun _ => rfl, fun _ => rfl, fun _ _ h => by cases h⟩
  | .error (.failed fault) =>
    refine ⟨({ p.1 with
        status := .failed
        memory := S.notify "Error running animation"
          (S.log ("[Interpreter] run failed for " ++ actorId.label ++ ": " ++ fault.message)
            p.1.memory) }, p.2), .done (.ok (.broken fault)), rfl, rfl, rfl, ?_⟩
    exact ⟨fun _ => rfl, fun _ => rfl, fun _ _ h => by cases h⟩
  | .error .cancelled =>
    refine ⟨({ p.1 with status := .failed }, p.2), .done (.error .cancelled), rfl, rfl, rfl, ?_⟩
    exact ⟨fun _ => rfl, fun _ => rfl, fun _ _ h => by cases h⟩

/-- What has been begun is not refused any more. -/
theorem finish_not_refused (outcome : Except Interruption Unit) (p : Place σ ι τ)
    (cause : RunRefusal) :
    ((finish actorId outcome).carry S answer p.1 p.2).2 ≠ .ok (.refused cause) := by
  obtain ⟨q, next, hfinish, -, -, hnext⟩ := exists_finish_carry outcome p
  rw [hfinish, clearing_carry]
  cases q.sendFault? S (.setRunning (.bool false)) with
  | some fault => exact nofun
  | none => exact hnext.begun (q.send S (.setRunning (.bool false))) cause

/-- A run is refused just in case it is not accepted, and for the same cause. -/
theorem run_refused_iff {address : Datum} {cause : RunRefusal} :
    ((I.run address).carry S answer p.1 p.2).2 = .ok (.refused cause) ↔
      accept p.1.state p.1.status address = .error cause := by
  cases haccept : accept p.1.state p.1.status address with
  | error cause' =>
    have houtcome : ((I.run address).carry S answer p.1 p.2).2 = .ok (.refused cause') := by
      simp only [run, Walk.carry, haccept]
      cases cause'.notice? <;> rfl
    rw [houtcome]
    refine ⟨fun h => ?_, fun h => ?_⟩ <;> cases h <;> rfl
  | ok a =>
    rw [run_carry haccept]
    constructor
    · intro h
      exact (finish_not_refused _ _ _ h).elim
    · intro h
      cases h

theorem send_state (aloof : S.toAudience.Aloof) (a : Action) (p : Place σ ι τ) :
    (p.send S a).1.state = p.1.state.after a :=
  Audience.dispatch_state aloof a p.1.toHall

/-- Whatever the blocks have come to, the end of a run clears the flag, even if a listener fails
then, and the status says whether the blocks came to their end. -/
theorem finish_clears (answer : Company σ ι τ) (actorId : Datum) (aloof : S.toAudience.Aloof)
    (outcome : Except Interruption Unit) (p : Place σ ι τ) :
    ((finish actorId outcome).carry S answer p.1 p.2).1.1.state.running = false ∧
      ((finish actorId outcome).carry S answer p.1 p.2).1.1.status = statusAfter outcome := by
  obtain ⟨q, next, hfinish, -, hstatus, hnext⟩ := exists_finish_carry outcome p
  let cleared := q.send S (.setRunning (.bool false))
  have hcleared : cleared.1.state.running = false := by
    rw [send_state aloof]
    rfl
  rw [hfinish, clearing_carry]
  cases q.sendFault? S (.setRunning (.bool false)) with
  | some fault => exact ⟨hcleared, hstatus⟩
  | none =>
    exact ⟨(congrArg Snapshot.running (hnext.state cleared)).trans hcleared,
      (hnext.status cleared).trans hstatus⟩

/-- **The stage is never stuck running.** Whatever listeners fail, so long as they dispatch nothing
themselves, and whatever others do while it waits, a run that is not refused leaves the flag cleared
and the status at `done` if all its blocks were completed and at `failed` if not, however it ends;
and the next request for a run is not refused because one is under way. -/
theorem run_never_stuck (I : Interpreter) (answer : Company σ ι τ) (aloof : S.toAudience.Aloof)
    {p : Place σ ι τ} {address : Datum} {a : Actor}
    (haccept : accept p.1.state p.1.status address = .ok a) :
    let actorId := p.1.state.addressee address
    let after := ((I.run address).carry S answer p.1 p.2).1
    after.1.state.running = false ∧
      ((∃ p', Completes S answer I actorId a (p.begun S actorId) p') → after.1.status = .done) ∧
      ((¬ ∃ p', Completes S answer I actorId a (p.begun S actorId) p') →
        after.1.status = .failed) ∧
      ∀ {τ' : Type} (J : Interpreter) (S' : Surroundings σ ι) (answer' : Company σ ι τ')
        (address' : Datum) (t' : τ'),
        ((J.run address').carry S' answer' after.1 t').2 ≠ .ok (.refused .alreadyRunning) := by
  intro actorId after
  let walked := (I.animate actorId a).run.carry S answer (p.begun S actorId).1 p.2
  have hafter : after = ((finish actorId walked.2).carry S answer walked.1.1 walked.1.2).1 :=
    congrArg Prod.fst (run_carry haccept)
  obtain ⟨hrunning, hstatus⟩ := finish_clears answer actorId aloof walked.2 walked.1
  rw [← hafter] at hrunning hstatus
  -- the blocks were completed just in case the walk came to its end
  have hcompletes : (∃ p', Completes S answer I actorId a (p.begun S actorId) p') ↔
      walked.2 = .ok () := by
    refine ⟨fun ⟨p', h⟩ => congrArg Prod.snd (animate_comes_iff.mpr h), fun h => ?_⟩
    exact ⟨walked.1, animate_comes_iff.mp (Prod.ext rfl h)⟩
  have hfinished : after.1.status ≠ .running := by
    rw [hstatus]
    cases walked.2 <;> nofun
  refine ⟨hrunning, fun h => ?_, fun h => ?_, fun J S' answer' address' t' hrefused => ?_⟩
  · rw [hstatus, hcompletes.mp h]
    rfl
  · rw [hstatus]
    cases hw : walked.2 with
    | ok u => exact absurd (hcompletes.mpr hw) h
    | error e => rfl
  · have hcause := (run_refused_iff (p := (after.1, t'))).mp hrefused
    have haccept' : accept after.1.state after.1.status address' ≠ .error .alreadyRunning := by
      rw [accept, hrunning, if_neg (by simpa using hfinished)]
      cases after.1.state.addressed? address' with
      | none => nofun
      | some b => simp only; split_ifs <;> nofun
    exact haccept' hcause

/-! ### A run that is called off and cannot end in peace -/

/-- An actor that is to go to one and the same place twice. -/
def pacer : Actor where
  id := .str "pacer"
  name := .str "Pacer"
  blocks := [{
    id := .str "twice"
    kind := .str "repeat"
    params := .object [("times", .num (.int 2))]
    children := [{
      id := .str "there"
      kind := .str "goto"
      params := .object [("x", .float 5.0), ("y", .float 5.0)] }] }]

/-- The pacer alone on a stage where a listener fails on the clearing of the flag. -/
def pacerScene : Scene Rehearsal Onlooker where
  store := {
    state := { actors := [pacer], activeActorId := pacer.id }
    listeners := [.recorder, .breaker] }
  memory := {
    journal := {}
    now := .int 0
    breakage := some { name := "SetRunning", number := some 1 } }

end Interpreter

theorem Rehearsal.recorded_aloof : recorded.toAudience.Aloof := by
  intro listener t store r
  cases listener with
  | recorder => exact .done
  | breaker =>
    simp only [recorded, hear]
    split_ifs
    · exact .raise _
    · exact .done

namespace Interpreter

/-- The run of the pacer is called off while it waits inside its repetition, and then a listener
fails on the clearing of the flag; the flag is cleared all the same. -/
theorem pacer_never_stuck :
    let I : Interpreter := { spare := 0 }
    let R := Rehearsal.recorded
    let p : Place Rehearsal Onlooker Plan := (pacerScene, [[.cancel]])
    let carried := (I.run (.str "")).carry R.toSurroundings R.answer p.1 p.2
    accept p.1.state p.1.status (.str "") = .ok pacer ∧
      carried.2 = .error (.failed Rehearsal.listenerFault) ∧
      carried.1.1.state.running = false ∧ carried.1.1.status = .failed ∧
      ((I.run (.str "")).carry R.toSurroundings R.answer carried.1.1 []).2 ≠
        .ok (.refused .alreadyRunning) := by
  intro I R p carried
  have haccept : accept p.1.state p.1.status (.str "") = .ok pacer := rfl
  obtain ⟨hrunning, -, hfailed, hnext⟩ :=
    run_never_stuck I R.answer Rehearsal.recorded_aloof haccept
  refine ⟨haccept, by decide +kernel, hrunning, hfailed ?_,
    hnext I R.toSurroundings R.answer (.str "") []⟩
  rintro ⟨p', hcompletes⟩
  have hwalked : ((I.animate pacer.id pacer).run.carry R.toSurroundings R.answer
      (p.begun R.toSurroundings pacer.id).1 p.2).2 = .error .cancelled := by decide +kernel
  have hok := congrArg Prod.snd (animate_comes_iff.mpr hcompletes)
  cases hwalked.symm.trans hok

end Interpreter

end SpriteStage
