import SpriteStage.Proofs.Forest.Standing
import SpriteStage.Proofs.Snapshot.Distinct
import SpriteStage.Proofs.Walk.Agenda
import SpriteStage.Proofs.Walk.Bubble
import SpriteStage.Proofs.Walk.Only
import SpriteStage.Proofs.Walk.Visit
import SpriteStage.Rehearsal

/-!
# Runs come to an end

A run looks each block up when its turn comes, so the blocks on its agenda may have been put
elsewhere since, be gone, or stand for larger trees than before. It comes to an end all the same, if
others act only so many times, and if in the program of the actor no identifier ever occurs twice
(`Interpreter.run_terminates`).

Each wait uses up an act of the others, and until then the program keeps its shape (`Abides`). A
block that stands in such a program leads only to blocks that stand further back in it
(`Interpreter.passes_children`). One that does not stand there is done as it was seen last, and so
is what is below it, up to the blocks that stand in the program after all (`Interpreter.passes`).
That others bring in no block with an identifier twice in itself is enough for no program to have
one twice (`Interpreter.distinctPrograms_of_mem_starts`).
-/

namespace SpriteStage

namespace Snapshot

variable {s s' : Snapshot}

/-- The program of an actor; there is none if nobody is there. -/
def program (s : Snapshot) (actorId : Datum) : Forest := ((s.actor? actorId).map (·.blocks)).getD []

theorem current_eq (s : Snapshot) (actorId : Datum) (b : Block) :
    s.current actorId b = (Forest.find? b.id (s.program actorId)).getD b := by
  rw [current, program]
  cases s.actor? actorId <;> rfl

theorem DistinctPrograms.after {action : Action} (h : s.DistinctPrograms)
    (haction : Forest.Distinct action.brought) : (s.after action).DistinctPrograms := by
  rw [Snapshot.after]
  split
  · rename_i hattempt
    exact (distinctPrograms_of_attempt h hattempt).mpr haction
  · exact h

theorem DistinctPrograms.program (h : s.DistinctPrograms) (actorId : Datum) :
    Forest.Distinct (s.program actorId) := by
  rw [Snapshot.program]
  cases ha : s.actor? actorId with
  | none => exact .nil
  | some a => exact h a (mem_of_actor? ha)

/-- Programs that keep their shapes do so whoever they are looked up for. -/
theorem Match.shape_program (h : s.Match Actor.SameShape s') (actorId : Datum) :
    Forest.shape (s'.program actorId) = Forest.shape (s.program actorId) := by
  have hback : s'.Match (fun b a => a.SameShape b) s :=
    h.flip.imp fun _ _ hab => ⟨hab.1.symm, hab.2⟩
  rw [program, program]
  cases ha : s.actor? actorId with
  | some a =>
    obtain ⟨b, hb, hab⟩ := h.actor? ha
    rw [hb]
    exact hab
  | none =>
    cases hb : s'.actor? actorId with
    | none => rfl
    | some b =>
      obtain ⟨a, ha', -⟩ := hback.actor? hb
      cases ha.symm.trans ha'

end Snapshot

namespace Action

/-- Whatever the snapshot, the action leaves the actors and the shapes of their programs as they
are. -/
def KeepsShapes (a : Action) : Prop := ∀ s : Snapshot, s.Match Actor.SameShape (s.after a)

theorem OfBlock.keepsShapes {a : Action} {actorId : Datum} (h : a.OfBlock actorId) :
    a.KeepsShapes := by
  obtain ⟨changes, rfl⟩ : ∃ changes, a = .updateActor actorId changes := by
    cases h <;> exact ⟨_, rfl⟩
  exact fun s => Snapshot.match_updateActor (fun _ _ => Actor.sameShape_of_eq) s actorId changes

end Action

variable {σ ι α : Type} {actorId : Datum}

/-! ### Between two acts of others -/

/-- From the one place to the other, something of the plan was used up, or the program of the actor
has kept its shape. -/
def Abides (actorId : Datum) (p p' : Place σ ι Plan) : Prop :=
  p'.2.length < p.2.length ∨
    p'.2.length = p.2.length ∧
      Forest.shape (p'.1.state.program actorId) = Forest.shape (p.1.state.program actorId)

namespace Abides

variable {p p' p'' : Place σ ι Plan}

theorem of_state (hplan : p'.2 = p.2) (hstate : p'.1.state = p.1.state) : Abides actorId p p' :=
  .inr ⟨by rw [hplan], by rw [hstate]⟩

theorem refl (p : Place σ ι Plan) : Abides actorId p p := of_state rfl rfl

theorem length_le (h : Abides actorId p p') : p'.2.length ≤ p.2.length :=
  h.elim Nat.le_of_lt fun h => Nat.le_of_eq h.1

theorem trans (h : Abides actorId p p') (h' : Abides actorId p' p'') : Abides actorId p p'' := by
  obtain hlt | ⟨hlength, hshape⟩ := h
  · exact .inl (Nat.lt_of_le_of_lt h'.length_le hlt)
  · obtain hlt | ⟨hlength', hshape'⟩ := h'
    · exact .inl (hlength ▸ hlt)
    · exact .inr ⟨hlength'.trans hlength, hshape'.trans hshape⟩

end Abides

variable [DecidableEq ι] {R : RehearsalRoom σ ι}

namespace RehearsalRoom

/-- A wait uses up one entry of the plan. -/
theorem answer_plan (R : RehearsalRoom σ ι) (seconds : Datum) (sc : Scene σ ι) (plan : Plan) :
    (R.answer seconds sc plan).1.2 = plan.tail := by
  unfold answer
  split
  · rfl
  · split <;> rfl

theorem answer_state (R : RehearsalRoom σ ι) (seconds : Datum) (sc : Scene σ ι) (plan : Plan) :
    (R.answer seconds sc plan).1.1.state = (R.disturb (plan.headD []) sc).1.state := by
  unfold answer
  generalize R.disturb (plan.headD []) sc = disturbed
  obtain ⟨sc, interruption⟩ := disturbed
  cases interruption with
  | some interruption => rfl
  | none =>
    dsimp only
    split <;> rfl

end RehearsalRoom

/-- All that others dispatch according to the plan is of a kind. -/
def Plan.Within (P : Action → Prop) (plan : Plan) : Prop :=
  ∀ entry ∈ plan, ∀ action, Disturbance.dispatch action ∈ entry → P action

namespace Abides

/-- A dispatch keeps shapes if the action does and what listeners dispatch. -/
theorem dispatch (hR : R.toAudience.Within Action.KeepsShapes) {a : Action} (ha : a.KeepsShapes)
    (p : Place σ ι Plan) : Abides actorId p ((p.1.dispatch R.toAudience a).1, p.2) := by
  let J (s : Snapshot) : Prop :=
    Forest.shape (s.program actorId) = Forest.shape (p.1.state.program actorId)
  have hJ {s : Snapshot} {a : Action} (ha : a.KeepsShapes) (hs : J s) : J (s.after a) :=
    ((ha s).shape_program actorId).trans hs
  exact .inr ⟨rfl, Scene.dispatch_preserves (J := J) hR hJ (hJ ha rfl)⟩

/-- A wait uses something of the plan up, or nothing happens meanwhile. -/
theorem answer (R : RehearsalRoom σ ι) (seconds : Datum) (p : Place σ ι Plan) :
    Abides actorId p (R.answer seconds p.1 p.2).1 := by
  obtain ⟨sc, plan⟩ := p
  have hplan := R.answer_plan seconds sc plan
  cases plan with
  | nil => exact of_state hplan (R.answer_state seconds sc [])
  | cons entry plan =>
    refine .inl ?_
    rw [hplan]
    exact Nat.lt_succ_self plan.length

end Abides

/-- What a block does abides by the shape of the program, whatever it sees and is answered. -/
theorem Attempt.Made.abides (hR : R.toAudience.Within Action.KeepsShapes) {x : Attempt α}
    (hx : x.Made (Action.OfBlock actorId)) (p : Place σ ι Plan) :
    Abides actorId p (x.run.carry R.toSurroundings R.answer p.1 p.2).1 := by
  induction hx generalizing p with
  | pure | fail | snapshot | begin | clock => exact .refl p
  | log | notify => exact .of_state rfl rfl
  | @bind _ _ x f _ _ ihx ihf =>
    have hp := ihx p
    rw [carry_bind]
    generalize x.run.carry R.toSurroundings R.answer p.1 p.2 = carried at hp ⊢
    obtain ⟨q, outcome⟩ := carried
    cases outcome with
    | error e => exact hp
    | ok a => exact hp.trans (ihf a q)
  | dispatch ha =>
    have hp : Abides actorId p _ := .dispatch hR ha.keepsShapes p
    simp only [Attempt.dispatch, ExceptT.run_mk, Walk.carry]
    split <;> exact hp
  | wait seconds =>
    let q : Place σ ι Plan := (p.1.mapMemory (R.waits seconds), p.2)
    have hq : Abides actorId p q := .of_state rfl rfl
    have hp := hq.trans (Abides.answer R seconds q)
    simp only [Attempt.wait, ExceptT.run_mk, Walk.carry]
    cases R.waitFault? seconds (p.1.mapMemory (R.waits seconds)).memory with
    | some fault => exact hq
    | none =>
      dsimp only
      split <;> exact hp

namespace Interpreter

variable {I : Interpreter} {bs f : List Block} {b : Block}

theorem take_made (I : Interpreter) (actorId : Datum) (b : Block) :
    (I.take actorId b).Made (Action.OfBlock actorId) := by
  refine .bind (latest_made actorId b) fun c => .bind (.ofExcept _) fun kind? => ?_
  cases kind? with
  | none => exact .bind (skip_made c) fun _ => .pure _
  | some kind =>
    refine .bind (.begin c) fun _ => ?_
    split_ifs
    · exact .bind (.ofExcept _) fun _ => .pure _
    · exact .bind (I.handle_made actorId c kind) fun _ => .pure _

/-- However much room there is for repetitions inside each other: whenever a block is begun on the
way through the agenda, no identifier occurs twice in the program of the actor. -/
def Orderly (R : RehearsalRoom σ ι) (I : Interpreter) (actorId : Datum) (bs : List Block)
    (p : Place σ ι Plan) : Prop :=
  ∀ room, ∃ tasks, Allotted room bs tasks ∧
    ∀ start ∈ Footprint.starts
        ((I.agenda actorId tasks).run.trail R.toSurroundings R.answer p.1 p.2),
      Forest.Distinct (start.snapshot.program actorId)

/-- What is left of an orderly agenda is orderly, and so is what was done of it. -/
theorem Orderly.next {rest inner : List Block} {p p' : Place σ ι Plan} {l : List Footprint}
    (h : Orderly R I actorId (b :: rest) p)
    (htake : Leads R.toSurroundings R.answer (I.take actorId b) p l p' (.ok inner)) :
    Orderly R I actorId (inner ++ rest) p' ∧
      ∀ start ∈ Footprint.starts l, Forest.Distinct (start.snapshot.program actorId) := by
  have hsplit (room : Nat) : ∃ tasks, Allotted room (inner ++ rest) tasks ∧
      ∀ start ∈ Footprint.starts
          (l ++ (I.agenda actorId tasks).run.trail R.toSurroundings R.answer p'.1 p'.2),
        Forest.Distinct (start.snapshot.program actorId) := by
    obtain ⟨tasks, htasks, hstarts⟩ := h (room + 1)
    obtain ⟨next, hnext, hagenda⟩ := htasks.exists_agenda_eq I actorId
    have hrest := htake.bind (f := fun inner => I.agenda actorId (next inner)) ⟨rfl, rfl⟩
    rw [← hagenda] at hrest
    exact ⟨next inner, hnext inner, hrest.trail ▸ hstarts⟩
  simp only [Footprint.starts_append, List.forall_mem_append] at hsplit
  refine ⟨fun room => ?_, ?_⟩
  · obtain ⟨tasks, htasks, -, hstarts⟩ := hsplit room
    exact ⟨tasks, htasks, hstarts⟩
  · obtain ⟨_, _, hstarts, _⟩ := hsplit 0
    exact hstarts

/-- The agenda is worked off from there. -/
def Ends (R : RehearsalRoom σ ι) (I : Interpreter) (actorId : Datum) (bs : List Block)
    (p : Place σ ι Plan) : Prop :=
  ∃ l p' r, Worked I actorId R.toSurroundings R.answer bs p l p' r

/-- The blocks are done with sooner or later: from every place to which it abides, an agenda
that begins with them is worked off if the rest of it is. -/
def Passes (R : RehearsalRoom σ ι) (I : Interpreter) (actorId : Datum) (p : Place σ ι Plan)
    (f : List Block) : Prop :=
  ∀ rest, (∀ q, Abides actorId p q → Orderly R I actorId rest q → Ends R I actorId rest q) →
    ∀ q, Abides actorId p q → Orderly R I actorId (f ++ rest) q → Ends R I actorId (f ++ rest) q

section

variable {p : Place σ ι Plan}

theorem passes_nil : Passes R I actorId p [] := fun _ hrest => hrest

theorem Passes.append {f g : List Block} (hf : Passes R I actorId p f)
    (hg : Passes R I actorId p g) : Passes R I actorId p (f ++ g) := by
  intro rest hrest
  rw [List.append_assoc]
  exact hf (g ++ rest) (hg rest hrest)

theorem passes_of_forall (h : ∀ b ∈ f, Passes R I actorId p [b]) : Passes R I actorId p f := by
  induction f with
  | nil => exact passes_nil
  | cons b f ih =>
    obtain ⟨hb, hf⟩ := List.forall_mem_cons.mp h
    exact hb.append (ih hf)

theorem Passes.replicate (h : Passes R I actorId p f) (n : Nat) :
    Passes R I actorId p (List.replicate n f).flatten := by
  induction n with
  | zero => exact passes_nil
  | succ n ih => exact h.append ih

/-- The shape of the block that is found under the identifier of a block in the program of the
actor; that of the block itself if there is none. -/
def foundShape (actorId : Datum) (p : Place σ ι Plan) (b : Block) : Block :=
  (Forest.find? b.id (Forest.shape (p.1.state.program actorId))).getD b.shape

omit [DecidableEq ι] in
theorem shape_current {q : Place σ ι Plan}
    (h : Forest.shape (q.1.state.program actorId) = Forest.shape (p.1.state.program actorId))
    (b : Block) : (q.1.state.current actorId b).shape = foundShape actorId p b := by
  rw [foundShape, ← h, Forest.find?_shape, Snapshot.current_eq]
  cases Forest.find? b.id (q.1.state.program actorId) <;> rfl

variable (hR : R.toAudience.Within Action.KeepsShapes)
  (hind : ∀ q : Place σ ι Plan, q.2.length < p.2.length →
    ∀ bs, Orderly R I actorId bs q → Ends R I actorId bs q)
include hR hind

/-- A block is done with if the children of what is found for it are. -/
theorem passes_singleton
    (h : Forest.Distinct (Forest.shape (p.1.state.program actorId)) →
      ∀ c : Block, c.shape = foundShape actorId p b → Passes R I actorId p c.children) :
    Passes R I actorId p [b] := by
  intro rest hrest q hq horderly
  obtain ⟨l, q', r, htake⟩ := Leads.exists_outcome R.toSurroundings R.answer (I.take actorId b) q
  cases r with
  | error e => exact ⟨_, _, _, .halt htake⟩
  | ok inner =>
    obtain ⟨hnext, hstarts⟩ := horderly.next htake
    have habides := (take_made I actorId b).abides hR q
    rw [htake.carry] at habides
    have hends : Ends R I actorId (inner ++ rest) q' := by
      obtain rfl | ⟨n, now, rfl, hbegan, rfl⟩ := exists_of_take htake
      · exact hrest q' (hq.trans habides) hnext
      · -- what was found is of the shape of now, unless others have acted in between
        obtain hlt | ⟨-, hshape⟩ := id hq
        · exact hind q' hlt _ hnext
        · have hdistinct := hstarts _ (List.mem_filterMap.mpr ⟨_, hbegan, rfl⟩)
          have hd : Forest.Distinct (Forest.shape (p.1.state.program actorId)) :=
            Forest.distinct_of_shape_eq (hshape ▸ (Forest.shape_shape _).symm) hdistinct
          exact (h hd _ (shape_current hshape b)).replicate n rest hrest q' hq hnext
    obtain ⟨l', p', r, hworked⟩ := hends
    exact ⟨_, _, _, .next htake hworked⟩

/-- What stands below a block in the program is done with, since all that is found for it comes
later in the program. -/
theorem passes_children {n : Nat} (hd : Forest.Distinct (Forest.shape (p.1.state.program actorId)))
    (hb : Forest.StandsBefore (Forest.shape (p.1.state.program actorId)) n b.shape) :
    Passes R I actorId p b.children := by
  induction n using Nat.strong_induction_on generalizing b with
  | h n ih =>
    refine passes_of_forall fun c hc => passes_singleton hR hind fun _ d hshape => ?_
    have hmem : c.shape ∈ b.shape.children := b.shape_children ▸ Forest.mem_shape hc
    obtain ⟨m, hm, hstands⟩ := hb.child hmem
    obtain ⟨m', hm', hfound⟩ := hd.standsBefore_found hstands
    rw [c.shape_id] at hfound
    exact ih m' (Nat.lt_of_le_of_lt hm' hm) (hshape ▸ hfound)

/-- All blocks are done with: what is found for one stands in the program, and if nothing is found
it is what it was. -/
theorem passes (f : Forest) : Passes R I actorId p f := by
  suffices h : ∀ g, Forest.shape g = Forest.shape f → Passes R I actorId p g from h f rfl
  induction f using Forest.induct with
  | nil =>
    intro g hg
    cases g with
    | nil => exact passes_nil
    | cons c g => cases hg
  | cons b f ihb ihf =>
    intro g hg
    cases g with
    | nil => cases hg
    | cons c g =>
      obtain ⟨hc, hg⟩ := List.cons.inj hg
      refine Passes.append (f := [c]) (passes_singleton hR hind fun hd d hfound => ?_) (ihf g hg)
      unfold foundShape at hfound
      cases hfind : Forest.find? c.id (Forest.shape (p.1.state.program actorId)) with
      | none =>
        rw [hfind] at hfound
        have hshape : d.shape = b.shape := hfound.trans hc
        exact ihb d.children (Block.shape_eq_iff.mp hshape).2.2
      | some e =>
        rw [hfind] at hfound
        obtain ⟨n, hn⟩ := Forest.standsBefore_of_mem (List.mem_of_find?_eq_some hfind)
        have hde : d.shape = e := hfound
        exact passes_children hR hind hd (hde ▸ hn)

end

/-- **Orderly agendas are worked off**: by induction on what is left of the plan. -/
theorem Orderly.ends (hR : R.toAudience.Within Action.KeepsShapes) {p : Place σ ι Plan}
    (h : Orderly R I actorId bs p) : Ends R I actorId bs p := by
  induction hn : p.2.length using Nat.strong_induction_on generalizing bs p with
  | h n ih =>
    subst hn
    have hpasses : Passes R I actorId p bs :=
      passes hR (fun q hq bs hbs => ih q.2.length hq hbs rfl) bs
    have hends := hpasses [] (fun q _ _ => ⟨_, _, _, .nil⟩) p (.refl p)
    rw [List.append_nil] at hends
    exact hends h

end Interpreter

/-! ### Programs that stay free of double identifiers -/

section

variable {P : Action → Prop} {J : Snapshot → Prop} (hR : R.toAudience.Within P)
  (hJ : ∀ {s a}, P a → J s → J (s.after a))
include hR hJ

theorem RehearsalRoom.disturb_preserves {entry : List Disturbance} {sc : Scene σ ι}
    (hentry : ∀ action, Disturbance.dispatch action ∈ entry → P action) (hs : J sc.state) :
    J (R.disturb entry sc).1.state := by
  induction entry generalizing sc with
  | nil => exact hs
  | cons disturbance entry ih =>
    have hrest (action : Action) (h : Disturbance.dispatch action ∈ entry) : P action :=
      hentry action (List.mem_cons_of_mem _ h)
    cases disturbance with
    | dispatch action =>
      have hsent := Scene.dispatch_preserves hR hJ (hJ (hentry action List.mem_cons_self) hs)
      rw [disturb]
      split
      · rename_i hdispatch
        exact ih hrest (by rwa [hdispatch] at hsent)
      · rename_i hdispatch
        rwa [hdispatch] at hsent
    | run address =>
      refine ih hrest ?_
      unfold request
      split <;> exact hs
    | fail fault => exact hs
    | cancel => exact hs

/-- What is preserved by all that walk, listeners and others dispatch, holds whenever a block is
begun if it holds at first. -/
theorem Walk.Only.holds_of_mem_starts {w : Walk α} (hw : w.Only P) {sc : Scene σ ι} {plan : Plan}
    (hplan : plan.Within P) (hs : J sc.state) {start : Start}
    (h : start ∈ Footprint.starts (w.trail R.toSurroundings R.answer sc plan)) :
    J start.snapshot := by
  induction hw generalizing sc plan with
  | done value => cases h
  | look _ ih => exact ih _ _ hplan hs h
  | begin block _ ih =>
    rcases List.mem_cons.mp h with rfl | h
    · exact hs
    · exact ih hplan hs h
  | dispatch ha _ ih => exact ih _ hplan (Scene.dispatch_preserves hR hJ (hJ ha hs)) h
  | wait seconds _ ih =>
    simp only [trail] at h
    cases hfault : R.waitFault? seconds (sc.mapMemory (R.waits seconds)).memory with
    | some fault =>
      rw [hfault] at h
      refine ih _ hplan ?_ h
      exact hs
    | none =>
      rw [hfault] at h
      refine ih _ ?_ ?_ h
      · rw [R.answer_plan]
        exact fun entry hentry => hplan entry (List.mem_of_mem_tail hentry)
      · rw [R.answer_state]
        refine R.disturb_preserves hR hJ (fun action haction => ?_) hs
        cases plan with
        | nil => cases haction
        | cons entry plan => exact hplan entry List.mem_cons_self action haction
  | clock _ ih => exact ih _ hplan hs h
  | enter _ _ ih | log _ _ ih | notify _ _ ih =>
    refine ih hplan ?_ h
    exact hs

end

namespace Interpreter

/-- If listeners and others bring in no block that has an identifier twice in itself, then no
identifier ever occurs twice in a program during the run, provided that none did before. -/
theorem distinctPrograms_of_mem_starts (I : Interpreter) {address : Datum} {sc : Scene σ ι}
    {plan : Plan} (hR : R.toAudience.Within fun a => Forest.Distinct a.brought)
    (hplan : plan.Within fun a => Forest.Distinct a.brought) (hs : sc.state.DistinctPrograms)
    {start : Start}
    (h : start ∈ Footprint.starts ((I.run address).trail R.toSurroundings R.answer sc plan)) :
    start.snapshot.DistinctPrograms := by
  have honly : (I.run address).Only fun a => Forest.Distinct a.brought := by
    refine (run_only I address).mono fun a ha => ?_
    cases ha with
    | flag value => exact .nil
    | played ha =>
      cases ha with
      | start | swap => exact .nil
      | block ha => cases ha <;> exact .nil
  exact honly.holds_of_mem_starts hR (fun ha hs => hs.after ha) hplan hs h

/-! ### Runs -/

variable {I : Interpreter}

/-- A step goes by the room that it is given, not by how much there is to spare. -/
theorem step_spare (I : Interpreter) (spare : Nat) (actorId : Datum) (room : Nat) (b : Block) :
    { I with spare }.step actorId room b = I.step actorId room b := by
  have hhandle (b : Block) (kind : BlockKind) :
      { I with spare }.handle actorId b kind = I.handle actorId b kind := by cases kind <;> rfl
  induction room generalizing b with
  | zero => simp only [step_eq, attend, iterate, hhandle]
  | succ room ih => simp only [step_eq, attend, iterate, hhandle, funext ih]

/-- What a run does before it comes to the program: it sets the flag, puts all actors to the start
and turns the moves of two. -/
def overture (I : Interpreter) : Attempt Unit := do
  Attempt.dispatch (.setRunning (.bool true))
  Attempt.dispatch (.resetActors (.float 0.0) (.float 0.0) I.home)
  swapFirst

/-- After its overture a run does the blocks of the program; the room that it has to spare goes
with each of them. -/
theorem animate_eq (I : Interpreter) (spare : Nat) (actorId : Datum) (a : Actor) :
    { I with spare }.animate actorId a =
      I.overture >>= fun _ =>
        I.agenda actorId (a.blocks.map (Forest.depth a.blocks + spare, ·)) := by
  rw [agenda_map, ← funext (I.step_spare spare actorId (Forest.depth a.blocks + spare)), overture,
    bind_assoc]
  simp only [bind_assoc]
  rfl

/-- What a run does for its actor is the same for all that is enough room to spare. -/
theorem exists_animate_leads (hR : R.toAudience.Within Action.KeepsShapes) {p : Place σ ι Plan}
    {a : Actor}
    (h : ∀ spare, ∀ start ∈ Footprint.starts
      (({ I with spare }.animate actorId a).run.trail R.toSurroundings R.answer p.1 p.2),
      Forest.Distinct (start.snapshot.program actorId)) :
    ∃ n l p' r, ∀ spare ≥ n,
      Leads R.toSurroundings R.answer ({ I with spare }.animate actorId a) p l p' r := by
  simp only [animate_eq] at h ⊢
  obtain ⟨l, q, r, hoverture⟩ := Leads.exists_outcome R.toSurroundings R.answer I.overture p
  cases r with
  | error e => exact ⟨0, _, _, _, fun _ _ => hoverture.bind_error⟩
  | ok _ =>
    have horderly : Orderly R I actorId a.blocks q := by
      intro room
      refine ⟨_, allotted_map (Nat.le_add_left room (Forest.depth a.blocks)) a.blocks, ?_⟩
      intro start hstart
      refine h room start ?_
      have hrest := hoverture.bind (f := fun _ =>
        I.agenda actorId (a.blocks.map (Forest.depth a.blocks + room, ·))) ⟨rfl, rfl⟩
      rw [hrest.trail, Footprint.starts_append]
      exact List.mem_append_right _ hstart
    obtain ⟨l', p', r, hworked⟩ := horderly.ends hR
    obtain ⟨n, hn⟩ := hworked.leads
    refine ⟨n, _, _, _, fun spare hspare => hoverture.bind (hn _ ?_)⟩
    exact allotted_map (Nat.le_add_left_of_le hspare) a.blocks

/-- A run that is not refused does what there is to be done for its actor, and then it is finished.
-/
theorem run_of_leads {address : Datum} {p p' : Place σ ι Plan} {a : Actor} {l : List Footprint}
    {r : Except Interruption Unit} (haccept : accept p.1.state p.1.status address = .ok a)
    (h : Leads R.toSurroundings R.answer (I.animate (p.1.state.addressee address) a)
      (p.begun R.toSurroundings (p.1.state.addressee address)) l p' r) :
    (I.run address).trail R.toSurroundings R.answer p.1 p.2 =
        l ++ (finish (p.1.state.addressee address) r).trail R.toSurroundings R.answer p'.1 p'.2 ∧
      (I.run address).carry R.toSurroundings R.answer p.1 p.2 =
        (finish (p.1.state.addressee address) r).carry R.toSurroundings R.answer p'.1 p'.2 := by
  constructor
  · generalize hq : p.begun R.toSurroundings (p.1.state.addressee address) = q at h
    have htrail := Walk.trail_bind R.toSurroundings R.answer
      (I.animate (p.1.state.addressee address) a).run (finish (p.1.state.addressee address)) q.1 q.2
    rw [h.carry, h.trail] at htrail
    subst hq
    simp only [run, Walk.trail, haccept]
    exact htrail
  · have hcarry : (I.animate (p.1.state.addressee address) a).run.carry R.toSurroundings R.answer
        (p.begun R.toSurroundings (p.1.state.addressee address)).1 p.2 = (p', r) := h.carry
    refine (run_carry haccept).trans ?_
    dsimp only
    rw [hcarry]

/-- **Runs come to an end.** Let others do what they like at each wait of a plan: take blocks out
and put them in again elsewhere, put in whole programs, or take the walked actor away. Let listeners
dispatch only what leaves the shapes of programs as they are. If no identifier occurs twice in the
program of the actor whenever a block is begun, however much room there is for repetitions inside
each other, then some room is enough: with more to spare, the run leaves the same trail and comes to
the same result. A repetition inside another begins a block, so a run whose trail does not depend on
the room has not used it up. Nothing is asked of the counts of repetitions, since one that does not
convert ends the run. -/
theorem run_terminates (hR : R.toAudience.Within Action.KeepsShapes) (I : Interpreter)
    (address : Datum) (sc : Scene σ ι) (plan : Plan)
    (h : ∀ spare, ∀ start ∈ Footprint.starts
      (({ I with spare }.run address).trail R.toSurroundings R.answer sc plan),
      Forest.Distinct (start.snapshot.program (sc.state.addressee address))) :
    ∃ n trail result, ∀ spare ≥ n,
      ({ I with spare }.run address).trail R.toSurroundings R.answer sc plan = trail ∧
        R.run { I with spare } address sc plan = result := by
  cases haccept : accept sc.state sc.status address with
  | error cause =>
    refine ⟨0, (I.run address).trail R.toSurroundings R.answer sc plan, R.run I address sc plan,
      fun spare _ => ⟨?_, ?_⟩⟩
    · simp only [run, Walk.trail, haccept]
    · simp only [RehearsalRoom.run, run, Walk.carry, haccept]
  | ok a =>
    obtain ⟨n, l, p', r, hanimate⟩ := exists_animate_leads (I := I) (a := a)
      (p := Place.begun R.toSurroundings (sc.state.addressee address) (sc, plan)) hR
      fun spare start hstart => h spare start <| by
        rw [(run_of_leads (p := (sc, plan)) haccept ⟨rfl, rfl⟩).1, Footprint.starts_append]
        exact List.mem_append_left _ hstart
    exact ⟨n, _, _, fun spare hspare =>
      run_of_leads (p := (sc, plan)) haccept (hanimate spare hspare)⟩

/-- A place to go to. -/
def corner : Block where
  id := .str "corner"
  kind := .str "goto"
  params := .object [("x", .float 5.0), ("y", .float 5.0)]

/-- A block that repeats others once. -/
def again (name : String) (children : Forest) : Block where
  id := .str name
  kind := .str "repeat"
  params := .object [("times", .num (.int 2))]
  children

/-- An actor with a repetition inside another. -/
def shuttle : Actor where
  id := .str "shuttle"
  name := .str "Shuttle"
  blocks := [again "rounds" [again "laps" [corner]]]

/-- The shuttle on a stage with somebody else. -/
def shuttleScene : Scene Rehearsal Onlooker where
  store := { state := {
    actors := [shuttle, { id := .str "idler", name := .str "Idler" }]
    activeActorId := shuttle.id } }
  memory := { journal := {}, now := .int 0 }

/-- At the first wait the repetitions are turned inside out, and at the fourth the shuttle is taken
away. -/
def insideOut : Plan := [
  [.dispatch (.removeBlock (.str "rounds") .null),
    .dispatch (.addBlock (again "laps" [again "rounds" [corner]]) .null)],
  [], [], [.dispatch (.removeActor shuttle.id)]]

/-- In its second round the shuttle does a lap of rounds, as they stand then. Once it is taken away,
blocks are done as they were seen last, and the run is complete; more room makes no difference. -/
theorem shuttle_terminates :
    let R := Rehearsal.recorded
    let trail (spare : Nat) := ({ spare : Interpreter }.run shuttle.id).trail
      R.toSurroundings R.answer shuttleScene insideOut
    (Footprint.starts (trail 0)).map (fun start => start.block.id.label) =
        ["rounds", "laps", "corner", "corner", "laps", "rounds", "corner", "corner", "rounds",
          "corner", "corner"] ∧
      (R.run { spare := 0 } shuttle.id shuttleScene insideOut).2 = .ok .complete ∧
      ∃ n seen result, ∀ spare ≥ n, trail spare = seen ∧
        R.run { spare } shuttle.id shuttleScene insideOut = result := by
  intro R trail
  have hR : R.toAudience.Within fun a => Forest.Distinct a.brought :=
    Rehearsal.recorded_aloof.within _
  have hs : shuttleScene.state.DistinctPrograms := by
    refine List.forall_mem_cons.mpr ⟨?_, List.forall_mem_singleton.mpr .nil⟩
    unfold Forest.Distinct
    decide
  have hplan : insideOut.Within fun a => Forest.Distinct a.brought := by
    have hprogram : Forest.Distinct [again "laps" [again "rounds" [corner]]] := by
      unfold Forest.Distinct
      decide
    intro entry hentry action haction
    simp only [insideOut, List.mem_cons, List.not_mem_nil, or_false] at hentry
    obtain rfl | rfl | rfl | rfl := hentry <;>
      simp only [List.mem_cons, List.not_mem_nil, or_false, Disturbance.dispatch.injEq] at haction
    · obtain rfl | rfl := haction
      · exact .nil
      · exact hprogram
    · obtain rfl := haction
      exact .nil
  refine ⟨by decide +kernel, by decide +kernel, ?_⟩
  exact run_terminates (R := R) (Rehearsal.recorded_aloof.within _) {} shuttle.id shuttleScene
    insideOut fun spare start hstart =>
      (distinctPrograms_of_mem_starts { spare } hR hplan hs hstart).program _

end Interpreter

end SpriteStage
