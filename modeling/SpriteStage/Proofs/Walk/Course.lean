import SpriteStage.Proofs.Walk.Visit

/-!
# The course of a run

A run that is not refused sets the running flag, puts all actors to the start, turns the moves of
the first two visible actors if there are two and if two actors can move, visits the blocks of the
actor, and clears the flag again, whatever came of the blocks (`Interpreter.run_visits`).
-/

namespace SpriteStage

/-- The actor has a text for its identifier and a typed program, as every actor of the stage. -/
structure Actor.Typed (a : Actor) : Prop where
  id : a.id.IsText
  blocks : Forest.Typed a.blocks

/-- The actor has a block that moves it. -/
def Actor.canMove (a : Actor) : Bool := (Forest.preorder a.blocks).any (·.moves)

namespace Forest

/-- The moves of a typed program can be turned. -/
theorem turnFault?_eq_none {f : Forest} (hf : Typed f) : turnFault? f = none := by
  have hkey : keyFault? (movers f) = none := by
    refine List.findSome?_eq_none_iff.mpr fun b hb => ?_
    exact (hf b (List.mem_of_mem_filter hb)).id.asKey
  have hturn : (postorder f).findSome? Block.turnFault? = none := by
    refine List.findSome?_eq_none_iff.mpr fun b hb => ?_
    have hb' := hf b (mem_postorder_iff.mp hb)
    obtain ⟨fields, hfields⟩ := hb'.params
    rw [Block.turnFault?, hfields, hb'.id.asKey]
    rfl
  rw [turnFault?, hkey, hturn]
  rfl

theorem Typed.named {f : Forest} (hf : Typed f) : Named f := fun b hb => (hf b hb).toNamed

end Forest

namespace Snapshot

variable {s : Snapshot}

/-- All actors are typed. -/
def Typed (s : Snapshot) : Prop := ∀ a ∈ s.actors, a.Typed

/-- In a typed snapshot, only texts name somebody. -/
theorem Typed.isText (hs : s.Typed) {id : Datum} {a : Actor} (ha : s.actor? id = some a) :
    id.IsText := by
  obtain ⟨name, hname⟩ := (hs a (mem_of_actor? ha)).id
  have hid : a.id.sameValue id := hasId_of_actor? ha
  rw [hname, Datum.sameValue_str_iff] at hid
  exact ⟨name, hid⟩

/-- The snapshot after all these actions, one after the other. -/
def afterAll (s : Snapshot) (actions : List Action) : Snapshot := actions.foldl after s

/-- The action that turns the moves of the first two visible actors: wanted if there are two, and if
at least two actors, visible or not, can move. -/
def swapping (s : Snapshot) : List Action :=
  match s.actors.filter (·.visible.truthy) with
  | a :: b :: _ => if 2 ≤ s.actors.countP Actor.canMove then [.swapMoves a.id b.id] else []
  | _ => []

/-- Identifiers, visibility and programs decide whose moves are turned. -/
theorem swapping_map {g : Actor → Actor} (hid : ∀ a, (g a).id = a.id)
    (hvisible : ∀ a, (g a).visible = a.visible) (hblocks : ∀ a, (g a).blocks = a.blocks)
    {s' : Snapshot} (h : s'.actors = s.actors.map g) : s'.swapping = s.swapping := by
  have hv : (fun a : Actor => a.visible.truthy) ∘ g = fun a => a.visible.truthy :=
    funext fun a => congrArg Datum.truthy (hvisible a)
  have hm : Actor.canMove ∘ g = Actor.canMove :=
    funext fun a => congrArg (fun f => (Forest.preorder f).any (·.moves)) (hblocks a)
  rw [swapping, swapping, h, List.filter_map, List.countP_map, hv, hm]
  cases s.actors.filter (·.visible.truthy) with
  | nil => rfl
  | cons a rest =>
    cases rest with
    | nil => rfl
    | cons b rest => simp only [List.map_cons, hid]

theorem swapFault?_eq_none (hs : s.Typed) {a b : Datum} (ha : a.IsText) (hb : b.IsText) :
    s.swapFault? a b = none := by
  have hactors : (s.actors.findSome? fun actor => Fault.of? actor.id.asKey <|>
      if actor.hasId a || actor.hasId b then Forest.turnFault? actor.blocks else none) = none := by
    refine List.findSome?_eq_none_iff.mpr fun actor hmem => ?_
    rw [(hs actor hmem).id.asKey, Forest.turnFault?_eq_none (hs actor hmem).blocks]
    split_ifs <;> rfl
  rw [swapFault?, ha.asKey, hb.asKey, hactors]
  split_ifs <;> rfl

end Snapshot

namespace Interpreter

/-- The pair that the interpreter turns is the one that is wanted. -/
theorem swapping_eq (s : Snapshot) :
    s.swapping = ((pairToSwap? s).map fun (a, b) => Action.swapMoves a.id b.id).toList := by
  have hmovers : (s.actors.filter fun a => !(Forest.movers a.blocks).isEmpty).length =
      s.actors.countP Actor.canMove := by
    rw [← List.countP_eq_length_filter]
    refine List.countP_congr fun a _ => ?_
    simp [Forest.movers, Actor.canMove]
  rw [Snapshot.swapping, pairToSwap?, hmovers]
  generalize s.actors.filter (fun a => a.visible.truthy) = visible
  cases visible with
  | nil => rfl
  | cons a rest =>
    cases rest with
    | nil => rfl
    | cons b rest =>
      by_cases h : s.actors.countP Actor.canMove < 2
      · simp only [if_pos h, if_neg (Nat.not_le.mpr h)]
        rfl
      · simp only [if_neg h, if_pos (Nat.not_lt.mp h)]
        rfl

theorem mem_of_pairToSwap? {s : Snapshot} {a b : Actor} (h : pairToSwap? s = some (a, b)) :
    a ∈ s.actors ∧ b ∈ s.actors := by
  unfold pairToSwap? at h
  split at h
  · rename_i hvisible
    dsimp only at h
    split_ifs at h
    cases h
    have hmem (c : Actor) (hc : c ∈ a :: b :: _) : c ∈ s.actors :=
      List.mem_of_mem_filter (hvisible ▸ hc)
    exact ⟨hmem a (by simp), hmem b (by simp)⟩
  · cases h

variable {σ ι τ : Type} [DecidableEq ι] {S : Surroundings σ ι} {answer : Company σ ι τ}
  {others : Snapshot → Snapshot → Prop} {I : Interpreter} {actorId : Datum}
  {s : Snapshot} {p : Scene σ ι × τ}

/-- The footprints of actions. -/
def traces (actions : List Action) : List Footprint := (actions.map Request.action).map .asked

@[simp] theorem starts_traces (actions : List Action) : Footprint.starts (traces actions) = [] :=
  Footprint.starts_asked _

@[simp] theorem requests_traces (actions : List Action) :
    Footprint.requests (traces actions) = actions.map .action :=
  Footprint.requests_asked _

theorem swapFirst_leads (calm : S.Calm) (hp : At s p) (ht : s.Typed) :
    ∃ p', Leads S answer swapFirst p (traces s.swapping) p' (.ok ()) ∧
      At (s.afterAll s.swapping) p' := by
  unfold swapFirst
  rw [swapping_eq]
  cases hpair : pairToSwap? s with
  | none =>
    refine ⟨p, (Leads.snapshot hp).bind_silent ?_, hp⟩
    rw [hpair]
    exact .pure () p
  | some pair =>
    obtain ⟨a, b⟩ := pair
    obtain ⟨ha, hb⟩ := mem_of_pairToSwap? hpair
    have hfault : s.fault? (.swapMoves a.id b.id) = none :=
      Snapshot.swapFault?_eq_none ht (ht a ha).id (ht b hb).id
    obtain ⟨p₁, h₁, hp₁⟩ := Leads.dispatch calm hp hfault
    obtain ⟨p₂, h₂, hp₂⟩ := Leads.log hp₁
      ("[Interpreter] pre-flight swap " ++ a.id.label ++ " <-> " ++ b.id.label)
    obtain ⟨p₃, h₃, hp₃⟩ := Leads.notify hp₂ "Sprites collided! Animation directions swapped!"
    refine ⟨p₃, (Leads.snapshot hp).bind_silent ?_, hp₃⟩
    rw [hpair]
    exact h₁.bind (h₂.bind h₃)

/-- What a run does before it begins the first block. -/
def opening (I : Interpreter) (s : Snapshot) : List Action :=
  [.setRunning (.bool true), .resetActors (.float 0.0) (.float 0.0) I.home] ++ s.swapping

/-- Before the first block is begun, moves have been turned and no more, so the shape is kept. -/
theorem hasShape_opening (I : Interpreter) {K : Forest} (hs : s.HasShape actorId K) :
    (s.afterAll (I.opening s)).HasShape actorId K := by
  let s₁ := s.after (.setRunning (.bool true))
  let s₂ := s₁.after (.resetActors (.float 0.0) (.float 0.0) I.home)
  have h₁ : s₁.HasShape actorId K := hs
  have h₂ : s₂.HasShape actorId K :=
    h₁.of_match (Snapshot.match_resetActors (fun _ _ => Actor.sameShape_of_eq) s₁ _ _ _)
  show (s₂.afterAll s.swapping).HasShape actorId K
  rw [swapping_eq]
  cases pairToSwap? s with
  | none => exact h₂
  | some pair =>
    exact h₂.of_match (Snapshot.match_swapMoves (fun a => Actor.sameShape_of_eq (a := a) rfl)
      (fun a => Forest.shape_turnMoves a.blocks) s₂ _ _)

/-- The opening steps are taken, and then the blocks are done. -/
theorem animate_leads (calm : S.Calm) (hp : At s p) (ht : s.Typed) (a : Actor) :
    ∃ p', At (s.afterAll (I.opening s)) p' ∧ ∀ {t p'' e},
      Leads S answer
        (Attempt.each (I.step actorId (Forest.depth a.blocks + I.spare)) a.blocks) p' t p'' e →
      Leads S answer (I.animate actorId a) p (traces (I.opening s) ++ t) p'' e := by
  let s₁ := s.after (.setRunning (.bool true))
  let s₂ := s₁.after (.resetActors (.float 0.0) (.float 0.0) I.home)
  let reset (a : Actor) : Actor :=
    { a with x := .float 0.0, y := .float 0.0, direction := I.home, message := .null }
  have hactors : s₂.actors = s.actors.map reset := rfl
  have ht₂ : s₂.Typed := by
    intro a ha
    rw [hactors] at ha
    obtain ⟨b, hb, rfl⟩ := List.mem_map.mp ha
    exact ⟨(ht b hb).id, (ht b hb).blocks⟩
  have hswap : s₂.swapping = s.swapping :=
    Snapshot.swapping_map (g := reset) (fun _ => rfl) (fun _ => rfl) (fun _ => rfl) hactors
  obtain ⟨p₁, h₁, hp₁⟩ : ∃ p₁, Leads S answer (Attempt.dispatch _) p _ p₁ _ ∧ At s₁ p₁ :=
    Leads.dispatch calm hp rfl
  obtain ⟨p₂, h₂, hp₂⟩ : ∃ p₂, Leads S answer (Attempt.dispatch _) p₁ _ p₂ _ ∧ At s₂ p₂ :=
    Leads.dispatch calm hp₁ rfl
  obtain ⟨p₃, h₃, hp₃⟩ : ∃ p₃, Leads S answer swapFirst p₂ _ p₃ _ ∧ At _ p₃ :=
    swapFirst_leads calm hp₂ ht₂
  rw [hswap] at h₃ hp₃
  exact ⟨p₃, hp₃, fun h => h₁.bind (h₂.bind (h₃.bind h))⟩

/-- What a run comes to if its blocks have come to this. -/
def resultOf : Option Fault → RunResult
  | none => .complete
  | some fault => .broken fault

/-- How the interpreter stands after such a run. -/
def statusOf : Option Fault → Status
  | none => .done
  | some _ => .failed

/-- The flag is cleared, and then it goes on. -/
theorem clearing_leads {α : Type} (answer : Company σ ι τ) (calm : S.Calm) (hp : At s p)
    (next : Walk (Except Interruption α)) :
    ∃ p', At (s.after (.setRunning (.bool false))) p' ∧ p'.1.status = p.1.status ∧
      (clearing next).carry S answer p.1 p.2 = next.carry S answer p'.1 p'.2 ∧
      (clearing next).trail S answer p.1 p.2 =
        .asked (.action (.setRunning (.bool false))) :: next.trail S answer p'.1 p'.2 := by
  obtain ⟨hstate, hlimit, hfault⟩ :=
    Audience.dispatch_quiet calm.quiet (.setRunning (.bool false)) hp.keeps
  have hs : p.1.store.state = s := hp.state
  rw [hs] at hstate
  refine ⟨((p.1.dispatch S.toAudience (.setRunning (.bool false))).1, p.2),
    ⟨hstate, (congrArg Store.limitFault? hlimit).trans hp.keeps⟩, rfl, ?_, ?_⟩
  · simp only [clearing, Walk.carry, Scene.dispatch, hfault, Snapshot.fault?]
  · simp only [clearing, Walk.trail, Scene.dispatch, hfault, Snapshot.fault?]

/-- However the blocks ended, the flag is cleared. -/
theorem finish_leads (answer : Company σ ι τ) (actorId : Datum) (calm : S.Calm) (hp : At s p)
    (e : Option Fault) :
    ∃ p', (finish actorId (outcome e)).carry S answer p.1 p.2 = (p', .ok (resultOf e)) ∧
      (finish actorId (outcome e)).trail S answer p.1 p.2 = traces [.setRunning (.bool false)] ∧
      At (s.after (.setRunning (.bool false))) p' ∧ p'.1.status = statusOf e := by
  cases e with
  | none =>
    let p₀ : Scene σ ι × τ := ({ p.1 with status := .done }, p.2)
    have hp₀ : At s p₀ := ⟨hp.state, hp.keeps⟩
    obtain ⟨p₁, hp₁, hstatus, hcarry, htrail⟩ := clearing_leads answer calm hp₀
      (.log ("[Interpreter] run finished for " ++ actorId.label) <|
        .notify "Animation complete!" <| .done (.ok RunResult.complete))
    exact ⟨_, hcarry, htrail, ⟨hp₁.state, hp₁.keeps⟩, hstatus⟩
  | some fault =>
    let log := S.log ("[Interpreter] run failed for " ++ actorId.label ++ ": " ++ fault.message)
    let p₀ : Scene σ ι × τ :=
      ({ p.1 with status := .failed, memory := S.notify "Error running animation" (log p.1.memory) },
        p.2)
    have hp₀ : At s p₀ := ⟨hp.state, hp.keeps⟩
    obtain ⟨p₁, hp₁, hstatus, hcarry, htrail⟩ := clearing_leads answer calm hp₀
      (.done (.ok (RunResult.broken fault)))
    exact ⟨_, hcarry, htrail, hp₁, hstatus⟩

theorem accept_eq_ok_iff {status : Status} {address : Datum} {a : Actor} :
    accept s status address = .ok a ↔
      s.running = false ∧ status ≠ .running ∧ s.addressed? address = some a ∧ a.blocks ≠ [] := by
  unfold accept
  by_cases hrun : s.running || status = .running
  · rw [if_pos hrun]
    simp only [Bool.or_eq_true, decide_eq_true_eq] at hrun
    refine ⟨nofun, fun ⟨hr, hst, _⟩ => ?_⟩
    rcases hrun with h | h
    · rw [hr] at h; cases h
    · exact absurd h hst
  · rw [if_neg hrun]
    simp only [Bool.or_eq_true, decide_eq_true_eq, not_or, Bool.not_eq_true] at hrun
    cases s.addressed? address with
    | none => simp
    | some c =>
      by_cases hblocks : c.blocks = []
      · simp only [hblocks, List.isEmpty_nil, if_true]
        refine ⟨nofun, fun ⟨_, _, hc, ha⟩ => ?_⟩
        cases hc
        exact absurd hblocks ha
      · have hne : c.blocks.isEmpty = false := by simpa using hblocks
        simp only [hne, Bool.false_eq_true, if_false]
        refine ⟨fun h => ?_, fun ⟨_, _, hc, _⟩ => by cases hc; rfl⟩
        cases h
        exact ⟨hrun.1, hrun.2, rfl, hblocks⟩

/-- **A run that is not refused** takes the opening steps, visits the blocks of the actor and clears
the flag, whatever others do while it waits, if only they keep the shape of the program. -/
theorem run_visits (I : Interpreter) (calm : S.Calm) (within : answer.Within others) (hp : At s p)
    (ht : s.Typed) {address : Datum} {a : Actor} (haccept : accept s p.1.status address = .ok a)
    (hd : Forest.Distinct a.blocks)
    (keep : ShapeKept others (s.addressee address) (Forest.shape a.blocks)) :
    ∃ t s' e p', Visit I (s.addressee address) others a.blocks (s.afterAll (I.opening s)) t s' e ∧
      (I.run address).trail S answer p.1 p.2 =
        traces (I.opening s) ++ t ++ traces [.setRunning (.bool false)] ∧
      (I.run address).carry S answer p.1 p.2 = (p', .ok (resultOf e)) ∧
      At (s'.after (.setRunning (.bool false))) p' ∧ p'.1.status = statusOf e := by
  obtain ⟨-, -, ha, -⟩ := accept_eq_ok_iff.mp haccept
  have hmem : a ∈ s.actors := Snapshot.mem_of_actor? ha
  have hshape : (s.afterAll (I.opening s)).HasShape (s.addressee address) (Forest.shape a.blocks) :=
    hasShape_opening I ⟨a, ha, rfl⟩
  -- the run begins with its status and a line of the log, which are nothing to the store
  let started := S.log ("[Interpreter] run started for " ++ (s.addressee address).label) p.1.memory
  let p₀ : Scene σ ι × τ := ({ p.1 with status := .running, memory := started }, p.2)
  have hp₀ : At s p₀ := ⟨hp.state, hp.keeps⟩
  have hstate : p.1.state = s := hp.state
  obtain ⟨p₁, hp₁, hanimate⟩ : ∃ p₁, At _ p₁ ∧ ∀ {t p'' e}, Leads S answer _ p₁ t p'' e →
      Leads S answer (I.animate (s.addressee address) a) p₀ (traces (I.opening s) ++ t) p'' e :=
    animate_leads calm hp₀ ht a
  have hvisits : Visits S answer others I (s.addressee address) (Forest.shape a.blocks) a.blocks _ :=
    visits_each calm within keep (Forest.distinct_of_shape_eq (Forest.shape_shape _).symm hd)
      (Forest.named_shape_iff.mpr (ht a hmem).blocks.named) (Forest.depth a.blocks + I.spare)
      (fun b hb => by
        rw [Forest.preorder_shape]
        exact List.mem_map_of_mem (Forest.mem_preorder_of_mem hb))
      (Nat.le_add_right _ _)
  obtain ⟨t, p₂, s', e, hlead, hp₂, -, hvisit⟩ := hvisits hp₁ hshape
  have hwalk := hanimate hlead
  obtain ⟨p₃, hcarry, htrail, hp₃, hstatus⟩ :=
    finish_leads answer (s.addressee address) calm hp₂ e
  refine ⟨t, s', e, p₃, hvisit, ?_, ?_, hp₃, hstatus⟩
  · calc (I.run address).trail S answer p.1 p.2
      _ = ((I.animate (s.addressee address) a).run.bind (finish (s.addressee address))).trail S
            answer p₀.1 p₀.2 := by
        simp only [run, Walk.trail, hstate, haccept]
        rfl
      _ = traces (I.opening s) ++ t ++ traces [.setRunning (.bool false)] := by
        rw [Walk.trail_bind, hwalk.carry, hwalk.trail, htrail]
  · calc (I.run address).carry S answer p.1 p.2
      _ = ((I.animate (s.addressee address) a).run.bind (finish (s.addressee address))).carry S
            answer p₀.1 p₀.2 := by
        simp only [run, Walk.carry, hstate, haccept]
        rfl
      _ = (p₃, .ok (resultOf e)) := by
        rw [Walk.carry_bind, hwalk.carry, hcarry]

end Interpreter

end SpriteStage
