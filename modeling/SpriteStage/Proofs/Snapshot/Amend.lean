import SpriteStage.Proofs.Snapshot.Change

/-!
# Actions on one actor

Six actions have to do with one actor only: five change its program, and one its attributes. What
such an action comes to is a matter of that actor alone, and nobody else is changed
(`Snapshot.attempt_of_holder`, `Snapshot.after_eq_amend`).
-/

namespace SpriteStage

/-! ### One actor changed -/

/-- The actors, the first of an identifier changed. -/
def amendFirst (id : Datum) (g : Actor → Actor) : List Actor → List Actor
  | [] => []
  | a :: rest => if a.hasId id then g a :: rest else a :: amendFirst id g rest

section

variable {i j : Datum} {g h : Actor → Actor} {a : Actor} {l : List Actor}

theorem amendFirst_cons_of_pos (ha : a.hasId i) : amendFirst i g (a :: l) = g a :: l := if_pos ha

theorem amendFirst_cons_of_neg (ha : ¬ a.hasId i) :
    amendFirst i g (a :: l) = a :: amendFirst i g l := if_neg ha

theorem hasId_congr_id {a b : Actor} (h : b.id = a.id) (id : Datum) : b.hasId id = a.hasId id :=
  congrArg (·.sameValue id) h

/-- It only matters what becomes of the actor that is found. -/
theorem amendFirst_congr (hgh : ∀ a, l.find? (·.hasId i) = some a → g a = h a) :
    amendFirst i g l = amendFirst i h l := by
  induction l with
  | nil => rfl
  | cons a rest ih =>
    by_cases ha : a.hasId i
    · rw [amendFirst_cons_of_pos ha, amendFirst_cons_of_pos ha,
        hgh a (List.find?_cons_of_pos ha)]
    · rw [amendFirst_cons_of_neg ha, amendFirst_cons_of_neg ha,
        ih fun b hb => hgh b ((List.find?_cons_of_neg ha).trans hb)]

theorem amendFirst_id (i : Datum) (l : List Actor) : amendFirst i (fun a => a) l = l := by
  induction l with
  | nil => rfl
  | cons a rest ih => by_cases ha : a.hasId i <;> simp [amendFirst, ha, ih]

/-- Who is found after the change is who was found before it, changed. -/
theorem find?_amendFirst (hg : ∀ a, (g a).id = a.id) (i : Datum) (l : List Actor) :
    (amendFirst i g l).find? (·.hasId i) = (l.find? (·.hasId i)).map g := by
  induction l with
  | nil => rfl
  | cons a rest ih =>
    by_cases ha : a.hasId i
    · have hga : (g a).hasId i := (hasId_congr_id (hg a) i).trans ha
      rw [amendFirst_cons_of_pos ha, List.find?_cons_of_pos hga, List.find?_cons_of_pos ha]
      rfl
    · rw [amendFirst_cons_of_neg ha, List.find?_cons_of_neg ha, List.find?_cons_of_neg ha, ih]

/-- Two changes of one actor are one. -/
theorem amendFirst_amendFirst (hg : ∀ a, (g a).id = a.id) (i : Datum) (l : List Actor) :
    amendFirst i h (amendFirst i g l) = amendFirst i (fun a => h (g a)) l := by
  induction l with
  | nil => rfl
  | cons a rest ih =>
    by_cases ha : a.hasId i
    · have hga : (g a).hasId i := (hasId_congr_id (hg a) i).trans ha
      rw [amendFirst_cons_of_pos ha, amendFirst_cons_of_pos hga, amendFirst_cons_of_pos ha]
    · rw [amendFirst_cons_of_neg ha, amendFirst_cons_of_neg ha, amendFirst_cons_of_neg ha, ih]

/-- Changes of two actors can be made in either order. -/
theorem amendFirst_comm (hg : ∀ a, (g a).id = a.id) (hh : ∀ a, (h a).id = a.id)
    (hij : ∀ a ∈ l, a.hasId i → ¬ a.hasId j) :
    amendFirst j h (amendFirst i g l) = amendFirst i g (amendFirst j h l) := by
  induction l with
  | nil => rfl
  | cons a rest ih =>
    have hrest := ih fun b hb => hij b (List.mem_cons_of_mem a hb)
    by_cases hi : a.hasId i
    · have hj : ¬ a.hasId j := hij a List.mem_cons_self hi
      have hgj : ¬ (g a).hasId j := hasId_congr_id (hg a) j ▸ hj
      rw [amendFirst_cons_of_pos hi, amendFirst_cons_of_neg hgj, amendFirst_cons_of_neg hj,
        amendFirst_cons_of_pos hi]
    · by_cases hj : a.hasId j
      · have hhi : ¬ (h a).hasId i := hasId_congr_id (hh a) i ▸ hi
        rw [amendFirst_cons_of_neg hi, amendFirst_cons_of_pos hj, amendFirst_cons_of_pos hj,
          amendFirst_cons_of_neg hhi]
      · rw [amendFirst_cons_of_neg hi, amendFirst_cons_of_neg hj, amendFirst_cons_of_neg hj,
          amendFirst_cons_of_neg hi, hrest]

/-- What is done to every actor can be done before or after one of them is changed. -/
theorem map_amendFirst (hh : ∀ a, (h a).id = a.id) (hgh : ∀ a, h (g a) = g (h a)) (i : Datum)
    (l : List Actor) : (amendFirst i g l).map h = amendFirst i g (l.map h) := by
  induction l with
  | nil => rfl
  | cons a rest ih =>
    have hha := hasId_congr_id (hh a) i
    by_cases ha : a.hasId i <;> simp [amendFirst, hha, ha, hgh, ih]

section

variable {α : Type}

/-- What the change of an actor leaves alone is the same of all actors after it. -/
theorem map_eq_of_amendFirst {view : Actor → α} (hview : ∀ a, view (g a) = view a) (i : Datum)
    (l : List Actor) : (amendFirst i g l).map view = l.map view := by
  induction l with
  | nil => rfl
  | cons a rest ih => by_cases ha : a.hasId i <;> simp [amendFirst, ha, hview, ih]

theorem findSome?_amendFirst {view : Actor → Option α} (hview : ∀ a, view (g a) = view a)
    (i : Datum) (l : List Actor) : (amendFirst i g l).findSome? view = l.findSome? view := by
  have hmap := congrArg (·.findSome? fun found => found) (map_eq_of_amendFirst hview i l)
  simpa [List.findSome?_map, Function.comp_def] using hmap

/-- Whoever is found is the same but for the change. -/
theorem map_find?_amendFirst (hg : ∀ a, (g a).id = a.id) {view : Actor → α}
    (hview : ∀ a, view (g a) = view a) (i id : Datum) (l : List Actor) :
    ((amendFirst i g l).find? (·.hasId id)).map view = (l.find? (·.hasId id)).map view := by
  induction l with
  | nil => rfl
  | cons a rest ih =>
    have hga := hasId_congr_id (hg a) id
    by_cases ha : a.hasId i <;> by_cases hid : a.hasId id <;>
      simp [amendFirst, ha, hid, hga, hview, ih]

end

/-- To change the first actor is to find it, and to put what it is changed to in its place. -/
theorem changeFirst?_eq (change : Actor → Option Actor) (i : Datum) (l : List Actor) :
    changeFirst? i change l =
      (l.find? (·.hasId i)).bind fun a => (change a).map fun b => amendFirst i (fun _ => b) l := by
  induction l with
  | nil => rfl
  | cons a rest ih =>
    by_cases ha : a.hasId i
    · rw [changeFirst?, if_pos ha, List.find?_cons_of_pos ha]
      simp [amendFirst, ha]
    · rw [changeFirst?, if_neg ha, List.find?_cons_of_neg ha, ih]
      simp [amendFirst, ha, Option.map_bind, Function.comp_def]

end

namespace Snapshot

variable {s : Snapshot} {i j : Datum} {g h : Actor → Actor}

/-- The snapshot with the first actor of an identifier changed. -/
def amend (s : Snapshot) (id : Datum) (g : Actor → Actor) : Snapshot :=
  { s with actors := amendFirst id g s.actors }

theorem amend_congr (hgh : ∀ a, s.holder? i = some a → g a = h a) : s.amend i g = s.amend i h :=
  congrArg (fun actors => { s with actors }) (amendFirst_congr hgh)

theorem amend_eq_self (hg : ∀ a, s.holder? i = some a → g a = a) : s.amend i g = s := by
  rw [amend_congr hg, amend, amendFirst_id]

theorem holder?_amend (hg : ∀ a, (g a).id = a.id) (s : Snapshot) (i : Datum) :
    (s.amend i g).holder? i = (s.holder? i).map g := find?_amendFirst hg i s.actors

theorem amend_amend (hg : ∀ a, (g a).id = a.id) (s : Snapshot) (i : Datum) :
    (s.amend i g).amend i h = s.amend i fun a => h (g a) :=
  congrArg (fun actors => { s with actors }) (amendFirst_amendFirst hg i s.actors)

theorem amend_comm (hg : ∀ a, (g a).id = a.id) (hh : ∀ a, (h a).id = a.id)
    (hij : ∀ a ∈ s.actors, a.hasId i → ¬ a.hasId j) :
    (s.amend i g).amend j h = (s.amend j h).amend i g :=
  congrArg (fun actors => { s with actors }) (amendFirst_comm hg hh hij)

theorem map_holder?_amend {α : Type} (hg : ∀ a, (g a).id = a.id) {view : Actor → α}
    (hview : ∀ a, view (g a) = view a) (s : Snapshot) (i id : Datum) :
    ((s.amend i g).holder? id).map view = (s.holder? id).map view :=
  map_find?_amendFirst hg hview i id s.actors

theorem isSome_actor?_amend (hg : ∀ a, (g a).id = a.id) (s : Snapshot) (i id : Datum) :
    ((s.amend i g).actor? id).isSome = (s.actor? id).isSome := by
  have hholder (id : Datum) : ((s.amend i g).holder? id).isSome = (s.holder? id).isSome := by
    simpa using congrArg Option.isSome (map_holder?_amend hg hg s i id)
  cases id with
  | null => rfl
  | _ => exact hholder _

theorem canSwap_amend (hg : ∀ a, (g a).id = a.id) (s : Snapshot) (i first second : Datum) :
    (s.amend i g).canSwap first second = s.canSwap first second := by
  simp only [canSwap, isSome_actor?_amend hg]

theorem swapFault?_amend (hg : ∀ a, (g a).id = a.id) (hblocks : ∀ a, (g a).blocks = a.blocks)
    (s : Snapshot) (i first second : Datum) :
    (s.amend i g).swapFault? first second = s.swapFault? first second := by
  let view (actor : Actor) : Option Fault :=
    Fault.of? actor.id.asKey <|>
      if actor.hasId first || actor.hasId second then Forest.turnFault? actor.blocks else none
  have hview (a : Actor) : view (g a) = view a := by
    simp only [view, hg, hblocks, hasId_congr_id (hg a)]
  have hactors := findSome?_amendFirst hview i s.actors
  unfold swapFault?
  rw [canSwap_amend hg]
  exact if_congr Iff.rfl
    (congrArg (Fault.of? first.asKey <|> Fault.of? second.asKey <|> ·) hactors) rfl

/-- An action fails for identifiers and programs only. -/
theorem fault?_amend (hg : ∀ a, (g a).id = a.id) (hblocks : ∀ a, (g a).blocks = a.blocks)
    (s : Snapshot) (i : Datum) (action : Action) :
    (s.amend i g).fault? action = s.fault? action := by
  have hprogram (address : Datum) (fault? : Forest → Option Fault) :
      (s.amend i g).blocksFault? address fault? = s.blocksFault? address fault? := by
    have hholder := congrArg (·.bind fault?)
      (map_holder?_amend hg hblocks s i (s.addressee address))
    simp only [Option.bind_map] at hholder
    exact hholder
  cases action with
  | addBlock block address | addChild _ block address => exact hprogram address (meetFault? block)
  | updateParams blockId params address =>
    exact hprogram address fun f => (Forest.find? blockId f).bind (Block.mergeFault? params)
  | swapMoves first second => exact swapFault?_amend hg hblocks s i first second
  | _ => rfl

theorem changeActor?_eq (s : Snapshot) (i : Datum) (change : Actor → Option Actor) :
    s.changeActor? i change =
      (s.holder? i).bind fun a => (change a).map fun b => s.amend i fun _ => b := by
  rw [changeActor?, changeFirst?_eq, Option.map_bind]
  refine congrArg ((s.holder? i).bind ·) (funext fun a => ?_)
  rw [Function.comp_apply, Option.map_map]
  rfl

/-- A change that is always carried out changes the actor that is found. -/
theorem getD_changeActor? (s : Snapshot) (i : Datum) (g : Actor → Actor) :
    (s.changeActor? i fun a => some (g a)).getD s = s.amend i g := by
  rw [changeActor?_eq]
  cases ha : s.holder? i with
  | none => exact (amend_eq_self fun a h => by cases ha.symm.trans h).symm
  | some a =>
    refine amend_congr fun b hb => ?_
    cases ha.symm.trans hb
    rfl

end Snapshot

/-! ### Actions -/

/-- What there is after an attempt: what it put in place or, if it failed or was not carried out,
what there was before. -/
def settled {α : Type} (attempt : Except Fault (Option α)) (before : α) : α :=
  match attempt with
  | .ok (some next) => next
  | _ => before

theorem settled_map {α β : Type} (F : α → β) (attempt : Except Fault (Option α)) (before : α) :
    settled (attempt.map (Option.map F)) (F before) = F (settled attempt before) := by
  rcases attempt with fault | (_ | next) <;> rfl

/-- The actor with another program. -/
def Actor.withProgram (a : Actor) (f : Forest) : Actor := { a with blocks := f }

@[simp] theorem Actor.withProgram_id (a : Actor) (f : Forest) : (a.withProgram f).id = a.id := rfl

namespace Action

/-- Why an action fails for a program. -/
def programFault? : Action → Forest → Option Fault
  | addBlock block _ | addChild _ block _ => Snapshot.meetFault? block
  | updateParams blockId params _ => fun f =>
    (Forest.find? blockId f).bind (Block.mergeFault? params)
  | _ => fun _ => none

/-- Carries an action out on the program that it is addressed to. -/
def rewrite? (action : Action) (f : Forest) : Except Fault (Option Forest) :=
  match action.programFault? f with
  | some fault => .error fault
  | none => .ok (action.programChange?.bind fun target => target.2 f)

theorem rewrite?_of_fault {action : Action} {f : Forest} {fault : Fault}
    (h : action.programFault? f = some fault) : action.rewrite? f = .error fault := by
  rw [rewrite?, h]

theorem rewrite?_of_none {action : Action} {address : Datum} {change : Forest → Option Forest}
    {f : Forest} (hchange : action.programChange? = some (address, change))
    (h : action.programFault? f = none) : action.rewrite? f = .ok (change f) := by
  rw [rewrite?, h, hchange]
  rfl

/-- The identifier of the one actor that the action has to do with: the one that it names or, for an
action on a program without an address, the active one. -/
def subject? (s : Snapshot) : Action → Option Datum
  | updateActor actorId _ => some actorId
  | action => action.programChange?.map fun target => s.addressee target.1

/-- What the action makes of the one actor that it has to do with. -/
def effect : Action → Actor → Actor
  | updateActor _ changes, a => a.setAll (Snapshot.attributeChanges changes.fields)
  | action, a => a.withProgram (settled (action.rewrite? a.blocks) a.blocks)

theorem effect_id (action : Action) (a : Actor) : (action.effect a).id = a.id := by
  cases action with
  | updateActor => exact a.setAll_id _
  | _ => rfl

end Action

namespace Snapshot

variable {s : Snapshot} {i : Datum} {action : Action} {address : Datum}
  {change : Forest → Option Forest}

theorem after_eq_settled (s : Snapshot) (action : Action) :
    s.after action = settled (s.attempt action) s := by
  unfold after
  rcases s.attempt action with fault | (_ | next) <;> rfl

theorem fault?_of_programChange? (h : action.programChange? = some (address, change))
    (s : Snapshot) :
    s.fault? action =
      (s.holder? (s.addressee address)).bind fun a => action.programFault? a.blocks := by
  cases action with
  | addBlock | addChild | updateParams => cases h; rfl
  | removeBlock | clearBlocks => cases h; cases s.holder? (s.addressee address) <;> rfl
  | _ => cases h

/-- An action on the program of nobody is not carried out. -/
theorem attempt_of_nobody (h : action.programChange? = some (address, change))
    (hnobody : s.holder? (s.addressee address) = none) : s.attempt action = .ok none := by
  rw [attempt, fault?_of_programChange? h, after?_of_programChange? h, changeBlocks?,
    changeActor?_eq, hnobody]
  rfl

/-- **An action on a program** is carried out on the program of the addressed actor, and nothing
else is changed. -/
theorem attempt_of_holder (h : action.programChange? = some (address, change)) {a : Actor}
    (ha : s.holder? (s.addressee address) = some a) :
    s.attempt action = (action.rewrite? a.blocks).map
      (Option.map fun f => s.amend (s.addressee address) (·.withProgram f)) := by
  have hput (f : Forest) : s.amend (s.addressee address) (fun _ => a.withProgram f) =
      s.amend (s.addressee address) (·.withProgram f) := amend_congr fun b hb => by
    cases ha.symm.trans hb
    rfl
  rw [attempt, fault?_of_programChange? h, after?_of_programChange? h, changeBlocks?,
    changeActor?_eq, ha, Option.bind_some, Option.bind_some]
  cases hfault : action.programFault? a.blocks with
  | some fault =>
    rw [Action.rewrite?_of_fault hfault]
    rfl
  | none =>
    rw [Action.rewrite?_of_none h hfault]
    cases change a.blocks with
    | none => rfl
    | some f =>
      exact congrArg (fun next : Snapshot => (Except.ok (some next) : Except Fault _)) (hput f)

/-- What is left of an action on a program is what it makes of the program. -/
theorem after_of_programChange? (h : action.programChange? = some (address, change))
    (s : Snapshot) :
    s.after action = s.amend (s.addressee address) fun a =>
      a.withProgram (settled (action.rewrite? a.blocks) a.blocks) := by
  cases ha : s.holder? (s.addressee address) with
  | none =>
    rw [after_eq_settled, attempt_of_nobody h ha]
    exact (amend_eq_self fun a h => by cases ha.symm.trans h).symm
  | some a =>
    let put (f : Forest) : Snapshot := s.amend (s.addressee address) (·.withProgram f)
    have hself : put a.blocks = s := amend_eq_self fun b hb => by
      cases ha.symm.trans hb
      rfl
    calc s.after action
      _ = settled ((action.rewrite? a.blocks).map (Option.map put)) (put a.blocks) := by
        rw [after_eq_settled, attempt_of_holder h ha, hself]
      _ = put (settled (action.rewrite? a.blocks) a.blocks) := settled_map put _ _
      _ = _ := amend_congr fun b hb => by
        cases ha.symm.trans hb
        rfl

/-- **An action on one actor** changes that actor, and nothing else. -/
theorem after_eq_amend (h : action.subject? s = some i) :
    s.after action = s.amend i action.effect := by
  cases action with
  | addBlock | removeBlock | updateParams | addChild | clearBlocks =>
    cases h
    exact after_of_programChange? rfl s
  | updateActor actorId changes =>
    cases h
    cases changes with
    | object fields =>
      rw [after_of_none rfl]
      simp only [after?, Datum.fields]
      split
      · rename_i hnone
        exact (amend_eq_self fun a _ => congrArg a.setAll hnone).symm
      · exact getD_changeActor? s i _
    | _ => exact (amend_eq_self fun a _ => rfl).symm
  | _ => cases h

end Snapshot

end SpriteStage
