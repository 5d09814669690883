import SpriteStage.Proofs.Snapshot.Amend
import SpriteStage.Proofs.Walk.Course
import SpriteStage.Proofs.Walk.Within

/-!
# Snapshots up to the pose of one actor

A walk gives its actor another place, another direction and another message. Two snapshots that
differ in no more than that have the same form once the pose of the actor is taken away
(`Snapshot.unposed`). No action looks at poses, so whatever is done to two such snapshots, they stay
such (`Snapshot.unposed_after`); and what a block does leaves a snapshot such as it was
(`Snapshot.unposed_of_block`).
-/

namespace SpriteStage

namespace Actor

/-- The actor without its pose: where it is, where it looks, and what it says. -/
def unposed (a : Actor) : Actor :=
  { a with x := .null, y := .null, direction := .null, message := .null }

@[simp] theorem unposed_unposed (a : Actor) : a.unposed.unposed = a.unposed := rfl

theorem unposed_id (a : Actor) : a.unposed.id = a.id := rfl

theorem unposed_blocks (a : Actor) : a.unposed.blocks = a.blocks := rfl

@[simp] theorem hasId_unposed (id : Datum) (a : Actor) : a.unposed.hasId id = a.hasId id := rfl

/-- An attribute is of the pose, or it can be set before the pose is taken away. -/
theorem unposed_set (a : Actor) (which : Attribute) (value : Datum) :
    (a.unposed.set which value).unposed = (a.set which value).unposed := by
  cases which <;> rfl

/-- What is set depends on no pose. -/
theorem unposed_set_congr {a b : Actor} (h : a.unposed = b.unposed) (which : Attribute)
    (value : Datum) : (a.set which value).unposed = (b.set which value).unposed := by
  rw [← unposed_set a, ← unposed_set b, h]

theorem unposed_setAll (a : Actor) (changes : List (Attribute × Datum)) :
    (a.unposed.setAll changes).unposed = (a.setAll changes).unposed := by
  suffices h : ∀ {a b : Actor}, a.unposed = b.unposed →
      (a.setAll changes).unposed = (b.setAll changes).unposed from h (unposed_unposed a)
  induction changes with
  | nil => exact fun h => h
  | cons change rest ih => exact fun h => ih (unposed_set_congr h change.1 change.2)

end Actor

/-- The actors, the first of an identifier without its pose. -/
def unposeFirst (id : Datum) : List Actor → List Actor
  | [] => []
  | a :: rest => if a.hasId id then a.unposed :: rest else a :: unposeFirst id rest

variable {id other : Datum} {a : Actor} {l l' : List Actor}

theorem unposeFirst_eq_amendFirst (id : Datum) (l : List Actor) :
    unposeFirst id l = amendFirst id Actor.unposed l := by
  induction l with
  | nil => rfl
  | cons a rest ih => rw [unposeFirst, amendFirst, ih]

theorem unposeFirst_cons_of_pos (h : a.hasId id) :
    unposeFirst id (a :: l) = a.unposed :: l := if_pos h

theorem unposeFirst_cons_of_neg (h : ¬ a.hasId id) :
    unposeFirst id (a :: l) = a :: unposeFirst id l := if_neg h

theorem unposeFirst_eq_self (h : ∀ a ∈ l, ¬ a.hasId id) : unposeFirst id l = l := by
  induction l with
  | nil => rfl
  | cons a rest ih =>
    rw [unposeFirst_cons_of_neg (h a List.mem_cons_self)]
    exact congrArg (a :: ·) (ih fun b hb => h b (List.mem_cons_of_mem a hb))

theorem unposeFirst_append_cons {before rest : List Actor} (hbefore : ∀ c ∈ before, ¬ c.hasId id)
    (ha : a.hasId id) :
    unposeFirst id (before ++ a :: rest) = before ++ a.unposed :: rest := by
  induction before with
  | nil => exact unposeFirst_cons_of_pos ha
  | cons c before ih =>
    obtain ⟨hc, hbefore⟩ := List.forall_mem_cons.mp hbefore
    exact (unposeFirst_cons_of_neg hc).trans (congrArg (c :: ·) (ih hbefore))

/-- What is put behind the actors has its pose taken away only if nobody before it is meant. -/
theorem unposeFirst_append (id : Datum) (l l' : List Actor) :
    unposeFirst id (unposeFirst id l ++ l') = unposeFirst id (l ++ l') := by
  induction l with
  | nil => rfl
  | cons a rest ih => by_cases ha : a.hasId id <;> simp [unposeFirst, ha, ih]

@[simp] theorem unposeFirst_unposeFirst (id : Datum) (l : List Actor) :
    unposeFirst id (unposeFirst id l) = unposeFirst id l := by
  simpa using unposeFirst_append id l []

/-- Who is kept does not depend on poses. -/
theorem unposeFirst_filter {p : Actor → Bool} (hp : ∀ a, p a.unposed = p a) (id : Datum)
    (l : List Actor) :
    unposeFirst id ((unposeFirst id l).filter p) = unposeFirst id (l.filter p) := by
  induction l with
  | nil => rfl
  | cons a rest ih =>
    by_cases ha : a.hasId id <;> by_cases hpa : p a <;> simp [unposeFirst, ha, hp, hpa, ih]

/-- What is done to each actor apart from its pose can be done before the pose is taken away. -/
theorem unposeFirst_map {g : Actor → Actor} (hid : ∀ a, (g a).id = a.id)
    (hg : ∀ a, (g a.unposed).unposed = (g a).unposed) (id : Datum) (l : List Actor) :
    unposeFirst id ((unposeFirst id l).map g) = unposeFirst id (l.map g) := by
  have hhas (a : Actor) : (g a).hasId id = a.hasId id := congrArg (·.sameValue id) (hid a)
  induction l with
  | nil => rfl
  | cons a rest ih => by_cases ha : a.hasId id <;> simp [unposeFirst, hhas, ha, hg, ih]

/-- What is done to the first actor of some identifier apart from its pose can be done before the
pose is taken away. -/
theorem unposeFirst_changeFirst? {change : Actor → Option Actor}
    (hid : ∀ a b, change a = some b → b.id = a.id)
    (hchange : ∀ a, (change a.unposed).map Actor.unposed = (change a).map Actor.unposed)
    (id other : Datum) (l : List Actor) :
    (changeFirst? other change (unposeFirst id l)).map (unposeFirst id) =
      (changeFirst? other change l).map (unposeFirst id) := by
  induction l with
  | nil => rfl
  | cons a rest ih =>
    have hkeep {b c : Actor} (hc : change b = some c) (hb : b.id = a.id) :
        c.hasId id = a.hasId id := congrArg (·.sameValue id) ((hid b c hc).trans hb)
    by_cases ha : a.hasId id <;> by_cases hother : a.hasId other
    · have h := hchange a
      simp only [unposeFirst, changeFirst?, Actor.hasId_unposed, ha, hother, if_true]
      cases hb : change a with
      | none =>
        rw [hb, Option.map_none, Option.map_eq_none_iff] at h
        rw [h]
      | some b =>
        obtain ⟨c, hc, hcb⟩ := Option.map_eq_some_iff.mp (h.trans (by rw [hb]; rfl))
        rw [hc]
        simp [unposeFirst, hkeep hb rfl, hkeep hc rfl, ha, hcb]
    · simp [unposeFirst, changeFirst?, ha, hother, Option.map_map, Function.comp_def]
    · cases hb : change a with
      | none => simp [unposeFirst, changeFirst?, ha, hother, hb]
      | some b => simp [unposeFirst, changeFirst?, ha, hother, hb, hkeep hb rfl]
    · have hcons : unposeFirst id ∘ (a :: ·) = (a :: ·) ∘ unposeFirst id :=
        funext fun l => unposeFirst_cons_of_neg ha
      rw [unposeFirst_cons_of_neg ha, changeFirst?, changeFirst?, if_neg hother, if_neg hother,
        Option.map_map, Option.map_map, hcons, ← Option.map_map, ih, Option.map_map]

/-- To change the pose of the first actor of an identifier is nothing once the pose is taken
away. -/
theorem unposeFirst_of_changeFirst? {change : Actor → Option Actor}
    (hchange : ∀ a b, change a = some b → b.id = a.id ∧ b.unposed = a.unposed)
    (h : changeFirst? id change l = some l') : unposeFirst id l' = unposeFirst id l := by
  obtain ⟨before, a, rest, b, rfl, hbefore, ha, hb, rfl⟩ := Snapshot.exists_of_changeFirst? h
  obtain ⟨hid, hpose⟩ := hchange a b hb
  have hb' : b.hasId id := (hasId_congr_id hid id).trans ha
  rw [unposeFirst_append_cons hbefore ha, unposeFirst_append_cons hbefore hb', hpose]

theorem map_unposeFirst {α : Type} {f : Actor → α} (hf : ∀ a, f a.unposed = f a) (id : Datum)
    (l : List Actor) : (unposeFirst id l).map f = l.map f := by
  rw [unposeFirst_eq_amendFirst]
  exact map_eq_of_amendFirst hf id l

/-! ### Snapshots -/

namespace Snapshot

/-- The snapshot without the pose of an actor. -/
def unposed (id : Datum) (s : Snapshot) : Snapshot :=
  { s with actors := unposeFirst id s.actors }

@[simp] theorem unposed_unposed (id : Datum) (s : Snapshot) :
    (s.unposed id).unposed id = s.unposed id := by
  simp [unposed]

theorem unposed_eq_amend (id : Datum) (s : Snapshot) : s.unposed id = s.amend id Actor.unposed :=
  congrArg (fun actors => { s with actors }) (unposeFirst_eq_amendFirst id s.actors)

@[simp] theorem isSome_actor?_unposed (id other : Datum) (s : Snapshot) :
    ((s.unposed id).actor? other).isSome = (s.actor? other).isSome := by
  rw [unposed_eq_amend]
  exact isSome_actor?_amend Actor.unposed_id s id other

@[simp] theorem canSwap_unposed (id : Datum) (s : Snapshot) (first second : Datum) :
    (s.unposed id).canSwap first second = s.canSwap first second := by
  rw [unposed_eq_amend]
  exact canSwap_amend Actor.unposed_id s id first second

/-- No action fails for a pose. -/
theorem fault?_unposed (id : Datum) (s : Snapshot) (action : Action) :
    (s.unposed id).fault? action = s.fault? action := by
  rw [unposed_eq_amend]
  exact fault?_amend Actor.unposed_id Actor.unposed_blocks s id action

theorem changeActor?_unposed {change : Actor → Option Actor}
    (hid : ∀ a b, change a = some b → b.id = a.id)
    (hchange : ∀ a, (change a.unposed).map Actor.unposed = (change a).map Actor.unposed)
    (id other : Datum) (s : Snapshot) :
    ((s.unposed id).changeActor? other change).map (unposed id) =
      (s.changeActor? other change).map (unposed id) := by
  have h := congrArg (Option.map ({ s with actors := · }))
    (unposeFirst_changeFirst? hid hchange id other s.actors)
  simpa [changeActor?, unposed, Option.map_map, Function.comp_def] using h

/-- Who stays, and who is active then, does not depend on poses. -/
theorem withoutActor?_unposed (id actorId : Datum) (s : Snapshot) :
    ((s.unposed id).withoutActor? actorId).map (unposed id) =
      (s.withoutActor? actorId).map (unposed id) := by
  have hids : (unposeFirst id s.actors).map (·.id) = s.actors.map (·.id) :=
    map_unposeFirst (fun _ => rfl) id s.actors
  have hlength : (unposeFirst id s.actors).length = s.actors.length := by
    simpa using congrArg List.length hids
  have hnone : ((s.unposed id).actor? actorId).isNone = (s.actor? actorId).isNone := by
    rw [← Option.not_isSome, isSome_actor?_unposed, Option.not_isSome]
  have hfirst (l : List Actor) : (l.filter (!·.hasId actorId)).head?.map (·.id) =
      ((l.map (·.id)).filter (!·.sameValue actorId)).head? := by
    rw [List.filter_map, List.head?_map]
    rfl
  have hfilter := unposeFirst_filter (p := (!·.hasId actorId)) (fun _ => rfl) id s.actors
  have hrefused : ((s.unposed id).actors.length ≤ 1 || ((s.unposed id).actor? actorId).isNone) =
      (s.actors.length ≤ 1 || (s.actor? actorId).isNone) := by
    rw [hnone]
    exact congrArg (fun n => n ≤ 1 || (s.actor? actorId).isNone) hlength
  rw [withoutActor?, withoutActor?, hrefused]
  by_cases h : s.actors.length ≤ 1 || (s.actor? actorId).isNone
  · rw [if_pos h, if_pos h]
  · rw [if_neg h, if_neg h]
    simp only [unposed, Option.map_some, hfilter, hfirst, hids]

/-- Nor does what comes of an action that does not fail depend on poses. -/
theorem after?_unposed (id : Datum) (s : Snapshot) (action : Action) :
    ((s.unposed id).after? action).map (unposed id) = (s.after? action).map (unposed id) := by
  cases action with
  | addBlock | removeBlock | updateParams | addChild | clearBlocks =>
    rw [after?_of_programChange? rfl, after?_of_programChange? rfl]
    refine changeActor?_unposed (fun a b h => ?_) (fun a => ?_) id _ s
    · obtain ⟨f, -, rfl⟩ := Option.map_eq_some_iff.mp h
      rfl
    · simp [Actor.unposed, Option.map_map, Function.comp_def]
  | setRunning value => simp [after?, unposed]
  | updateActor actorId changes =>
    simp only [after?]
    split
    · rfl
    · refine changeActor?_unposed (fun a b h => ?_) (fun a => ?_) id actorId s
      · cases h
        exact a.setAll_id _
      · exact congrArg some (a.unposed_setAll _)
  | resetActors x y direction =>
    have h := unposeFirst_map (g := fun a => { a with x, y, direction, message := .null })
      (fun _ => rfl) (fun _ => rfl) id s.actors
    simp [after?, unposed, h]
  | addActor actor =>
    simp only [after?, withActor?, isSome_actor?_unposed]
    split_ifs
    · rfl
    · simp [unposed, unposeFirst_append]
  | removeActor actorId => exact withoutActor?_unposed id actorId s
  | selectActor actorId =>
    simp only [after?, withActive?, isSome_actor?_unposed]
    split_ifs
    · simp [unposed]
    · rfl
  | swapMoves first second =>
    simp only [after?, swapped?, canSwap_unposed]
    split_ifs
    · have h := unposeFirst_map
        (g := fun a => if a.hasId first || a.hasId second then a.turnMoves else a)
        (fun a => ?_) (fun a => ?_) id s.actors
      · exact congrArg (fun actors => some { s with actors }) h
      · split_ifs <;> rfl
      · rw [Actor.hasId_unposed, Actor.hasId_unposed]
        split_ifs <;> rfl
    · rfl
  | unknown => rfl

/-- **No action looks at poses.** -/
theorem unposed_after (id : Datum) (s : Snapshot) (action : Action) :
    ((s.unposed id).after action).unposed id = (s.after action).unposed id := by
  cases hf : s.fault? action with
  | some fault =>
    rw [after_of_fault hf, after_of_fault ((fault?_unposed id s action).trans hf), unposed_unposed]
  | none =>
    rw [after_of_none hf, after_of_none ((fault?_unposed id s action).trans hf)]
    have h := after?_unposed id s action
    cases hs : s.after? action with
    | none =>
      rw [hs, Option.map_none, Option.map_eq_none_iff] at h
      rw [h, Option.getD_none, Option.getD_none, unposed_unposed]
    | some s' =>
      obtain ⟨t, ht, hts⟩ := Option.map_eq_some_iff.mp (h.trans (by rw [hs]; rfl))
      rw [ht]
      exact hts

variable {id : Datum} {s s' : Snapshot}

/-- What is done to two snapshots that differ at most in the pose leaves them such. -/
theorem after_congr_unposed (h : s'.unposed id = s.unposed id) (action : Action) :
    (s'.after action).unposed id = (s.after action).unposed id := by
  rw [← unposed_after, h, unposed_after]

theorem afterAll_append (s : Snapshot) (actions actions' : List Action) :
    s.afterAll (actions ++ actions') = (s.afterAll actions).afterAll actions' :=
  List.foldl_append

theorem afterAll_congr_unposed (h : s'.unposed id = s.unposed id) (actions : List Action) :
    (s'.afterAll actions).unposed id = (s.afterAll actions).unposed id := by
  induction actions generalizing s s' with
  | nil => exact h
  | cons action rest ih => exact ih (after_congr_unposed h action)

/-- Snapshots that differ at most in the pose of somebody who is not there are the same. -/
theorem eq_of_unposed_eq (h : s'.unposed id = s.unposed id) (hid : id ≠ .null)
    (hs : s.actor? id = none) : s' = s := by
  have habsent : s.holder? id = none := by
    cases id <;> first | exact absurd rfl hid | exact hs
  have hnone : ∀ a ∈ s.actors, ¬ a.hasId id := List.find?_eq_none.mp habsent
  have hactors : unposeFirst id s'.actors = unposeFirst id s.actors := congrArg actors h
  -- who is there can be told without poses, so nobody of that identifier is there in the other
  have hids : s'.actors.map (·.hasId id) = s.actors.map (·.hasId id) := by
    rw [← map_unposeFirst (fun _ => rfl) id, hactors, map_unposeFirst fun _ => rfl]
  have hnone' : ∀ a ∈ s'.actors, ¬ a.hasId id := by
    intro a ha hhas
    have hmem : true ∈ s.actors.map (·.hasId id) := hids ▸ List.mem_map.mpr ⟨a, ha, hhas⟩
    obtain ⟨b, hb, hbid⟩ := List.mem_map.mp hmem
    exact hnone b hb hbid
  rw [unposed, unposed, unposeFirst_eq_self hnone, unposeFirst_eq_self hnone'] at h
  exact h

/-- **What a block does** is to change the pose of its actor. -/
theorem unposed_of_block {action : Action} (h : action.OfBlock id) (s : Snapshot) :
    (s.after action).unposed id = s.unposed id := by
  refine after_of_after? (P := fun s' => s'.unposed id = s.unposed id) rfl fun s' hs' => ?_
  have hpose {change : Actor → Option Actor}
      (hchange : ∀ a b, change a = some b → b.id = a.id ∧ b.unposed = a.unposed)
      (h : s.changeActor? id change = some s') : s'.unposed id = s.unposed id := by
    obtain ⟨actors, hactors, rfl⟩ := Option.map_eq_some_iff.mp h
    exact congrArg (fun actors => { s with actors }) (unposeFirst_of_changeFirst? hchange hactors)
  cases h with
  | place | direction | message =>
    refine hpose (fun a b hb => ?_) hs'
    cases hb
    exact ⟨rfl, rfl⟩

end Snapshot

end SpriteStage
