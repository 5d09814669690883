import SpriteStage.Proofs.Forest.Every
import SpriteStage.Proofs.Snapshot.Frame

/-!
# What becomes of an actor

What one action can do to the actors is said here once. Five actions change the program of the
addressed actor and nothing else (`Action.programChange?`). Each actor after an action is one that
was there before, with another program, other attributes, put back to the start or with its moves
turned, or else it is the one that the action brought in (`Snapshot.exists_of_mem_after`). Only
three actions have to do with who is there and who is active (`Snapshot.cast_after`).
-/

namespace SpriteStage

/-- The change of a program that an action stands for, with the address of the program. -/
def Action.programChange? : Action → Option (Datum × (Forest → Option Forest))
  | .addBlock block address => some (address, Snapshot.appended? block)
  | .removeBlock blockId address => some (address, Snapshot.erased? blockId)
  | .updateParams blockId params address =>
    some (address, Forest.modify? blockId (Block.withParams params.fields))
  | .addChild parentId block address => some (address, Snapshot.nested? parentId block)
  | .clearBlocks address => some (address, fun _ => some [])
  | _ => none

/-- What an action can make of an actor that is there. -/
inductive Actor.Becomes (action : Action) (a : Actor) : Actor → Prop
  | same : Becomes action a a
  /-- Its program is changed. -/
  | rewritten {address : Datum} {change : Forest → Option Forest} {f : Forest} :
      action.programChange? = some (address, change) → change a.blocks = some f →
      Becomes action a { a with blocks := f }
  /-- Attributes of it are set. -/
  | altered {actorId changes : Datum} : action = .updateActor actorId changes →
      Becomes action a (a.setAll (Snapshot.attributeChanges changes.fields))
  /-- It goes back to the start. -/
  | reset {x y direction : Datum} : action = .resetActors x y direction →
      Becomes action a { a with x, y, direction, message := .null }
  /-- Its moves are turned. -/
  | turned {first second : Datum} : action = .swapMoves first second →
      Becomes action a a.turnMoves

/-- What the action puts into a program has the property, and so does a block with the property that
its parameters are put into. -/
def Action.Brings (p : Block → Prop) : Action → Prop
  | .addBlock block _ | .addChild _ block _ => Forest.Every p [block]
  | .updateParams _ params _ => ∀ b : Block, p b → p (b.withParams params.fields)
  | _ => True

/-- What such an action makes of a program has the property throughout if the program had it. -/
theorem Action.Brings.rewritten {p : Block → Prop} (hp : Block.Own p) {action : Action}
    (ha : action.Brings p) {address : Datum} {change : Forest → Option Forest}
    (h : action.programChange? = some (address, change)) {f g : Forest} (hf : Forest.Every p f)
    (hg : change f = some g) : Forest.Every p g := by
  cases action with
  | addBlock block _ =>
    cases h
    obtain ⟨-, rfl⟩ := Forest.eq_of_appended? hg
    exact Forest.every_append_iff.mpr ⟨hf, ha⟩
  | removeBlock blockId _ =>
    cases h
    obtain rfl := Forest.eq_of_erased? hg
    exact hf.erase hp blockId
  | updateParams blockId params _ =>
    cases h
    refine hf.modify? hp (fun b hb => ?_) hg
    obtain ⟨hb, hchildren⟩ := Forest.every_singleton_iff.mp hb
    exact Forest.every_singleton_iff.mpr ⟨ha b hb, hchildren⟩
  | addChild parentId block _ =>
    cases h
    exact hf.nested hp ha hg
  | clearBlocks _ =>
    cases h
    cases hg
    exact Forest.every_nil
  | _ => cases h

theorem Actor.Becomes.id {action : Action} {a b : Actor} (h : a.Becomes action b) :
    b.id = a.id := by
  cases h with
  | altered _ => exact a.setAll_id _
  | same | rewritten | reset | turned => rfl

namespace Snapshot

variable {s s' : Snapshot} {action : Action}

theorem after?_of_programChange? {address : Datum} {change : Forest → Option Forest}
    (h : action.programChange? = some (address, change)) (s : Snapshot) :
    s.after? action = s.changeBlocks? address change := by
  cases action <;> cases h <;> rfl

/-- Unless somebody is brought in or taken away, actors correspond, and each becomes what the action
can make of it. -/
theorem match_of_after? (hadd : ∀ actor, action ≠ .addActor actor)
    (hremove : ∀ actorId, action ≠ .removeActor actorId) (h : s.after? action = some s') :
    s.Match (Actor.Becomes action) s' := by
  have hsame : ∀ a, Actor.Becomes action a a := fun _ => .same
  have hactors (h : s'.actors = s.actors) : s.Match (Actor.Becomes action) s' :=
    match_of_map (fun _ => rfl) hsame (h.trans (List.map_id _).symm)
  cases action with
  | addBlock | removeBlock | updateParams | addChild | clearBlocks =>
    rw [after?_of_programChange? rfl] at h
    exact match_changeBlocks? hsame (fun a f _ hf => .rewritten rfl hf) h
  | setRunning =>
    cases h
    exact hactors rfl
  | updateActor actorId changes =>
    simp only [after?] at h
    split at h
    · cases h
    · refine match_changeActor? hsame (fun a b _ hb => ?_) h
      cases hb
      exact ⟨a.setAll_id _, .altered rfl⟩
  | resetActors x y direction =>
    cases h
    exact match_of_map (g := fun a => { a with x, y, direction, message := .null }) (fun _ => rfl)
      (fun a => .reset rfl) rfl
  | addActor actor => exact absurd rfl (hadd actor)
  | removeActor actorId => exact absurd rfl (hremove actorId)
  | selectActor actorId =>
    simp only [after?, withActive?] at h
    split_ifs at h
    cases h
    exact hactors rfl
  | swapMoves first second =>
    simp only [after?, swapped?] at h
    split_ifs at h
    cases h
    refine match_of_map (g := fun a => if a.hasId first || a.hasId second then a.turnMoves else a)
      (fun a => ?_) (fun a => ?_) rfl
    · split_ifs <;> rfl
    · split_ifs
      · exact .turned rfl
      · exact .same
  | unknown => cases h

theorem Match.exists_of_mem {R : Actor → Actor → Prop} (h : s.Match R s') {b : Actor}
    (hb : b ∈ s'.actors) : ∃ a ∈ s.actors, b.id = a.id ∧ R a b := by
  unfold Match at h
  generalize s.actors = l, s'.actors = l' at h hb
  induction h with
  | nil => cases hb
  | @cons a c l l' hac _ ih =>
    rcases List.mem_cons.mp hb with rfl | hb
    · exact ⟨a, List.mem_cons_self, hac⟩
    · obtain ⟨d, hd, hdb⟩ := ih hb
      exact ⟨d, List.mem_cons_of_mem _ hd, hdb⟩

/-- Who is there after somebody was taken away was there before. -/
theorem mem_of_withoutActor? {id : Datum} (h : s.withoutActor? id = some s') {a : Actor}
    (ha : a ∈ s'.actors) : a ∈ s.actors := by
  unfold withoutActor? at h
  by_cases hrefused : s.actors.length ≤ 1 || (s.actor? id).isNone
  · rw [if_pos hrefused] at h
    cases h
  · rw [if_neg hrefused] at h
    cases h
    exact List.mem_of_mem_filter ha

/-- **What becomes of actors**: each was there before and became what the action can make of it, or
was brought in. -/
theorem exists_of_mem_after {b : Actor} (hb : b ∈ (s.after action).actors) :
    (∃ a ∈ s.actors, a.Becomes action b) ∨ action = .addActor b := by
  revert hb
  refine after_of_after? (P := fun s' => b ∈ s'.actors → _) (fun hb => .inl ⟨b, hb, .same⟩) ?_
  intro s' h hb
  by_cases hadd : ∃ actor, action = .addActor actor
  · obtain ⟨actor, rfl⟩ := hadd
    simp only [after?, withActor?] at h
    split_ifs at h
    cases h
    rcases List.mem_append.mp hb with hb | hb
    · exact .inl ⟨b, hb, .same⟩
    · cases List.mem_singleton.mp hb
      exact .inr rfl
  by_cases hremove : ∃ actorId, action = .removeActor actorId
  · obtain ⟨actorId, rfl⟩ := hremove
    exact .inl ⟨b, mem_of_withoutActor? h hb, .same⟩
  · have hmatch := match_of_after? (not_exists.mp hadd) (not_exists.mp hremove) h
    obtain ⟨a, ha, -, hab⟩ := hmatch.exists_of_mem hb
    exact .inl ⟨a, ha, hab⟩

/-- What an action can come to, if it is carried out. -/
theorem after?_cases (h : s.after? action = some s') :
    (∃ actors, s' = { s with actors }) ∨
    (∃ value, action = .setRunning value ∧ s' = { s with isRunning := .bool value.truthy }) ∨
    (∃ actor, action = .addActor actor ∧ s.withActor? actor = some s') ∨
    (∃ id, action = .removeActor id ∧ s.withoutActor? id = some s') ∨
    ∃ id, action = .selectActor id ∧ s.withActive? id = some s' := by
  have hactor {id : Datum} {change : Actor → Option Actor}
      (hchange : s.changeActor? id change = some s') : ∃ actors, s' = { s with actors } := by
    obtain ⟨actors, -, rfl⟩ := Option.map_eq_some_iff.mp hchange
    exact ⟨actors, rfl⟩
  cases action with
  | addBlock | removeBlock | updateParams | addChild | clearBlocks =>
    rw [after?_of_programChange? rfl] at h
    exact .inl (hactor h)
  | setRunning value =>
    cases h
    exact .inr (.inl ⟨value, rfl, rfl⟩)
  | updateActor actorId changes =>
    simp only [after?] at h
    split at h
    · cases h
    · exact .inl (hactor h)
  | resetActors x y direction =>
    cases h
    exact .inl ⟨_, rfl⟩
  | addActor actor => exact .inr (.inr (.inl ⟨actor, rfl, h⟩))
  | removeActor actorId => exact .inr (.inr (.inr (.inl ⟨actorId, rfl, h⟩)))
  | selectActor actorId => exact .inr (.inr (.inr (.inr ⟨actorId, rfl, h⟩)))
  | swapMoves first second =>
    simp only [after?, swapped?] at h
    split_ifs at h
    cases h
    exact .inl ⟨_, rfl⟩
  | unknown _ => cases h

/-- Nothing but an action for it changes the running flag. -/
theorem isRunning_after (h : ∀ value, action ≠ .setRunning value) (s : Snapshot) :
    (s.after action).isRunning = s.isRunning := by
  refine after_of_after? (P := fun s' => s'.isRunning = s.isRunning) rfl fun s' hs' => ?_
  obtain ⟨actors, rfl⟩ | ⟨value, rfl, -⟩ | ⟨actor, -, h'⟩ | ⟨id, -, h'⟩ | ⟨id, -, h'⟩ :=
    after?_cases hs'
  · rfl
  · exact absurd rfl (h value)
  · unfold withActor? at h'
    split_ifs at h'
    cases h'
    rfl
  · unfold withoutActor? at h'
    split_ifs at h' <;> (cases h'; rfl)
  · unfold withActive? at h'
    split_ifs at h'
    cases h'
    rfl

/-- The same actors are there, by their identifiers, and the same one is active. -/
structure SameCast (s s' : Snapshot) : Prop where
  ids : s'.actors.map (·.id) = s.actors.map (·.id)
  active : s'.activeActorId = s.activeActorId

/-- **Who is there and who is active** is a matter of three actions. -/
theorem sameCast_of_after? (hadd : ∀ actor, action ≠ .addActor actor)
    (hremove : ∀ actorId, action ≠ .removeActor actorId)
    (hselect : ∀ actorId, action ≠ .selectActor actorId) (h : s.after? action = some s') :
    s.SameCast s' := by
  refine ⟨(match_of_after? hadd hremove h).map_id, ?_⟩
  obtain ⟨actors, rfl⟩ | ⟨value, -, rfl⟩ | ⟨actor, h', -⟩ | ⟨id, h', -⟩ | ⟨id, h', -⟩ :=
    after?_cases h
  · rfl
  · rfl
  · exact absurd h' (hadd actor)
  · exact absurd h' (hremove id)
  · exact absurd h' (hselect id)

end Snapshot

end SpriteStage
