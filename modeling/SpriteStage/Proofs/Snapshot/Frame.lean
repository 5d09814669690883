import SpriteStage.Proofs.Forest.Shape
import SpriteStage.Proofs.Store.Quiet
import Mathlib.Data.List.Forall2

/-!
# What actions change of the actors

Most actions leave the list of actors as it is, but for what one or some of the actors hold. Two
snapshots *correspond* by a relation if their actors, one by one, have the same identifiers and are
so related (`Snapshot.Match`); whoever is found under an identifier in the first is then found in
the second, and related. There is one lemma for each way in which an action changes actors.
-/

namespace SpriteStage

namespace Snapshot

/-- The actors of the two snapshots correspond in order: identifiers are the same, and `R` holds. -/
def Match (R : Actor → Actor → Prop) (s s' : Snapshot) : Prop :=
  List.Forall₂ (fun a b => b.id = a.id ∧ R a b) s.actors s'.actors

variable {R : Actor → Actor → Prop} {s s' : Snapshot}

theorem Match.refl (hR : ∀ a, R a a) (s : Snapshot) : s.Match R s :=
  List.forall₂_same.mpr fun a _ => ⟨rfl, hR a⟩

/-- What corresponding actors have in common, the lists of actors have in common. -/
theorem Match.map_eq {α : Type} {f : Actor → α} (h : s.Match R s')
    (hf : ∀ a b, b.id = a.id → R a b → f b = f a) : s'.actors.map f = s.actors.map f := by
  unfold Match at h
  generalize s.actors = l, s'.actors = l' at h
  induction h with
  | nil => rfl
  | cons hab _ ih => rw [List.map_cons, List.map_cons, hf _ _ hab.1 hab.2, ih]

theorem Match.map_id (h : s.Match R s') :
    s'.actors.map (·.id) = s.actors.map (·.id) := h.map_eq fun _ _ hid _ => hid

theorem find?_of_forall₂ {id : Datum} {l l' : List Actor}
    (h : List.Forall₂ (fun a b => b.id = a.id ∧ R a b) l l') {a : Actor}
    (ha : l.find? (·.hasId id) = some a) : ∃ b, l'.find? (·.hasId id) = some b ∧ R a b := by
  induction h with
  | nil => cases ha
  | @cons c d l l' hcd _ ih =>
    have hid : d.hasId id = c.hasId id := congrArg (·.sameValue id) hcd.1
    by_cases hc : c.hasId id
    · rw [List.find?_cons_of_pos hc] at ha
      cases ha
      exact ⟨d, by rw [List.find?_cons_of_pos (hid.trans hc)], hcd.2⟩
    · rw [List.find?_cons_of_neg hc] at ha
      obtain ⟨b, hb, hR⟩ := ih ha
      exact ⟨b, by rwa [List.find?_cons_of_neg (hid ▸ hc)], hR⟩

theorem actor?_eq_some_iff {id : Datum} {a : Actor} :
    s.actor? id = some a ↔ id ≠ .null ∧ s.actors.find? (·.hasId id) = some a := by
  cases id <;> simp [actor?, holder?]

theorem mem_of_actor? {id : Datum} {a : Actor} (h : s.actor? id = some a) : a ∈ s.actors :=
  List.mem_of_find?_eq_some (actor?_eq_some_iff.mp h).2

theorem hasId_of_actor? {id : Datum} {a : Actor} (h : s.actor? id = some a) : a.hasId id := by
  simpa using List.find?_some (actor?_eq_some_iff.mp h).2

/-- A text under which nobody is found is the identifier of nobody. -/
theorem not_hasId_of_actor?_eq_none {id : Datum} (hid : id.IsText) (h : s.actor? id = none) :
    ∀ a ∈ s.actors, ¬ a.hasId id := by
  obtain ⟨name, rfl⟩ := hid
  exact List.find?_eq_none.mp h

/-- Whoever is found in the first snapshot is found in the second, and related. -/
theorem Match.actor? (h : s.Match R s') {id : Datum} {a : Actor} (ha : s.actor? id = some a) :
    ∃ b, s'.actor? id = some b ∧ R a b := by
  obtain ⟨hid, hf⟩ := actor?_eq_some_iff.mp ha
  obtain ⟨b, hb, hR⟩ := find?_of_forall₂ h hf
  exact ⟨b, actor?_eq_some_iff.mpr ⟨hid, hb⟩, hR⟩

/-! ### Ways to change actors -/

/-- To change the first actor of an identifier leaves the others as they are. -/
theorem exists_of_changeFirst? {id : Datum} {change : Actor → Option Actor} {l l' : List Actor}
    (h : changeFirst? id change l = some l') :
    ∃ before a rest b, l = before ++ a :: rest ∧ (∀ c ∈ before, ¬ c.hasId id) ∧ a.hasId id ∧
      change a = some b ∧ l' = before ++ b :: rest := by
  induction l generalizing l' with
  | nil => cases h
  | cons a rest ih =>
    rw [changeFirst?] at h
    split_ifs at h with hid
    · obtain ⟨b, hb, rfl⟩ := Option.map_eq_some_iff.mp h
      exact ⟨[], a, rest, b, rfl, List.forall_mem_nil _, hid, hb, rfl⟩
    · obtain ⟨rest', hrest, rfl⟩ := Option.map_eq_some_iff.mp h
      obtain ⟨before, c, after, b, rfl, hbefore, hc, hb, rfl⟩ := ih hrest
      exact ⟨a :: before, c, after, b, rfl, List.forall_mem_cons.mpr ⟨hid, hbefore⟩, hc, hb, rfl⟩

/-- Who is found is the first of the identifier. -/
theorem find?_append_cons {id : Datum} {before rest : List Actor} {a : Actor}
    (hbefore : ∀ c ∈ before, ¬ c.hasId id) (ha : a.hasId id) :
    (before ++ a :: rest).find? (·.hasId id) = some a := by
  rw [List.find?_append, List.find?_eq_none.mpr hbefore, Option.none_or,
    List.find?_cons_of_pos ha]

theorem forall₂_changeFirst? {id : Datum} {change : Actor → Option Actor} (hR : ∀ a, R a a)
    (hc : ∀ a b, a.hasId id → change a = some b → b.id = a.id ∧ R a b) {l l' : List Actor}
    (h : changeFirst? id change l = some l') :
    List.Forall₂ (fun a b => b.id = a.id ∧ R a b) l l' := by
  obtain ⟨before, a, rest, b, rfl, -, ha, hb, rfl⟩ := exists_of_changeFirst? h
  have hself (l : List Actor) : List.Forall₂ (fun a b => b.id = a.id ∧ R a b) l l :=
    List.forall₂_same.mpr fun a _ => ⟨rfl, hR a⟩
  exact List.rel_append (hself before) (.cons (hc a b ha hb) (hself rest))

theorem match_changeActor? {id : Datum} {change : Actor → Option Actor} (hR : ∀ a, R a a)
    (hc : ∀ a b, a.hasId id → change a = some b → b.id = a.id ∧ R a b)
    (h : s.changeActor? id change = some s') : s.Match R s' := by
  obtain ⟨actors, ha, rfl⟩ := Option.map_eq_some_iff.mp h
  exact forall₂_changeFirst? hR hc ha

theorem match_changeBlocks? {address : Datum} {change : Forest → Option Forest} (hR : ∀ a, R a a)
    (hc : ∀ a f, a.hasId (s.addressee address) → change a.blocks = some f →
      R a { a with blocks := f })
    (h : s.changeBlocks? address change = some s') : s.Match R s' := by
  refine match_changeActor? hR (fun a b hid hb => ?_) h
  obtain ⟨f, hf, rfl⟩ := Option.map_eq_some_iff.mp hb
  exact ⟨rfl, hc a f hid hf⟩

theorem match_of_map {g : Actor → Actor} (hid : ∀ a, (g a).id = a.id) (hR : ∀ a, R a (g a))
    (h : s'.actors = s.actors.map g) : s.Match R s' := by
  unfold Match
  rw [h, List.forall₂_map_right_iff]
  exact List.forall₂_same.mpr fun a _ => ⟨hid a, hR a⟩

/-- What holds of the snapshot itself and of what comes of an action that is carried out holds
after the action. -/
theorem after_of_after? {P : Snapshot → Prop} {a : Action} (hs : P s)
    (h : ∀ s', s.after? a = some s' → P s') : P (s.after a) := by
  cases hf : s.fault? a with
  | some fault => rwa [after_of_fault hf]
  | none =>
    rw [after_of_none hf]
    cases ha : s.after? a with
    | none => exact hs
    | some s' => exact h s' ha

end Snapshot

namespace Actor

theorem get_set (a : Actor) (which other : Attribute) (value : Datum) :
    (a.set which value).get other = if other = which then value else a.get other := by
  cases which <;> cases other <;> rfl

@[simp] theorem set_id (a : Actor) (which : Attribute) (value : Datum) :
    (a.set which value).id = a.id := by cases which <;> rfl

@[simp] theorem set_blocks (a : Actor) (which : Attribute) (value : Datum) :
    (a.set which value).blocks = a.blocks := by cases which <;> rfl

@[simp] theorem setAll_id (a : Actor) (changes : List (Attribute × Datum)) :
    (a.setAll changes).id = a.id := by
  induction changes generalizing a with
  | nil => rfl
  | cons c rest ih => exact (ih _).trans (a.set_id _ _)

@[simp] theorem setAll_blocks (a : Actor) (changes : List (Attribute × Datum)) :
    (a.setAll changes).blocks = a.blocks := by
  induction changes generalizing a with
  | nil => rfl
  | cons c rest ih => exact (ih _).trans (a.set_blocks _ _)

end Actor

namespace Snapshot

variable {R : Actor → Actor → Prop}

/-- A change of attributes leaves all programs as they are. -/
theorem match_updateActor (hR : ∀ a b : Actor, b.blocks = a.blocks → R a b) (s : Snapshot)
    (actorId changes : Datum) : s.Match R (s.after (.updateActor actorId changes)) := by
  refine after_of_after? (.refl (fun a => hR a a rfl) s) fun s' h => ?_
  simp only [after?] at h
  split at h
  · cases h
  · refine match_changeActor? (fun a => hR a a rfl) (fun a b _ hb => ?_) h
    cases hb
    exact ⟨a.setAll_id _, hR _ _ (a.setAll_blocks _)⟩

/-- To go back to the start leaves all programs as they are. -/
theorem match_resetActors (hR : ∀ a b : Actor, b.blocks = a.blocks → R a b) (s : Snapshot)
    (x y direction : Datum) : s.Match R (s.after (.resetActors x y direction)) :=
  match_of_map (g := fun a => { a with x, y, direction, message := .null }) (fun _ => rfl)
    (fun a => hR a _ rfl) rfl

/-- To turn the moves of two actors leaves the other programs as they are. -/
theorem match_swapMoves (hR : ∀ a, R a a) (ht : ∀ a : Actor, R a a.turnMoves) (s : Snapshot)
    (first second : Datum) : s.Match R (s.after (.swapMoves first second)) := by
  refine after_of_after? (.refl hR s) fun s' h => ?_
  simp only [after?, swapped?] at h
  split_ifs at h
  cases h
  refine match_of_map (g := fun a => if a.hasId first || a.hasId second then a.turnMoves else a)
    (fun a => ?_) (fun a => ?_) rfl
  · split_ifs <;> rfl
  · split_ifs
    · exact ht a
    · exact hR a

/-- To make an actor the active one leaves the actors as they are. -/
theorem actors_after_selectActor (s : Snapshot) (actorId : Datum) :
    (s.after (.selectActor actorId)).actors = s.actors := by
  refine after_of_after? (P := fun s' => s'.actors = s.actors) rfl fun s' h => ?_
  simp only [after?, withActive?] at h
  split_ifs at h
  cases h
  rfl

end Snapshot

end SpriteStage
