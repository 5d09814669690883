import SpriteStage.Proofs.Snapshot.Removal
import SpriteStage.Proofs.Snapshot.Unposed

/-!
# Who has a message

A snapshot is silent if nobody has a message (`Snapshot.Silent`). A *mute* action gives nobody a
message, though it may take one away; a *discreet* one has nothing to do with messages, and takes
nobody away who might have one. Two things are followed from action to action: that nobody but one
actor has a message, and that there is only one that it can be (`Snapshot.Hushed`); and that the
actor has just that message (`Snapshot.Shows`).
-/

namespace SpriteStage

namespace Action

/-- The message that the action gives to whom it changes; none if it has nothing to do with
messages. -/
def message? : Action → Option Datum
  | updateActor _ (.object [(.text "message", message)]) => some message
  | resetActors .. => some .null
  | _ => none

/-- The action gives nobody a message. -/
def Mute : Action → Prop
  | updateActor _ changes => ∀ change ∈ Snapshot.attributeChanges changes.fields,
      change.1 = .message → change.2 = .null
  | addActor actor => actor.message = .null
  | _ => True

/-- The action has nothing to do with messages, and takes nobody away. -/
def Discreet : Action → Prop
  | updateActor _ changes => ∀ change ∈ Snapshot.attributeChanges changes.fields,
      change.1 ≠ .message
  | resetActors .. | removeActor _ => False
  | addActor actor => actor.message = .null
  | _ => True

/-- To give an actor a message. -/
def tell (actorId message : Datum) : Action :=
  .updateActor actorId (.object [("message", message)])

variable {action : Action} {actorId : Datum}

theorem Discreet.mute (h : action.Discreet) : action.Mute := by
  cases action with
  | updateActor actorId changes => exact fun change hc hmessage => absurd hmessage (h change hc)
  | addActor actor => exact h
  | resetActors | removeActor => exact h.elim
  | _ => trivial

end Action

namespace Actor

theorem message_set (a : Actor) (which : Attribute) (value : Datum) :
    (a.set which value).message = if which = .message then value else a.message := by
  cases which <;> rfl

/-- Where no change is of the message, it stays. -/
theorem message_setAll {changes : List (Attribute × Datum)} (h : ∀ c ∈ changes, c.1 ≠ .message)
    (a : Actor) : (a.setAll changes).message = a.message := by
  induction changes generalizing a with
  | nil => rfl
  | cons change rest ih =>
    rw [List.forall_mem_cons] at h
    exact (ih h.2 _).trans ((a.message_set _ _).trans (if_neg h.1))

/-- Where no change gives a message, the actor has none or the one that it had. -/
theorem message_setAll_of_null {changes : List (Attribute × Datum)}
    (h : ∀ c ∈ changes, c.1 = .message → c.2 = .null) (a : Actor) :
    (a.setAll changes).message = .null ∨ (a.setAll changes).message = a.message := by
  induction changes generalizing a with
  | nil => exact .inr rfl
  | cons change rest ih =>
    rw [List.forall_mem_cons] at h
    obtain hnull | hsame := ih h.2 (a.set change.1 change.2)
    · exact .inl hnull
    · have hset := hsame.trans (a.message_set change.1 change.2)
      split_ifs at hset with hmessage
      · exact .inl (hset.trans (h.1 hmessage))
      · exact .inr hset

variable {action : Action} {a b : Actor}

theorem message_of_becomes (hm : action.Mute) (h : a.Becomes action b) :
    b.message = .null ∨ b.message = a.message := by
  cases h with
  | altered hact =>
    subst hact
    exact message_setAll_of_null hm a
  | reset => exact .inl rfl
  | same | rewritten | turned => exact .inr rfl

theorem message_eq_of_becomes (hm : action.Discreet) (h : a.Becomes action b) :
    b.message = a.message := by
  cases h with
  | altered hact =>
    subst hact
    exact message_setAll hm a
  | reset hact =>
    subst hact
    exact hm.elim
  | same | rewritten | turned => rfl

end Actor

namespace Snapshot

variable {s : Snapshot} {action : Action} {actions : List Action} {actorId message : Datum}

/-- What each action of a kind preserves, any number of them preserves. -/
theorem afterAll_preserves {P : Action → Prop} {J : Snapshot → Prop}
    (hJ : ∀ {s action}, P action → J s → J (s.after action)) (h : ∀ action ∈ actions, P action)
    (hs : J s) : J (s.afterAll actions) := by
  induction actions generalizing s with
  | nil => exact hs
  | cons action rest ih =>
    rw [List.forall_mem_cons] at h
    exact ih h.2 (hJ h.1 hs)

/-- Nobody has a message. -/
def Silent (s : Snapshot) : Prop := ∀ a ∈ s.actors, a.message = .null

/-- Nobody has a message but the actor of the identifier, and nobody has another one than this. -/
structure Hushed (actorId message : Datum) (s : Snapshot) : Prop where
  others : (s.unposed actorId).Silent
  only : ∀ a ∈ s.actors, a.message = .null ∨ a.message = message

/-- The actor of the identifier is there, and this is its message. -/
def Shows (actorId message : Datum) (s : Snapshot) : Prop :=
  ∃ a, s.holder? actorId = some a ∧ a.message = message

theorem Hushed.silent (h : s.Hushed actorId .null) : s.Silent := fun a ha => by
  simpa using h.only a ha

theorem Silent.not_any_truthy (h : s.Silent) :
    ¬ s.actors.any (·.message.truthy) = true := by
  rw [List.any_eq_true]
  rintro ⟨a, ha, hmessage⟩
  rw [h a ha] at hmessage
  cases hmessage

/-! ### Nobody but one -/

theorem eq_or_of_mem_unposeFirst {l : List Actor} {b : Actor} (h : b ∈ unposeFirst actorId l) :
    b ∈ l ∨ b.message = .null := by
  induction l with
  | nil => cases h
  | cons a rest ih =>
    by_cases ha : a.hasId actorId
    · rw [unposeFirst_cons_of_pos ha] at h
      rcases List.mem_cons.mp h with rfl | h
      · exact .inr rfl
      · exact .inl (List.mem_cons_of_mem _ h)
    · rw [unposeFirst_cons_of_neg ha] at h
      rcases List.mem_cons.mp h with rfl | h
      · exact .inl List.mem_cons_self
      · exact (ih h).imp_left (List.mem_cons_of_mem _)

theorem Silent.unposed (hs : s.Silent) (actorId : Datum) : (s.unposed actorId).Silent :=
  fun b hb => (eq_or_of_mem_unposeFirst hb).elim (hs b) id

theorem Silent.hushed (hs : s.Silent) (actorId message : Datum) : s.Hushed actorId message :=
  ⟨hs.unposed actorId, fun a ha => .inl (hs a ha)⟩

/-- After a mute action, nobody has a message that nobody had before. -/
theorem exists_message_of_mem_after (hm : action.Mute) {b : Actor}
    (hb : b ∈ (s.after action).actors) :
    b.message = .null ∨ ∃ a ∈ s.actors, b.message = a.message := by
  obtain ⟨a, ha, hab⟩ | rfl := exists_of_mem_after hb
  · exact (Actor.message_of_becomes hm hab).imp_right fun h => ⟨a, ha, h⟩
  · exact .inl hm

theorem Silent.after (hs : s.Silent) (hm : action.Mute) : (s.after action).Silent := by
  intro b hb
  obtain hnull | ⟨a, ha, hsame⟩ := exists_message_of_mem_after hm hb
  · exact hnull
  · exact hsame.trans (hs a ha)

theorem Hushed.after (h : s.Hushed actorId message) (hm : action.Mute) :
    (s.after action).Hushed actorId message where
  others := unposed_after actorId s action ▸ (h.others.after hm).unposed actorId
  only b hb := by
    obtain hnull | ⟨a, ha, hsame⟩ := exists_message_of_mem_after hm hb
    · exact .inl hnull
    · exact hsame ▸ h.only a ha

/-- To change the first of an identifier changes nobody else, so that all others stay silent. -/
theorem message_of_changeFirst? {change : Actor → Option Actor} {l l' : List Actor}
    (hl : ∀ a ∈ unposeFirst actorId l, a.message = .null)
    (h : changeFirst? actorId change l = some l') {b : Actor} (hb : b ∈ l') :
    b.message = .null ∨ ∃ a, change a = some b := by
  obtain ⟨before, a, rest, c, rfl, hbefore, ha, hc, rfl⟩ := exists_of_changeFirst? h
  rw [unposeFirst_append_cons hbefore ha, List.forall_mem_append, List.forall_mem_cons] at hl
  obtain ⟨hsilent, -, hsilent'⟩ := hl
  rcases List.mem_append.mp hb with hb | hb
  · exact .inl (hsilent b hb)
  · rcases List.mem_cons.mp hb with rfl | hb
    · exact .inr ⟨a, hc⟩
    · exact .inl (hsilent' b hb)

theorem after?_tell (s : Snapshot) (actorId message : Datum) :
    s.after? (.tell actorId message) =
      s.changeActor? actorId fun a => some { a with message } := rfl

/-- To give the actor another message leaves that as the only one. -/
theorem Hushed.tell (h : s.Hushed actorId message) (other : Datum) :
    (s.after (.tell actorId other)).Hushed actorId other where
  others := (unposed_of_block (.message other) s).symm ▸ h.others
  only := by
    rw [after_of_none rfl, after?_tell, changeActor?]
    cases hchange : changeFirst? actorId (fun a => some { a with message := other }) s.actors with
    | none =>
      have habsent : ∀ a ∈ s.actors, ¬ a.hasId actorId := by
        have hnone := changeFirst?_eq_none_iff.mp hchange
        refine List.find?_eq_none.mp (Option.eq_none_iff_forall_ne_some.mpr fun a ha => ?_)
        cases hnone a ha
      have hsilent : s.Silent := by
        have hothers : ∀ a ∈ unposeFirst actorId s.actors, a.message = .null := h.others
        rwa [unposeFirst_eq_self habsent] at hothers
      exact fun a ha => .inl (hsilent a ha)
    | some actors =>
      intro b hb
      obtain hnull | ⟨a, ha⟩ := message_of_changeFirst? h.others hchange hb
      · exact .inl hnull
      · cases ha
        exact .inr rfl

/-- To put all actors to the start leaves nobody with a message. -/
theorem silent_after_resetActors (s : Snapshot) (x y direction : Datum) :
    (s.after (.resetActors x y direction)).Silent :=
  List.forall_mem_map.mpr fun _ _ => rfl

/-! ### The one -/

theorem Shows.after (h : s.Shows actorId message) (hm : action.Discreet) :
    (s.after action).Shows actorId message := by
  refine after_of_after? (P := Shows actorId message) h fun s' hs' => ?_
  obtain ⟨a, ha, rfl⟩ := h
  by_cases hadd : ∃ actor, action = .addActor actor
  · obtain ⟨actor, rfl⟩ := hadd
    simp only [after?, withActor?] at hs'
    split_ifs at hs'
    cases hs'
    exact ⟨a, List.find?_append.trans (congrArg (Option.or · _) ha), rfl⟩
  · have hremove (id : Datum) : action ≠ .removeActor id := by
      rintro rfl
      exact hm
    obtain ⟨b, hb, hab⟩ := find?_of_forall₂ (match_of_after? (not_exists.mp hadd) hremove hs') ha
    exact ⟨b, hb, Actor.message_eq_of_becomes hm hab⟩

theorem Shows.tell (h : s.Shows actorId message) (other : Datum) :
    (s.after (.tell actorId other)).Shows actorId other := by
  obtain ⟨a, ha, -⟩ := h
  rw [after_of_none rfl, after?_tell, changeActor?]
  cases hchange : changeFirst? actorId (fun a => some { a with message := other }) s.actors with
  | none => cases changeFirst?_eq_none_iff.mp hchange a ha
  | some actors =>
    obtain ⟨c, b, -, hb, hfind⟩ := find?_of_changeFirst? (fun a b hb => by cases hb; rfl) hchange
    cases hb
    exact ⟨_, hfind, rfl⟩

theorem Shows.reset (h : s.Shows actorId message) (x y direction : Datum) :
    (s.after (.resetActors x y direction)).Shows actorId .null := by
  obtain ⟨a, ha, -⟩ := h
  let back (a : Actor) : Actor := { a with x, y, direction, message := .null }
  have hmatch : s.Match (fun _ b => b.message = .null) (s.after (.resetActors x y direction)) :=
    match_of_map (g := back) (fun _ => rfl) (fun _ => rfl) rfl
  exact find?_of_forall₂ hmatch ha

end Snapshot

end SpriteStage
