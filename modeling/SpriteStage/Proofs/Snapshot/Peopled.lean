import SpriteStage.Proofs.Snapshot.Change
import SpriteStage.Proofs.Store.Chronicle
import SpriteStage.View

/-!
# Peopled snapshots

A snapshot is peopled if somebody is there, no two have the same identifier, and the active actor is
one of those who are there. The three support each other: whoever is taken away leaves somebody
behind, since no two are alike, and if it was the active one then somebody who is left takes its
place. Every action keeps a snapshot peopled, whatever else it carries, as long as an actor that it
brings in has a text for its identifier (`Snapshot.Peopled.after`). So it goes on through all that
is dispatched, by whomever and in the midst of whatever (`Audience.peopled_throughout`).
-/

namespace SpriteStage

/-- Somebody is there, no two have the same identifier, and one of them is active. -/
structure Snapshot.Peopled (s : Snapshot) : Prop where
  nonempty : s.actors ≠ []
  texts : ∀ a ∈ s.actors, a.id.IsText
  distinct : s.actors.Pairwise fun a b => ¬ a.id.sameValue b.id
  active : ∃ a ∈ s.actors, a.id = s.activeActorId

/-- Who is brought in, if anybody is, has a text for its identifier. -/
def Action.Named : Action → Prop
  | .addActor actor => actor.id.IsText
  | _ => True

namespace Snapshot

variable {s s' : Snapshot}

namespace Peopled

/-- To be peopled is a matter of who is there and who is active. -/
theorem of_sameCast (hs : s.Peopled) (h : s.SameCast s') : s'.Peopled where
  nonempty hnil := by
    have hids := h.ids
    rw [hnil] at hids
    exact hs.nonempty (List.map_eq_nil_iff.mp hids.symm)
  texts b hb := by
    have hmem : b.id ∈ s.actors.map (·.id) := h.ids ▸ List.mem_map_of_mem hb
    obtain ⟨a, ha, hid⟩ := List.mem_map.mp hmem
    exact hid ▸ hs.texts a ha
  distinct := by
    have hdistinct : (s.actors.map (·.id)).Pairwise fun a b => ¬ a.sameValue b :=
      List.pairwise_map.mpr hs.distinct
    rw [← h.ids] at hdistinct
    exact List.pairwise_map.mp hdistinct
  active := by
    obtain ⟨a, ha, hid⟩ := hs.active
    have hmem : a.id ∈ s'.actors.map (·.id) := h.ids ▸ List.mem_map_of_mem ha
    obtain ⟨b, hb, hba⟩ := List.mem_map.mp hmem
    exact ⟨b, hb, hba.trans (hid.trans h.active.symm)⟩

theorem withActor? (hs : s.Peopled) {a : Actor} (hid : a.id.IsText)
    (h : s.withActor? a = some s') : s'.Peopled := by
  unfold Snapshot.withActor? at h
  split_ifs at h with htaken
  cases h
  have hnew := not_hasId_of_actor?_eq_none hid (by simpa using htaken)
  refine ⟨by simp, ?_, ?_, ⟨a, by simp, rfl⟩⟩
  · intro b hb
    rcases List.mem_append.mp hb with hb | hb
    · exact hs.texts b hb
    · cases List.mem_singleton.mp hb
      exact hid
  · refine List.pairwise_append.mpr ⟨hs.distinct, List.pairwise_singleton _ _, ?_⟩
    intro b hb c hc
    cases List.mem_singleton.mp hc
    exact hnew b hb

/-- Two different actors do not both have one identifier. -/
theorem exists_not_hasId (hs : s.Peopled) (hlen : 1 < s.actors.length) (id : Datum) :
    ∃ a ∈ s.actors, ¬ a.hasId id := by
  obtain ⟨a, b, rest, hactors⟩ : ∃ a b rest, s.actors = a :: b :: rest := by
    match s.actors, hlen with
    | a :: b :: rest, _ => exact ⟨a, b, rest, rfl⟩
  have hmem : a ∈ s.actors ∧ b ∈ s.actors := by simp [hactors]
  by_cases ha : a.hasId id
  · refine ⟨b, hmem.2, fun hb => ?_⟩
    have hab : ¬ a.id.sameValue b.id := by
      have hdistinct := hs.distinct
      rw [hactors] at hdistinct
      exact (List.pairwise_cons.mp hdistinct).1 b List.mem_cons_self
    have hida : id = a.id := (hs.texts a hmem.1).sameValue_iff.mp ha
    have hidb : id = b.id := (hs.texts b hmem.2).sameValue_iff.mp hb
    exact hab ((hs.texts a hmem.1).sameValue_iff.mpr (hidb.symm.trans hida))
  · exact ⟨a, hmem.1, ha⟩

theorem withoutActor? (hs : s.Peopled) {id : Datum} (h : s.withoutActor? id = some s') :
    s'.Peopled := by
  unfold Snapshot.withoutActor? at h
  by_cases hrefused : s.actors.length ≤ 1 || (s.actor? id).isNone
  · rw [if_pos hrefused] at h
    cases h
  rw [if_neg hrefused] at h
  cases h
  simp only [Bool.or_eq_true, decide_eq_true_eq, not_or, Nat.not_le] at hrefused
  obtain ⟨other, hother, hne⟩ := hs.exists_not_hasId hrefused.1 id
  have mem_left {a : Actor} : a ∈ s.actors.filter (!·.hasId id) ↔ a ∈ s.actors ∧ ¬ a.hasId id := by
    simp
  have hleft : s.actors.filter (!·.hasId id) ≠ [] :=
    List.ne_nil_of_mem (mem_left.mpr ⟨hother, hne⟩)
  refine ⟨hleft, fun a ha => hs.texts a (mem_left.mp ha).1, hs.distinct.filter _, ?_⟩
  by_cases hactive : s.activeActorId.sameValue id
  · simp only [if_pos hactive]
    cases hhead : (s.actors.filter (!·.hasId id)).head? with
    | none => exact absurd (List.head?_eq_none_iff.mp hhead) hleft
    | some a => exact ⟨a, List.mem_of_mem_head? hhead, rfl⟩
  · simp only [if_neg hactive]
    obtain ⟨a, ha, hid⟩ := hs.active
    refine ⟨a, mem_left.mpr ⟨ha, fun hsame => hactive ?_⟩, hid⟩
    rw [← hid]
    exact hsame

theorem withActive? (hs : s.Peopled) {id : Datum} (h : s.withActive? id = some s') :
    s'.Peopled := by
  unfold Snapshot.withActive? at h
  split_ifs at h with hfound
  cases h
  obtain ⟨a, ha⟩ := Option.isSome_iff_exists.mp hfound
  have hmem : a ∈ s.actors := mem_of_actor? ha
  have hid : id = a.id := (hs.texts a hmem).sameValue_iff.mp (hasId_of_actor? ha)
  exact ⟨hs.nonempty, hs.texts, hs.distinct, ⟨a, hmem, hid.symm⟩⟩

/-- **Every action keeps a snapshot peopled**, if whom it brings in is named. -/
theorem after (hs : s.Peopled) {a : Action} (ha : a.Named) : (s.after a).Peopled := by
  refine after_of_after? hs fun s' h => ?_
  cases a with
  | addActor actor => exact hs.withActor? ha h
  | removeActor actorId => exact hs.withoutActor? h
  | selectActor actorId => exact hs.withActive? h
  | _ =>
    refine hs.of_sameCast (sameCast_of_after? (fun _ h => ?_) (fun _ h => ?_) (fun _ h => ?_) h)
    all_goals cases h

/-- Just one of the actors is the active one. -/
theorem countP_active (hs : s.Peopled) : s.actors.countP (·.hasId s.activeActorId) = 1 := by
  obtain ⟨a, ha, hid⟩ := hs.active
  obtain ⟨before, rest, hactors⟩ := List.append_of_mem ha
  have hdistinct := hs.distinct
  rw [hactors, List.pairwise_append, List.pairwise_cons] at hdistinct
  obtain ⟨-, ⟨hrest, -⟩, hbefore⟩ := hdistinct
  have hself : a.hasId a.id := (hs.texts a ha).sameValue_iff.mpr rfl
  have hnone (b : Actor) (hb : b ∈ before ∨ b ∈ rest) : ¬ b.hasId a.id := by
    rcases hb with hb | hb
    · exact hbefore b hb a List.mem_cons_self
    · intro hsame
      have hmem : b ∈ s.actors := hactors ▸ List.mem_append_right _ (List.mem_cons_of_mem _ hb)
      have hba : a.id = b.id := (hs.texts b hmem).sameValue_iff.mp hsame
      exact hrest b hb ((hs.texts a ha).sameValue_iff.mpr hba.symm)
  rw [← hid, hactors, List.countP_append, List.countP_cons_of_pos hself,
    List.countP_eq_zero.mpr fun b hb => hnone b (.inl hb),
    List.countP_eq_zero.mpr fun b hb => hnone b (.inr hb)]

end Peopled

/-- How many of the actors are marked as active when the snapshot is shown. -/
def marked (s : Snapshot) : Nat :=
  ((s.view.field? "actors").getD .null).items.countP fun actor =>
    ((actor.field? "active").getD .null).truthy

/-- Who is marked when the snapshot is shown is who has the identifier of the active actor. -/
theorem marked_eq_countP (s : Snapshot) :
    s.marked = s.actors.countP (·.hasId s.activeActorId) := by
  have hactors : ((s.view.field? "actors").getD .null).items =
      s.actors.map (Actor.view s.activeActorId) := rfl
  rw [marked, hactors, List.countP_map]
  rfl

end Snapshot

/-! ### Peopled throughout -/

variable {σ ι : Type} [DecidableEq ι]

/-- **A stage that is peopled stays so**, whatever is dispatched, from outside or by listeners, and
whatever fails, and however many dispatches there is room for inside each other: in each snapshot
that there ever is somebody is there, no two have the same identifier, the active actor is there,
and just one is shown as active. No snapshot is missed out: there are as many replacements as the
store has counted, and the last one is what it holds. -/
theorem Audience.peopled_throughout {A : Audience σ ι} (hA : A.Within Action.Named) (room : Nat)
    {h : Hall σ ι} (hs : h.store.state.Peopled) {deeds : List (Deed ι)}
    (hdeeds : ∀ a, .dispatch a ∈ deeds → a.Named) :
    let snapshots := Store.Course.snapshots h.store (A.chronicle room deeds h)
    let store := (deeds.foldl (A.act room) h).store
    store.revision = h.store.revision + (A.chronicle room deeds h).length ∧
      snapshots.getLast? = some store.state ∧ ∀ s ∈ snapshots, s.Peopled ∧ s.marked = 1 := by
  intro snapshots store
  have hcourse := A.chronicle_course hA room hdeeds h
  have hpeopled : ∀ s ∈ snapshots, s.Peopled :=
    hcourse.preserves (fun s a ha hs => hs.after ha) hs
  refine ⟨hcourse.revision, hcourse.getLast?_snapshots, fun s hmem => ⟨hpeopled s hmem, ?_⟩⟩
  rw [s.marked_eq_countP]
  exact (hpeopled s hmem).countP_active

/-- Two listeners who meddle: one takes Ann away as soon as somebody is brought in, and the other
fails when somebody was taken away. -/
def meddlers : Audience Unit Bool where
  hear listener t _ memory :=
    match listener, t.action with
    | false, .addActor _ => (memory, .dispatch (.removeActor (.str "ann")) Reaction.passOn)
    | true, .removeActor _ => (memory, .raise (.broken "somebody is gone"))
    | _, _ => (memory, .done)
  log _ memory := memory

theorem meddlers_named : meddlers.Within Action.Named := by
  intro listener t store memory
  simp only [meddlers]
  split
  · refine .dispatch trivial fun fault => ?_
    cases fault with
    | none => exact .done
    | some fault => exact .raise fault
  · exact .raise _
  · exact .done

/-- Ann alone on a stage, and two who meddle. -/
def annAlone : Hall Unit Bool where
  store := {
    state := { actors := [{ id := .str "ann", name := .str "Ann" }], activeActorId := .str "ann" }
    listeners := [false, true] }
  memory := ()

/-- When Bob is brought in, Ann is taken away before that is done with, and then the dispatch fails;
Bob himself cannot be taken away then. The stage is peopled throughout. -/
theorem annAlone_peopled :
    let deeds : List (Deed Bool) :=
      [.dispatch (.addActor { id := .str "bob", name := .str "Bob" }),
        .dispatch (.removeActor (.str "bob")), .dispatch (.unknown "Jump")]
    let ts := meddlers.chronicle Audience.room deeds annAlone
    let snapshots := Store.Course.snapshots annAlone.store ts
    annAlone.store.state.Peopled ∧ ts.map (·.action.name) = ["AddActor", "RemoveActor"] ∧
      ∀ s ∈ snapshots, s.Peopled ∧ s.marked = 1 := by
  intro deeds ts snapshots
  have hpeopled : annAlone.store.state.Peopled := by
    refine ⟨by simp [annAlone], fun a ha => ?_, List.pairwise_singleton _ _,
      ⟨_, List.mem_singleton_self _, rfl⟩⟩
    cases List.mem_singleton.mp ha
    exact ⟨_, rfl⟩
  have hdeeds : ∀ a, .dispatch a ∈ deeds → a.Named := by
    intro a ha
    simp only [deeds, List.mem_cons, Deed.dispatch.injEq, List.not_mem_nil, or_false] at ha
    obtain rfl | rfl | rfl := ha
    · exact ⟨_, rfl⟩
    · trivial
    · trivial
  obtain ⟨-, -, hall⟩ :=
    Audience.peopled_throughout meddlers_named Audience.room hpeopled hdeeds
  exact ⟨hpeopled, by decide +kernel, hall⟩

end SpriteStage
