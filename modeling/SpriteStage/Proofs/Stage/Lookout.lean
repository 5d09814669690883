import SpriteStage.Proofs.Stage.Detection
import Mathlib.Data.List.Perm.Subperm

/-!
# On the lookout

While a program runs, the detector looks from time to time, and meanwhile anything may be
dispatched. It swaps two actors at most once in each order in which they stand
(`Lookout.swaps_fresh`). They stand in both orders only if one of them was taken away and brought in
again: so two actors are swapped twice in one run just if they are met in both orders, and then one
of them has come back (`Lookout.swapped_once_iff`).
-/

namespace SpriteStage

/-- Whether these are the two actors of the pair, in either order. -/
def Pair.joins (a b : Datum) (p : Pair) : Bool := p.sameEntry (a, b) || p.sameEntry (b, a)

namespace Pair

theorem sameEntry_iff {a b : Datum} (ha : a.IsText) (hb : b.IsText) (p : Pair) :
    p.sameEntry (a, b) ↔ p = (a, b) := by
  obtain ⟨s, rfl⟩ := ha
  obtain ⟨t, rfl⟩ := hb
  obtain ⟨c, d⟩ := p
  simp [sameEntry, Datum.sameEntry, Datum.sameValue_iff_str, Datum.isNaN]

theorem joins_iff {a b : Datum} (ha : a.IsText) (hb : b.IsText) (p : Pair) :
    p.joins a b ↔ p = (a, b) ∨ p = (b, a) := by
  unfold joins
  rw [Bool.or_eq_true, sameEntry_iff ha hb, sameEntry_iff hb ha]

/-- Where no pair comes twice in one order, two actors come together at most once just if they do
not come in both orders. -/
theorem countP_joins_le_one_iff {l : List Pair} {a b : Datum} (ha : a.IsText) (hb : b.IsText)
    (hab : a ≠ b) (hl : l.Pairwise fun p q => ¬ q.sameEntry p) :
    l.countP (joins a b) ≤ 1 ↔ ¬ ((a, b) ∈ l ∧ (b, a) ∈ l) := by
  have hmem {p : Pair} : p ∈ l.filter (joins a b) ↔ p ∈ l ∧ (p = (a, b) ∨ p = (b, a)) := by
    rw [List.mem_filter, joins_iff ha hb]
  have hnodup : (l.filter (joins a b)).Nodup := by
    refine (hl.filter _).imp_of_mem fun {p q} hp _ hpq heq => hpq ?_
    subst heq
    rcases (hmem.mp hp).2 with rfl | rfl
    · exact (sameEntry_iff ha hb _).mpr rfl
    · exact (sameEntry_iff hb ha _).mpr rfl
  rw [List.countP_eq_length_filter]
  constructor
  · rintro hle ⟨hfirst, hsecond⟩
    have hpair : [(a, b), (b, a)].Nodup := by simp [hab]
    have hsub : [(a, b), (b, a)] ⊆ l.filter (joins a b) := by
      intro p hp
      rcases List.mem_pair.mp hp with rfl | rfl
      · exact hmem.mpr ⟨hfirst, .inl rfl⟩
      · exact hmem.mpr ⟨hsecond, .inr rfl⟩
    have hlength := (List.subperm_of_subset hpair hsub).length_le
    simp only [List.length_cons, List.length_nil] at hlength
    omega
  · intro hnot
    obtain ⟨p, hp⟩ : ∃ p, l.filter (joins a b) ⊆ [p] := by
      by_cases hfirst : (a, b) ∈ l
      · refine ⟨(a, b), fun q hq => ?_⟩
        obtain ⟨hql, rfl | rfl⟩ := hmem.mp hq
        · exact List.mem_singleton_self _
        · exact absurd ⟨hfirst, hql⟩ hnot
      · refine ⟨(b, a), fun q hq => ?_⟩
        obtain ⟨hql, rfl | rfl⟩ := hmem.mp hq
        · exact absurd hql hfirst
        · exact List.mem_singleton_self _
    exact (List.subperm_of_subset hnodup hp).length_le

end Pair

/-- What happens while a program runs. -/
inductive Lookout where
  /-- The detector looks. -/
  | look
  /-- Somebody dispatches an action. -/
  | dispatch (action : Action)

namespace Lookout

/-- The scene after that. -/
def follow (sc : StageScene) : Lookout → StageScene
  | look => (StageScene.check sc).1
  | dispatch action => (sc.send action).1

/-- The pair that is swapped, if it is a look that swaps one. -/
def swapped (sc : StageScene) : Lookout → Option Pair
  | look => StageScene.swapped sc
  | dispatch _ => none

/-- The pairs that are swapped, one after the other. -/
def swaps : List Lookout → StageScene → List Pair
  | [], _ => []
  | l :: rest, sc => (l.swapped sc).toList ++ swaps rest (l.follow sc)

/-- The property holds of all snapshots from the first to the last. -/
def Throughout (P : Snapshot → Prop) : List Lookout → StageScene → Prop
  | [], sc => P sc.state
  | l :: rest, sc => P sc.state ∧ Throughout P rest (l.follow sc)

instance Throughout.decidable {P : Snapshot → Prop} [DecidablePred P] :
    ∀ happened sc, Decidable (Throughout P happened sc)
  | [], sc => inferInstanceAs (Decidable (P sc.state))
  | l :: rest, sc =>
    have := Throughout.decidable (P := P) rest (l.follow sc)
    inferInstanceAs (Decidable (P sc.state ∧ Throughout P rest (l.follow sc)))

/-- The actor is taken away and later brought in again. -/
def Returns (id : Datum) (happened : List Lookout) : Prop :=
  ∃ actor : Actor, actor.id = id ∧
    [dispatch (.removeActor id), dispatch (.addActor actor)].Sublist happened

variable {sc : StageScene} {l : Lookout} {happened : List Lookout} {a b : Datum}

theorem Throughout.head {P : Snapshot → Prop} (h : Throughout P happened sc) : P sc.state := by
  cases happened with
  | nil => exact h
  | cons l rest => exact h.1

theorem Returns.cons (h : Returns a happened) (l : Lookout) : Returns a (l :: happened) := by
  obtain ⟨actor, hid, hsub⟩ := h
  exact ⟨actor, hid, .cons _ hsub⟩

/-! ### One step -/

theorem follow_keeps (hk : sc.store.Keeps) (l : Lookout) : (l.follow sc).store.Keeps := by
  cases l with
  | look => exact (StageScene.check_cases hk).1
  | dispatch action => exact StageScene.send_keeps hk action

/-- A step leaves the line as it is, or dispatches an action. -/
theorem follow_cases (hk : sc.store.Keeps) (l : Lookout) :
    (l.follow sc).state.ids = sc.state.ids ∨
      ∃ action, l = dispatch action ∧ (l.follow sc).state = sc.state.after action := by
  cases l with
  | dispatch action => exact .inr ⟨action, rfl, StageScene.send_state sc action⟩
  | look =>
    left
    obtain ⟨-, ⟨-, hstate, -⟩ | ⟨a, b, -, -, -, -, hstate, -⟩⟩ := StageScene.check_cases hk
    · exact congrArg Snapshot.ids hstate
    · refine (congrArg Snapshot.ids hstate).trans ?_
      obtain hids | ⟨_, h, -⟩ | ⟨_, h, -⟩ := sc.state.ids_after (.swapMoves a.id b.id)
      · exact hids
      · cases h
      · cases h

theorem eq_dispatch_of_leaves (hk : sc.store.Keeps) (ha : a.IsText) (hin : a ∈ sc.state.ids)
    (hout : a ∉ (l.follow sc).state.ids) : l = dispatch (.removeActor a) := by
  obtain hids | ⟨action, rfl, hstate⟩ := follow_cases hk l
  · exact absurd (hids ▸ hin) hout
  · rw [hstate] at hout
    rw [Snapshot.eq_removeActor_of_not_mem ha hin hout]

theorem eq_dispatch_of_enters (hk : sc.store.Keeps) (hout : a ∉ sc.state.ids)
    (hin : a ∈ (l.follow sc).state.ids) :
    ∃ actor : Actor, actor.id = a ∧ l = dispatch (.addActor actor) := by
  obtain hids | ⟨action, rfl, hstate⟩ := follow_cases hk l
  · exact absurd (hids ▸ hin) hout
  · rw [hstate] at hin
    obtain ⟨actor, rfl, hid⟩ := Snapshot.eq_addActor_of_mem hout hin
    exact ⟨actor, hid, rfl⟩

theorem precedes_follow (hk : sc.store.Keeps) (h : sc.state.Precedes a b)
    (ha : a ∈ (l.follow sc).state.ids) (hb : b ∈ (l.follow sc).state.ids) :
    (l.follow sc).state.Precedes a b := by
  obtain hids | ⟨action, rfl, hstate⟩ := follow_cases hk l
  · unfold Snapshot.Precedes
    rw [hids]
    exact h
  · rw [hstate] at ha hb ⊢
    exact h.after ha hb

theorem not_precedes_self_follow (hk : sc.store.Keeps) (ha : a.IsText)
    (h : ¬ sc.state.Precedes a a) (l : Lookout) : ¬ (l.follow sc).state.Precedes a a := by
  obtain hids | ⟨action, rfl, hstate⟩ := follow_cases hk l
  · unfold Snapshot.Precedes
    rw [hids]
    exact h
  · rw [hstate]
    exact Snapshot.not_precedes_self_after ha h

/-- What is swapped is new, and stands in the line in this order. -/
theorem swapped_spec (hk : sc.store.Keeps) {p : Pair} (h : l.swapped sc = some p) :
    Pair.isAmong sc.handled p = false ∧ sc.state.Precedes p.1 p.2 := by
  cases l with
  | dispatch action => cases h
  | look =>
    have hswapped : sc.swapped = some p := h
    obtain ⟨-, ⟨hnone, -⟩ | ⟨a, b, hsome, hsub, hfresh, -⟩⟩ := StageScene.check_cases hk
    · rw [hnone] at hswapped
      cases hswapped
    · rw [hsome] at hswapped
      cases hswapped
      have hids := hsub.map Actor.id
      exact ⟨hfresh, hids⟩

/-- While the flag stays set, the handled pairs are those that were swapped. -/
theorem handled_follow (hk : sc.store.Keeps) (hrun : (l.follow sc).state.running) :
    (l.follow sc).handled = (l.swapped sc).toList ++ sc.handled := by
  cases l with
  | dispatch action =>
    refine StageScene.send_handled ?_
    rw [← StageScene.send_state]
    exact hrun
  | look =>
    change (StageScene.check sc).1.handled = sc.swapped.toList ++ sc.handled
    obtain ⟨-, ⟨hnone, -, hhandled⟩ | ⟨a, b, hsome, -, -, -, -, hhandled⟩⟩ :=
      StageScene.check_cases hk
    · rw [hnone, hhandled]
      rfl
    · rw [hsome, hhandled]
      rfl

/-! ### The whole run -/

/-- While the flag stays set, no pair is swapped twice in one order. -/
theorem swaps_fresh (hk : sc.store.Keeps) (hrun : Throughout (·.running) happened sc) :
    (swaps happened sc).Pairwise (fun p q => ¬ q.sameEntry p) ∧
      ∀ q ∈ swaps happened sc, Pair.isAmong sc.handled q = false := by
  induction happened generalizing sc with
  | nil => exact ⟨.nil, nofun⟩
  | cons l rest ih =>
    obtain ⟨hpair, hfresh⟩ := ih (follow_keeps hk l) hrun.2
    rw [handled_follow hk hrun.2.head] at hfresh
    rw [swaps]
    cases hs : l.swapped sc with
    | none =>
      rw [hs] at hfresh
      exact ⟨hpair, hfresh⟩
    | some p =>
      rw [hs] at hfresh
      have hsplit : ∀ q ∈ swaps rest (l.follow sc),
          q.sameEntry p = false ∧ Pair.isAmong sc.handled q = false := fun q hq =>
        Bool.or_eq_false_iff.mp (hfresh q hq)
      refine ⟨List.pairwise_cons.mpr ⟨fun q hq => ?_, hpair⟩, fun q hq => ?_⟩
      · simp [(hsplit q hq).1]
      · rcases List.mem_cons.mp hq with rfl | hq
        · exact (swapped_spec hk hs).1
        · exact (hsplit q hq).2

/-- Who is gone and is not brought in again is not swapped with anybody. -/
theorem not_mem_swaps_of_gone (hk : sc.store.Keeps) {c : Datum} (hc : c ∉ sc.state.ids)
    (hnew : ∀ actor : Actor, actor.id = c → dispatch (.addActor actor) ∉ happened) :
    ∀ p ∈ swaps happened sc, p.1 ≠ c ∧ p.2 ≠ c := by
  induction happened generalizing sc with
  | nil => exact nofun
  | cons l rest ih =>
    intro p hp
    rcases List.mem_append.mp hp with hp | hp
    · have hprecedes := (swapped_spec hk (Option.mem_toList.mp hp)).2
      have hfirst : p.1 ∈ sc.state.ids := hprecedes.subset (by simp)
      have hsecond : p.2 ∈ sc.state.ids := hprecedes.subset (by simp)
      exact ⟨fun h => hc (h ▸ hfirst), fun h => hc (h ▸ hsecond)⟩
    · refine ih (follow_keeps hk l) (fun hin => ?_) (fun actor hid hmem => ?_) p hp
      · obtain ⟨actor, hid, rfl⟩ := eq_dispatch_of_enters hk hc hin
        exact hnew actor hid List.mem_cons_self
      · exact hnew actor hid (List.mem_cons_of_mem _ hmem)

theorem not_mem_swaps_of_leaves (hk : sc.store.Keeps) {c : Datum} (hc : c.IsText)
    (hin : c ∈ sc.state.ids) (hout : c ∉ (l.follow sc).state.ids)
    (hreturns : ¬ Returns c (l :: happened)) :
    ∀ p ∈ swaps happened (l.follow sc), p.1 ≠ c ∧ p.2 ≠ c := by
  obtain rfl := eq_dispatch_of_leaves hk hc hin hout
  refine not_mem_swaps_of_gone (follow_keeps hk _) hout fun actor hid hmem => hreturns ?_
  exact ⟨actor, hid, .cons_cons _ (List.singleton_sublist.mpr hmem)⟩

/-- Of two actors, of which none comes back, the one that stands behind stays behind. -/
theorem not_mem_swaps_of_precedes (hk : sc.store.Keeps) (ha : a.IsText) (hb : b.IsText)
    (hab : a ≠ b) (ha₁ : ¬ sc.state.Precedes a a) (hb₁ : ¬ sc.state.Precedes b b)
    (h : sc.state.Precedes a b) (hra : ¬ Returns a happened) (hrb : ¬ Returns b happened) :
    (b, a) ∉ swaps happened sc := by
  induction happened generalizing sc with
  | nil => exact nofun
  | cons l rest ih =>
    intro hmem
    rcases List.mem_append.mp hmem with hmem | hmem
    · have hba := (swapped_spec hk (Option.mem_toList.mp hmem)).2
      exact h.asymm hab ha₁ hb₁ hba
    · by_cases hina : a ∈ (l.follow sc).state.ids
      · by_cases hinb : b ∈ (l.follow sc).state.ids
        · exact ih (follow_keeps hk l) (not_precedes_self_follow hk ha ha₁ l)
            (not_precedes_self_follow hk hb hb₁ l) (precedes_follow hk h hina hinb)
            (fun hr => hra (hr.cons l)) (fun hr => hrb (hr.cons l)) hmem
        · have hb' : b ∈ sc.state.ids := h.subset (by simp)
          exact (not_mem_swaps_of_leaves hk hb hb' hinb hrb _ hmem).1 rfl
      · have ha' : a ∈ sc.state.ids := h.subset (by simp)
        exact (not_mem_swaps_of_leaves hk ha ha' hina hra _ hmem).2 rfl

/-- If two actors are swapped in both orders, one of them has come back. -/
theorem returns_of_swapped_twice (hk : sc.store.Keeps) (ha : a.IsText) (hb : b.IsText) (hab : a ≠ b)
    (ha₁ : ¬ sc.state.Precedes a a) (hb₁ : ¬ sc.state.Precedes b b)
    (hfirst : (a, b) ∈ swaps happened sc) (hsecond : (b, a) ∈ swaps happened sc) :
    Returns a happened ∨ Returns b happened := by
  by_contra hnone
  obtain ⟨hra, hrb⟩ := not_or.mp hnone
  clear hnone
  induction happened generalizing sc with
  | nil => cases hfirst
  | cons l rest ih =>
    rcases List.mem_append.mp hfirst with hnow | hlater
    · have h := (swapped_spec hk (Option.mem_toList.mp hnow)).2
      exact not_mem_swaps_of_precedes hk ha hb hab ha₁ hb₁ h hra hrb hsecond
    rcases List.mem_append.mp hsecond with hnow | hlater'
    · have h := (swapped_spec hk (Option.mem_toList.mp hnow)).2
      exact not_mem_swaps_of_precedes hk hb ha hab.symm hb₁ ha₁ h hrb hra hfirst
    exact ih (follow_keeps hk l) (not_precedes_self_follow hk ha ha₁ l)
      (not_precedes_self_follow hk hb hb₁ l) hlater hlater' (fun hr => hra (hr.cons l))
      (fun hr => hrb (hr.cons l))

/-- **Two actors are swapped at most once in a run** just if the detector does not swap them in both
orders; and it does so only if one of them was taken away and brought in again. -/
theorem swapped_once_iff (hk : sc.store.Keeps) (hrun : Throughout (·.running) happened sc)
    (hdistinct : sc.state.actors.Pairwise fun a b => ¬ a.id.sameValue b.id)
    (ha : a.IsText) (hb : b.IsText) (hab : a ≠ b) :
    ((swaps happened sc).countP (Pair.joins a b) ≤ 1 ↔
        ¬ ((a, b) ∈ swaps happened sc ∧ (b, a) ∈ swaps happened sc)) ∧
      ((a, b) ∈ swaps happened sc ∧ (b, a) ∈ swaps happened sc →
        Returns a happened ∨ Returns b happened) := by
  constructor
  · exact Pair.countP_joins_le_one_iff ha hb hab (swaps_fresh hk hrun).1
  · intro ⟨hfirst, hsecond⟩
    exact returns_of_swapped_twice hk ha hb hab (Snapshot.not_precedes_self ha hdistinct)
      (Snapshot.not_precedes_self hb hdistinct) hfirst hsecond

/-- An actor that moves, at the middle of the stage. -/
def stroller (name : String) : Actor :=
  { id := .str name, name := .str name,
    blocks := [{ id := .str "m", kind := .str "move", params := .object [("steps", .int 10)] }] }

/-- Two strollers while a program runs, with the detector listening. -/
def duo : StageScene :=
  StageScene.attach
    { store := { state := ⟨[stroller "a", stroller "b"], .str "a", .bool true⟩ }, memory := {} }

/-- Two actors who stay are not swapped in both orders, though they overlap at each look. -/
theorem duo_swapped_once :
    Throughout (·.running) [look, look] duo ∧
      ¬ ((Datum.str "a", Datum.str "b") ∈ swaps [look, look] duo ∧
        (Datum.str "b", Datum.str "a") ∈ swaps [look, look] duo) := by
  have hrun : Throughout (·.running) [look, look] duo := by decide +kernel
  have hkeeps : duo.store.Keeps := rfl
  have hdistinct : duo.state.actors.Pairwise fun a b => ¬ a.id.sameValue b.id := by
    decide +kernel
  have honce : (swaps [look, look] duo).countP (Pair.joins (.str "a") (.str "b")) ≤ 1 := by
    decide +kernel
  have hiff := swapped_once_iff (a := .str "a") (b := .str "b") hkeeps hrun hdistinct ⟨"a", rfl⟩
    ⟨"b", rfl⟩ (by simp)
  exact ⟨hrun, hiff.1.mp honce⟩

/-- Who comes back stands behind the other, and the two are swapped once more in the same run. -/
theorem comeback_swapped_twice :
    let happened :=
      [look, dispatch (.removeActor (.str "a")), dispatch (.addActor (stroller "a")), look]
    Throughout (·.running) happened duo ∧
      (duo.state.actors.Pairwise fun a b => ¬ a.id.sameValue b.id) ∧
      (swaps happened duo).countP (Pair.joins (.str "a") (.str "b")) = 2 := by
  refine ⟨?_, ?_, ?_⟩
  · decide +kernel
  · decide +kernel
  · decide +kernel

end Lookout

end SpriteStage
