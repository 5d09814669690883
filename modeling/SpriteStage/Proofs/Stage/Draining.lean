import SpriteStage.Proofs.Snapshot.Exchange
import SpriteStage.Proofs.Stage.Colliding

/-!
# Looks that drain

If the detector looks again and again and nothing else is dispatched, then the first of the
colliding pairs is swapped at each look, until none is left. A swap has to do with programs only, so
it leaves the other pairs as they are (`StageScene.Searchable.checkBy_of_cons`). So the pairs come
one by one in the order of the list, and after that nothing changes any more
(`StageScene.drains`).
-/

namespace SpriteStage

namespace StageScene

variable {overlap : Overlap} {sc : StageScene} {p : Pair} {pairs : List Pair}

/-- Looks once for a collision, by whatever way to tell whether two actors overlap. -/
def checkBy (overlap : Overlap) (sc : StageScene) : StageScene × Except Fault (Option Pair) :=
  if sc.state.running then
    match firstCollisionBy? overlap sc.memory.detector.handled sc.state.actors with
    | .error fault => (sc, .error fault)
    | .ok none => (sc, .ok none)
    | .ok (some (a, b)) =>
      match swap a b sc with
      | (sc, some fault) => (sc, .error fault)
      | (sc, none) => (sc, .ok (some (a.id, b.id)))
  else (sc, .ok none)

theorem checkBy_overlaps : checkBy Actor.overlaps = check := by
  funext sc
  rw [checkBy, firstCollisionBy?_overlaps]
  rfl

/-- The scene after so many looks. -/
def looked (overlap : Overlap) (n : Nat) (sc : StageScene) : StageScene :=
  (fun sc => (checkBy overlap sc).1)^[n] sc

theorem looked_succ (overlap : Overlap) (n : Nat) (sc : StageScene) :
    looked overlap (n + 1) sc = looked overlap n (checkBy overlap sc).1 :=
  Function.iterate_succ_apply _ n sc

/-- The pairs that are still to be swapped. -/
def due (overlap : Overlap) (sc : StageScene) : List Pair :=
  colliding overlap sc.handled sc.state.actors

/-- A program runs; data is typed, no two actors have one identifier, and it can be told of all of
them whether they overlap; and the history has a whole number for its limit. -/
structure Searchable (overlap : Overlap) (sc : StageScene) : Prop where
  keeps : sc.store.Keeps
  running : sc.state.running
  typed : sc.state.Typed
  distinct : sc.state.ids.Nodup
  decides : overlap.Decides sc.state.actors

theorem swap_fault (hk : sc.store.Keeps) (a b : Actor) :
    (swap a b sc).2 = sc.state.fault? (.swapMoves a.id b.id) := by
  rw [← send_fault hk, swap]
  cases sc.send (.swapMoves a.id b.id) with
  | mk sc' dispatched => cases dispatched <;> rfl

/-- The two of a pair that is due are different, and both are there. -/
theorem Searchable.canSwap (h : Searchable overlap sc) (hp : p ∈ due overlap sc) :
    sc.state.canSwap p.1 p.2 := by
  obtain ⟨a, b, rfl, hsub, -⟩ := exists_of_mem_colliding hp
  have hids : [a.id, b.id].Sublist sc.state.ids := hsub.map Actor.id
  have hne : a.id ≠ b.id := by simpa using h.distinct.sublist hids
  exact h.typed.canSwap_iff.mpr ⟨hne, hids.subset (by simp), hids.subset (by simp)⟩

/-! ### One look -/

theorem checkBy_of_not_running (h : ¬ sc.state.running) : checkBy overlap sc = (sc, .ok none) :=
  if_neg h

theorem Searchable.checkBy_of_nil (h : Searchable overlap sc) (hdue : due overlap sc = []) :
    checkBy overlap sc = (sc, .ok none) := by
  obtain ⟨found, hfound, hhead⟩ := exists_firstCollisionBy? sc.handled
    (fun a ha => (h.typed a ha).id) h.decides
  have hnone : found = none := Option.map_eq_none_iff.mp (hhead.trans (congrArg List.head? hdue))
  rw [checkBy, if_pos h.running, hfound, hnone]

/-- **A look swaps the first pair that is due**, and the others stay due. -/
theorem Searchable.checkBy_of_cons (hoverlap : overlap.OfPlace) (h : Searchable overlap sc)
    (hdue : due overlap sc = p :: pairs) :
    (checkBy overlap sc).2 = .ok (some p) ∧
      (checkBy overlap sc).1.handled = p :: sc.handled ∧
      (checkBy overlap sc).1.state = sc.state.after (.swapMoves p.1 p.2) ∧
      Searchable overlap (checkBy overlap sc).1 ∧ due overlap (checkBy overlap sc).1 = pairs := by
  have hids := fun a ha => (h.typed a ha).id
  obtain ⟨found, hfound, hhead⟩ := exists_firstCollisionBy? sc.handled hids h.decides
  obtain ⟨⟨a, b⟩, rfl, rfl⟩ := Option.map_eq_some_iff.mp (hhead.trans (congrArg List.head? hdue))
  have hmem : (a.id, b.id) ∈ due overlap sc := hdue ▸ List.mem_cons_self
  have hfresh : Pair.isAmong sc.handled (a.id, b.id) = false := by
    obtain ⟨c, d, hp, -, hcd⟩ := exists_of_mem_colliding hmem
    rw [hp]
    simpa using (Bool.and_eq_true_iff.mp hcd).1
  have hfault : (swap a b sc).2 = none :=
    (swap_fault h.keeps a b).trans (h.typed.fault?_swapMoves a.id b.id)
  have hcheck : checkBy overlap sc = ((swap a b sc).1, .ok (some (a.id, b.id))) := by
    rw [checkBy, if_pos h.running, hfound]
    simp only
    cases hswap : swap a b sc with
    | mk sc' fault =>
      rw [hswap] at hfault
      cases hfault
      rfl
  obtain ⟨hkeeps, ⟨⟨fault, hfailed⟩, -⟩ | ⟨-, hstate, hhandled⟩⟩ :=
    swap_cases h.keeps h.running hfresh
  · rw [hfault] at hfailed
    cases hfailed
  -- the actors have other programs afterwards, and are else as they were
  have hturned := hstate.trans (h.typed.after_swap (h.canSwap hmem))
  have hactors : (swap a b sc).1.state.actors = sc.state.actors.map fun c =>
      if Pair.names c.id (a.id, b.id) then c.turnMoves else c := congrArg Snapshot.actors hturned
  have hid (c : Actor) : (if Pair.names c.id (a.id, b.id) then c.turnMoves else c).id = c.id := by
    split_ifs <;> rfl
  have hplace (c : Actor) :
      c.SamePlace (if Pair.names c.id (a.id, b.id) then c.turnMoves else c) := by
    split_ifs <;> exact ⟨rfl, rfl, rfl⟩
  rw [hcheck]
  refine ⟨rfl, hhandled, hstate, ?_, ?_⟩
  · refine ⟨hkeeps, ?_, hturned ▸ h.typed.turned _, ?_, hactors ▸ h.decides.map hoverlap hplace⟩
    · rw [hturned]
      exact h.running
    · rw [hturned, Snapshot.ids_turned]
      exact h.distinct
  · have hleft := colliding_note hids h.distinct hdue
    rw [due, hhandled, hactors, colliding_map hoverlap hid hplace, hleft]

/-! ### Look after look -/

theorem Searchable.looked_of_nil (h : Searchable overlap sc) (hdue : due overlap sc = [])
    (n : Nat) : looked overlap n sc = sc :=
  Function.iterate_fixed (congrArg Prod.fst (h.checkBy_of_nil hdue)) n

/-- After so many looks, as many of the pairs that were due have been swapped. -/
theorem Searchable.looked (hoverlap : overlap.OfPlace) (h : Searchable overlap sc)
    (hdue : due overlap sc = pairs) (n : Nat) :
    (checkBy overlap (looked overlap n sc)).2 = .ok pairs[n]? ∧
      (looked overlap n sc).handled = (pairs.take n).reverse ++ sc.handled ∧
      (looked overlap n sc).state =
        sc.state.afterAll ((pairs.take n).map fun p => .swapMoves p.1 p.2) ∧
      Searchable overlap (looked overlap n sc) ∧
      due overlap (looked overlap n sc) = pairs.drop n := by
  induction n generalizing sc pairs with
  | zero =>
    refine ⟨?_, rfl, rfl, h, hdue⟩
    cases pairs with
    | nil => exact congrArg Prod.snd (h.checkBy_of_nil hdue)
    | cons p rest => exact (h.checkBy_of_cons hoverlap hdue).1
  | succ n ih =>
    cases pairs with
    | nil =>
      rw [h.looked_of_nil hdue]
      exact ⟨congrArg Prod.snd (h.checkBy_of_nil hdue), rfl, rfl, h, hdue⟩
    | cons p rest =>
      obtain ⟨-, hhandled, hstate, hnext, hrest⟩ := h.checkBy_of_cons hoverlap hdue
      obtain ⟨hanswer, hhandled', hstate', hsearchable, hdrop⟩ := ih hnext hrest
      rw [looked_succ]
      refine ⟨hanswer, ?_, ?_, hsearchable, hdrop⟩
      · rw [hhandled', hhandled]
        simp
      · rw [hstate', hstate]
        rfl

/-- **The colliding pairs are drained in order.** However it is told whether two actors overlap, as
long as it is by their places and widths: while a program runs and nothing else is dispatched, look
after look swaps one of the pairs that overlap and were not handled, in the order of the two
positions, each pair once, and answers with it; then looks answer with nothing and change nothing
any more. After so many looks, as many of the pairs have been noted as handled beside those that
were, and the moves are turned of just those actors who belong to an odd number of them. Where no
program runs, a look changes nothing. -/
theorem drains (hoverlap : overlap.OfPlace) (sc : StageScene) :
    (Searchable overlap sc →
      let pairs := colliding overlap sc.handled sc.state.actors
      pairs.Nodup ∧
      (∀ n, (checkBy overlap (looked overlap n sc)).2 = .ok pairs[n]? ∧
        (looked overlap n sc).handled = (pairs.take n).reverse ++ sc.handled ∧
        (looked overlap n sc).state =
          sc.state.turned fun id => decide (Odd ((pairs.take n).countP (Pair.names id)))) ∧
      ∀ n ≥ pairs.length, looked overlap n sc = looked overlap pairs.length sc) ∧
    (¬ sc.state.running → checkBy overlap sc = (sc, .ok none)) ∧
    checkBy Actor.overlaps = check ∧ Overlap.OfPlace Actor.overlaps := by
  refine ⟨fun h => ?_, checkBy_of_not_running, checkBy_overlaps, Actor.overlaps_ofPlace⟩
  intro pairs
  refine ⟨nodup_colliding h.distinct, fun n => ?_, fun n hn => ?_⟩
  · obtain ⟨hanswer, hhandled, hstate, -⟩ := h.looked hoverlap rfl n
    have hcan : ∀ p ∈ pairs.take n, sc.state.canSwap p.1 p.2 := fun p hp =>
      h.canSwap (List.mem_of_mem_take hp)
    exact ⟨hanswer, hhandled, hstate.trans (h.typed.afterAll_swaps hcan)⟩
  · obtain ⟨-, -, -, hlast, hdrop⟩ := h.looked hoverlap rfl pairs.length
    obtain ⟨m, rfl⟩ := Nat.exists_eq_add_of_le' hn
    rw [looked, Function.iterate_add_apply]
    exact hlast.looked_of_nil (hdrop.trans List.drop_length) m

/-- Three strollers at one place while a program runs, two of whom were dealt with before. -/
def crowd : StageScene where
  store :=
    { state := ⟨["a", "b", "c"].map Lookout.stroller, .str "a", .bool true⟩
      listeners := [.detector] }
  memory := { detector := { handled := [(.str "a", .str "c")], attached := true } }

theorem crowd_searchable : Searchable Actor.overlaps crowd where
  keeps := rfl
  running := rfl
  typed := by
    refine List.forall_mem_map.mpr fun name _ => ⟨⟨name, rfl⟩, fun b hb => ?_⟩
    cases List.mem_singleton.mp hb
    exact ⟨⟨⟨_, rfl⟩, ⟨_, rfl⟩⟩, _, rfl⟩
  distinct := by
    have hids : crowd.state.ids = [.str "a", .str "b", .str "c"] := rfl
    simp [hids]
  decides := by
    have hdecided : crowd.state.actors.Pairwise fun a b => (a.overlaps b).toOption.isSome := by
      decide +kernel
    refine hdecided.imp fun {a b} h => ?_
    cases hab : a.overlaps b with
    | error fault =>
      rw [hab] at h
      cases h
    | ok answer => exact ⟨answer, rfl⟩

/-- Two pairs are due. Two looks swap them, and all later ones find nothing; the actor in both pairs
goes as it went before, and the two others go backwards. -/
theorem crowd_drains :
    Searchable Actor.overlaps crowd ∧
      due Actor.overlaps crowd = [(.str "a", .str "b"), (.str "b", .str "c")] ∧
      (∀ n ≥ 2, looked Actor.overlaps n crowd = looked Actor.overlaps 2 crowd) ∧
      (looked Actor.overlaps 2 crowd).state.programs =
        crowd.state.turnedPrograms fun id => !id.sameValue (.str "b") := by
  have hdue : due Actor.overlaps crowd = [(.str "a", .str "b"), (.str "b", .str "c")] := rfl
  obtain ⟨-, hlook, hlast⟩ := (drains Actor.overlaps_ofPlace crowd).1 crowd_searchable
  have hpairs : colliding Actor.overlaps crowd.handled crowd.state.actors =
    [(.str "a", .str "b"), (.str "b", .str "c")] := hdue
  rw [hpairs] at hlook hlast
  refine ⟨crowd_searchable, hdue, hlast, ?_⟩
  rw [(hlook 2).2.2, Snapshot.programs_turned]
  rfl

end StageScene

end SpriteStage
