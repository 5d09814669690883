import SpriteStage.Proofs.Forest.Backward
import SpriteStage.Proofs.Snapshot.Distinct
import SpriteStage.Proofs.Snapshot.Parity
import SpriteStage.Collision

/-!
# What a swap changes

A swap of two different actors that are there makes both their programs go backwards: of every move,
at any depth, the sign of the steps is turned if they are a number. That is all that it changes, and
any other swap changes nothing (`Snapshot.Typed.exchanges`). After any number of swaps of two such
actors, the moves are turned of those who belong to an odd number of the pairs
(`Snapshot.Typed.afterAll_swaps`).
-/

namespace SpriteStage

/-- The actor with its program backwards. -/
def Actor.backward (a : Actor) : Actor := { a with blocks := Forest.backward a.blocks }

namespace Snapshot

variable {s : Snapshot}

/-- The snapshot with the programs of two actors backwards. -/
def backwards (s : Snapshot) (first second : Datum) : Snapshot :=
  { s with actors := s.actors.map fun a =>
      if a.hasId first || a.hasId second then a.backward else a }

theorem Typed.fault?_swapMoves (hs : s.Typed) (first second : Datum) :
    s.fault? (.swapMoves first second) = none := by
  by_cases h : s.canSwap first second
  · obtain ⟨-, hfirst, hsecond⟩ := hs.canSwap_iff.mp h
    exact swapFault?_eq_none hs (hs.isText_of_mem_ids hfirst) (hs.isText_of_mem_ids hsecond)
  · exact if_neg h

/-- To turn the moves of two programs without double identifiers is to make them go backwards. -/
theorem Typed.swapped?_eq (hs : s.Typed) (hd : s.DistinctPrograms) {first second : Datum}
    (h : s.canSwap first second) : s.swapped? first second = some (s.backwards first second) := by
  have hturn : ∀ a ∈ s.actors, a.turnMoves = a.backward := fun a ha =>
    congrArg (fun blocks => { a with blocks })
      (Forest.turnMoves_eq_backward (hs a ha).blocks (hd a ha))
  have hactors : ∀ a ∈ s.actors, (if a.hasId first || a.hasId second then a.turnMoves else a) =
      if a.hasId first || a.hasId second then a.backward else a := fun a ha => by rw [hturn a ha]
  rw [swapped?, if_pos h, backwards, List.map_congr_left hactors]

/-- **What a swap changes.** If the two are different and both are there, the swap is carried out,
and all that differs afterwards is that both programs go backwards: they have the same lines in the
same places, those of moves with the sign of their steps turned if that is a number. In every other
case the swap is not carried out. -/
theorem Typed.exchanges (hs : s.Typed) (hd : s.DistinctPrograms) (first second : Datum) :
    (first ≠ second ∧ first ∈ s.ids ∧ second ∈ s.ids →
      s.attempt (.swapMoves first second) = .ok (some (s.backwards first second))) ∧
    (¬ (first ≠ second ∧ first ∈ s.ids ∧ second ∈ s.ids) →
      s.attempt (.swapMoves first second) = .ok none) ∧
    ∀ f : Forest, Forest.listing none (Forest.backward f) =
      (Forest.listing none f).map Line.backward := by
  have hattempt : s.attempt (.swapMoves first second) = .ok (s.swapped? first second) :=
    attempt_of_none (hs.fault?_swapMoves first second)
  refine ⟨fun h => ?_, fun h => ?_, Forest.listing_backward none⟩
  · rw [hattempt, hs.swapped?_eq hd (hs.canSwap_iff.mpr h)]
  · rw [hattempt, swapped?, if_neg fun hcan => h (hs.canSwap_iff.mp hcan)]

/-- Two actors that move inside of a repetition, where a turn has steps too, and a third one. -/
def dancers (forth : Int) : Snapshot :=
  let steps (n : Int) : Datum := .object [("steps", .num (.int n))]
  let dance : Forest :=
    [{ id := .str "round", kind := .str "repeat", children :=
        [⟨.str "forth", .str "move", steps forth, []⟩, ⟨.str "spin", .str "turn", steps 7, []⟩] },
      ⟨.str "halt", .str "move", .object [("steps", .bool true)], []⟩]
  { actors :=
      [{ id := .str "ant", name := .str "Ant", blocks := dance },
        { id := .str "bee", name := .str "Bee", blocks := dance },
        { id := .str "cow", name := .str "Cow",
          blocks := [⟨.str "go", .str "move", steps 3, []⟩] }]
    activeActorId := .str "ant" }

theorem dancers_typed (forth : Int) : (dancers forth).Typed := by
  intro a ha
  simp only [dancers, List.mem_cons, List.not_mem_nil, or_false] at ha
  rcases ha with rfl | rfl | rfl
  all_goals
    refine ⟨⟨_, rfl⟩, fun b hb => ?_⟩
    fin_cases hb <;> exact ⟨⟨⟨_, rfl⟩, ⟨_, rfl⟩⟩, _, rfl⟩

theorem dancers_distinctPrograms (forth : Int) : (dancers forth).DistinctPrograms := by
  intro a ha
  unfold Forest.Distinct
  simp only [dancers, List.mem_cons, List.not_mem_nil, or_false] at ha
  rcases ha with rfl | rfl | rfl <;> simp [Forest.ids, Datum.sameValue_str]

/-- The move inside of the repetition is turned; the turn with steps, the move whose steps are no
number and the third actor are left alone. With itself nobody is swapped. -/
theorem dancers_exchange :
    (dancers 10).Typed ∧ (dancers 10).DistinctPrograms ∧
      (dancers 10).attempt (.swapMoves (.str "ant") (.str "bee")) = .ok (some (dancers (-10))) ∧
      (dancers 10).attempt (.swapMoves (.str "ant") (.str "ant")) = .ok none := by
  have hs := dancers_typed 10
  have hd := dancers_distinctPrograms 10
  have hant : Datum.str "ant" ∈ (dancers 10).ids := List.mem_cons_self
  have hbee : Datum.str "bee" ∈ (dancers 10).ids := List.mem_cons_of_mem _ List.mem_cons_self
  refine ⟨hs, hd, ?_, ?_⟩
  · exact ((hs.exchanges hd _ _).1 ⟨by simp, hant, hbee⟩).trans rfl
  · exact (hs.exchanges hd _ _).2.1 fun h => h.1 rfl

end Snapshot

/-! ### Any number of swaps -/

/-- Whether an identifier is one of the two of a pair. -/
def Pair.names (id : Datum) (p : Pair) : Bool := id.sameValue p.1 || id.sameValue p.2

namespace Snapshot

variable {s : Snapshot} {chosen again : Datum → Bool}

/-- The snapshot with the moves of the chosen actors turned. -/
def turned (s : Snapshot) (chosen : Datum → Bool) : Snapshot :=
  { s with actors := s.actors.map fun a => if chosen a.id then a.turnMoves else a }

theorem programs_turned (s : Snapshot) (chosen : Datum → Bool) :
    (s.turned chosen).programs = s.turnedPrograms chosen := by
  simp only [turned, programs, turnedPrograms, List.map_map]
  refine List.map_congr_left fun a _ => ?_
  cases h : chosen a.id <;> simp [h, Actor.turnMoves]

theorem ids_turned (s : Snapshot) (chosen : Datum → Bool) : (s.turned chosen).ids = s.ids :=
  ids_of_programs_eq (s.programs_turned chosen)

theorem Typed.turned (hs : s.Typed) (chosen : Datum → Bool) : (s.turned chosen).Typed :=
  hs.of_programs_eq (s.programs_turned chosen)

theorem turned_eq_self (h : ∀ id, chosen id = false) : s.turned chosen = s := by
  simp [turned, h]

/-- To turn the chosen programs, and then some again, turns those that are chosen just once. -/
theorem Typed.turned_turned (hs : s.Typed) :
    (s.turned chosen).turned again = s.turned fun id => again id ^^ chosen id := by
  simp only [Snapshot.turned, List.map_map]
  refine congrArg (fun actors => { s with actors }) (List.map_congr_left fun a ha => ?_)
  have htwice : a.turnMoves.turnMoves = a := congrArg (fun blocks => { a with blocks })
    (Forest.turnMoves_turnMoves fun b hb => ((hs a ha).blocks b hb).params)
  have hid : a.turnMoves.id = a.id := rfl
  by_cases hc : chosen a.id <;> by_cases ha : again a.id <;> simp [hc, ha, htwice, hid]

theorem Typed.after_swap (hs : s.Typed) {p : Pair} (h : s.canSwap p.1 p.2) :
    s.after (.swapMoves p.1 p.2) = s.turned fun id => p.names id := by
  rw [hs.after_swapMoves, swapped?, if_pos h]
  rfl

/-- **Any number of swaps** of two different actors who are there turn the moves of those who belong
to an odd number of the pairs, and change nothing else. -/
theorem Typed.afterAll_swaps (hs : s.Typed) {pairs : List Pair}
    (h : ∀ p ∈ pairs, s.canSwap p.1 p.2) :
    s.afterAll (pairs.map fun p => .swapMoves p.1 p.2) =
      s.turned fun id => decide (Odd (pairs.countP (Pair.names id))) := by
  induction pairs generalizing s with
  | nil => exact (turned_eq_self fun _ => rfl).symm
  | cons p rest ih =>
    rw [List.forall_mem_cons] at h
    have hrest : ∀ q ∈ rest, (s.turned fun id => p.names id).canSwap q.1 q.2 := fun q hq => by
      rw [(hs.turned _).canSwap_iff, ids_turned]
      exact hs.canSwap_iff.mp (h.2 q hq)
    calc s.afterAll ((p :: rest).map fun p => .swapMoves p.1 p.2)
      _ = (s.after (.swapMoves p.1 p.2)).afterAll (rest.map fun p => .swapMoves p.1 p.2) := rfl
      _ = (s.turned fun id => p.names id).turned
          fun id => decide (Odd (rest.countP (Pair.names id))) := by
        rw [hs.after_swap h.1, ih (hs.turned _) hrest]
      _ = s.turned fun id => decide (Odd ((p :: rest).countP (Pair.names id))) := by
        rw [hs.turned_turned]
        congr 1
        funext id
        cases hp : p.names id with
        | false => simp [hp]
        | true => simp only [List.countP_cons_of_pos hp, Nat.odd_add_one, decide_not, Bool.xor_true]

end Snapshot

end SpriteStage
