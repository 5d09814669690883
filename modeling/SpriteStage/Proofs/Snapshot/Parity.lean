import SpriteStage.Proofs.Forest.Every
import SpriteStage.Proofs.Snapshot.Lineup
import SpriteStage.Proofs.Walk.Course
import Mathlib.Algebra.Group.Nat.Even

/-!
# Swaps by parity

Of the actions that a run gives rise to, only swaps have to do with programs, and all that a swap
does to a program is to turn its moves. Since to turn them twice changes nothing, it is only the
number of swaps that counts, and only whether it is even (`Snapshot.programs_afterAll`). So the
order of the swaps does not matter, nor which of the two actors is named first.
-/

namespace SpriteStage

namespace Action

/-- The action is one of those that runs, and the detector during them, dispatch, or of a user who
does no more than choose an actor. -/
def OfRun : Action → Prop
  | swapMoves .. | updateActor .. | resetActors .. | setRunning _ | selectActor _ => True
  | _ => False

/-- Whether the action is a swap. -/
def isSwap : Action → Bool
  | swapMoves .. => true
  | _ => false

/-- Whether the action is a swap that names this identifier together with a different one of those
that there are. -/
def swaps (ids : List Datum) (id : Datum) : Action → Bool
  | swapMoves first second => ids.any fun other => !other.sameValue id &&
      (id.sameValue first && other.sameValue second || id.sameValue second && other.sameValue first)
  | _ => false

variable {action : Action} {ids : List Datum} {id : Datum}

theorem isSwap_of_swaps (h : action.swaps ids id) : action.isSwap := by
  cases action <;> first | rfl | cases h

/-- Of texts, a swap names each together with the other. -/
theorem swaps_swapMoves_iff {first second : Datum} (hid : id.IsText)
    (hids : ∀ other ∈ ids, other.IsText) :
    (Action.swapMoves first second).swaps ids id ↔
      first ≠ second ∧ (id = first ∧ second ∈ ids ∨ id = second ∧ first ∈ ids) := by
  simp only [swaps, List.any_eq_true, Bool.and_eq_true, Bool.or_eq_true, Bool.not_eq_true']
  constructor
  · rintro ⟨other, hmem, hne, ⟨hfirst, hsecond⟩ | ⟨hsecond, hfirst⟩⟩
    · rw [hid.sameValue_iff] at hfirst
      rw [(hids other hmem).sameValue_iff] at hsecond
      subst hfirst hsecond
      refine ⟨fun heq => ?_, .inl ⟨rfl, hmem⟩⟩
      rw [(hids _ hmem).sameValue_iff.mpr heq] at hne
      cases hne
    · rw [hid.sameValue_iff] at hsecond
      rw [(hids other hmem).sameValue_iff] at hfirst
      subst hfirst hsecond
      refine ⟨fun heq => ?_, .inr ⟨rfl, hmem⟩⟩
      rw [(hids _ hmem).sameValue_iff.mpr heq.symm] at hne
      cases hne
  · have hdiffers {other : Datum} (hmem : other ∈ ids) (hne : id ≠ other) :
        other.sameValue id = false := by
      rw [← Bool.not_eq_true, (hids other hmem).sameValue_iff]
      exact hne
    rintro ⟨hne, ⟨rfl, hmem⟩ | ⟨rfl, hmem⟩⟩
    · exact ⟨second, hmem, hdiffers hmem hne, .inl
        ⟨hid.sameValue_iff.mpr rfl, (hids second hmem).sameValue_iff.mpr rfl⟩⟩
    · exact ⟨first, hmem, hdiffers hmem hne.symm, .inr
        ⟨hid.sameValue_iff.mpr rfl, (hids first hmem).sameValue_iff.mpr rfl⟩⟩

end Action

namespace Snapshot

/-- The programs of the actors, in order, each with the identifier of its actor. -/
def programs (s : Snapshot) : List (Datum × Forest) := s.actors.map fun a => (a.id, a.blocks)

/-- The programs, with the moves turned of those whose actors are chosen. -/
def turnedPrograms (s : Snapshot) (chosen : Datum → Bool) : List (Datum × Forest) :=
  s.programs.map fun p => (p.1, if chosen p.1 then Forest.turnMoves p.2 else p.2)

variable {s : Snapshot}

theorem map_fst_programs (s : Snapshot) : s.programs.map Prod.fst = s.ids := by
  rw [programs, List.map_map]
  rfl

/-- To be typed is a matter of the programs. -/
theorem typed_iff_programs :
    s.Typed ↔ ∀ p ∈ s.programs, p.1.IsText ∧ Forest.Typed p.2 := by
  simp only [programs, List.forall_mem_map]
  exact forall₂_congr fun a _ => ⟨fun h => ⟨h.id, h.blocks⟩, fun h => ⟨h.1, h.2⟩⟩

theorem Typed.isText_of_mem_ids (hs : s.Typed) {id : Datum} (h : id ∈ s.ids) : id.IsText := by
  obtain ⟨a, ha, rfl⟩ := List.mem_map.mp h
  exact (hs a ha).id

/-- In a typed snapshot, who is named is there. -/
theorem Typed.actor?_isSome_iff (hs : s.Typed) {id : Datum} :
    (s.actor? id).isSome ↔ id ∈ s.ids := by
  constructor
  · intro h
    obtain ⟨a, ha⟩ := Option.isSome_iff_exists.mp h
    have hid : id = a.id := (hs a (mem_of_actor? ha)).id.sameValue_iff.mp (hasId_of_actor? ha)
    exact hid ▸ List.mem_map_of_mem (mem_of_actor? ha)
  · intro h
    have htext := hs.isText_of_mem_ids h
    obtain ⟨a, ha, rfl⟩ := List.mem_map.mp h
    by_contra hnone
    refine not_hasId_of_actor?_eq_none htext (Option.not_isSome_iff_eq_none.mp hnone) a ha ?_
    exact htext.sameValue_iff.mpr rfl

theorem Typed.canSwap_iff (hs : s.Typed) {first second : Datum} :
    s.canSwap first second ↔ first ≠ second ∧ first ∈ s.ids ∧ second ∈ s.ids := by
  simp only [canSwap, Bool.and_eq_true, Bool.not_eq_true', hs.actor?_isSome_iff, and_assoc]
  refine and_congr_left fun ⟨hmem, _⟩ => ?_
  rw [← Bool.not_eq_true, (hs.isText_of_mem_ids hmem).sameValue_iff]
  exact not_congr eq_comm

/-! ### One action -/

/-- The moves of a typed snapshot can be turned, so it is only asked whose. -/
theorem Typed.after_swapMoves (hs : s.Typed) (first second : Datum) :
    s.after (.swapMoves first second) = (s.swapped? first second).getD s := by
  by_cases h : s.canSwap first second
  · obtain ⟨-, hfirst, hsecond⟩ := hs.canSwap_iff.mp h
    exact after_of_none
      (swapFault?_eq_none hs (hs.isText_of_mem_ids hfirst) (hs.isText_of_mem_ids hsecond))
  · have hfault : s.fault? (.swapMoves first second) = none := if_neg h
    exact after_of_none hfault

/-- Which of the two is named first does not matter. -/
theorem Typed.after_swapMoves_comm (hs : s.Typed) (first second : Datum) :
    s.after (.swapMoves first second) = s.after (.swapMoves second first) := by
  have hcan : s.canSwap second first = s.canSwap first second := by
    rw [Bool.eq_iff_iff, hs.canSwap_iff, hs.canSwap_iff]
    tauto
  simp only [hs.after_swapMoves, swapped?, hcan, Bool.or_comm]

theorem programs_of_match {s' : Snapshot} (h : s.Match (fun a b => b.blocks = a.blocks) s') :
    s'.programs = s.programs :=
  h.map_eq fun _ _ hid hblocks => Prod.ext hid hblocks

theorem turnedPrograms_of_not {chosen : Datum → Bool} (h : ∀ id ∈ s.ids, chosen id = false) :
    s.turnedPrograms chosen = s.programs := by
  have hsame : ∀ p ∈ s.programs,
      (p.1, if chosen p.1 then Forest.turnMoves p.2 else p.2) = id p := fun p hp => by
    have hid : p.1 ∈ s.ids := s.map_fst_programs ▸ List.mem_map_of_mem hp
    simp [h p.1 hid]
  rw [turnedPrograms, List.map_congr_left hsame, List.map_id]

theorem ids_of_programs_eq {s' : Snapshot} {chosen : Datum → Bool}
    (h : s'.programs = s.turnedPrograms chosen) : s'.ids = s.ids := by
  rw [← map_fst_programs, ← map_fst_programs, h, turnedPrograms, List.map_map]
  rfl

theorem Typed.of_programs_eq (hs : s.Typed) {s' : Snapshot} {chosen : Datum → Bool}
    (h : s'.programs = s.turnedPrograms chosen) : s'.Typed := by
  rw [typed_iff_programs] at hs ⊢
  rw [h, turnedPrograms, List.forall_mem_map]
  intro p hp
  obtain ⟨hid, hf⟩ := hs p hp
  refine ⟨hid, ?_⟩
  dsimp only
  split_ifs
  · exact hf.turnMoves
  · exact hf

/-- **A step**: an action of a run turns the moves of those whom it names as a swap, and leaves the
other programs as they are. -/
theorem Typed.programs_after (hs : s.Typed) {action : Action} (ha : action.OfRun) :
    (s.after action).programs = s.turnedPrograms (action.swaps s.ids) := by
  cases action with
  | swapMoves first second =>
    have hwho {a : Actor} (hmem : a ∈ s.actors) (hcan : s.canSwap first second) :
        (Action.swapMoves first second).swaps s.ids a.id = (a.hasId first || a.hasId second) := by
      obtain ⟨hne, hfirst, hsecond⟩ := hs.canSwap_iff.mp hcan
      have hid := (hs a hmem).id
      rw [Bool.eq_iff_iff, Action.swaps_swapMoves_iff hid fun _ => hs.isText_of_mem_ids,
        Bool.or_eq_true, Actor.hasId, Actor.hasId, hid.sameValue_iff, hid.sameValue_iff]
      simp only [hne, hfirst, hsecond, ne_eq, not_false_eq_true, and_true, true_and, eq_comm]
    rw [hs.after_swapMoves, swapped?]
    split_ifs with hcan
    · simp only [Option.getD_some, programs, turnedPrograms, List.map_map]
      refine List.map_congr_left fun a hmem => ?_
      simp only [Function.comp_apply, hwho hmem hcan]
      split_ifs <;> rfl
    · refine (turnedPrograms_of_not fun id hmem => ?_).symm
      rw [← Bool.not_eq_true, Action.swaps_swapMoves_iff (hs.isText_of_mem_ids hmem)
        fun _ => hs.isText_of_mem_ids]
      rw [hs.canSwap_iff] at hcan
      rintro ⟨hne, ⟨rfl, hother⟩ | ⟨rfl, hother⟩⟩
      · exact hcan ⟨hne, hmem, hother⟩
      · exact hcan ⟨hne, hother, hmem⟩
  | updateActor actorId changes =>
    have hmatch := match_updateActor (fun _ _ h => h) s actorId changes
    exact (programs_of_match hmatch).trans (turnedPrograms_of_not fun _ _ => rfl).symm
  | resetActors x y direction =>
    have hmatch := match_resetActors (fun _ _ h => h) s x y direction
    exact (programs_of_match hmatch).trans (turnedPrograms_of_not fun _ _ => rfl).symm
  | setRunning value => exact (turnedPrograms_of_not fun _ _ => rfl).symm
  | selectActor actorId =>
    have hactors := s.actors_after_selectActor actorId
    refine .trans ?_ (turnedPrograms_of_not fun _ _ => rfl).symm
    rw [programs, hactors, programs]
  | _ => cases ha

/-! ### Any number of actions -/

/-- To turn the chosen programs, and then some again, turns those that are chosen just once. -/
theorem Typed.turnedPrograms_turned (hs : s.Typed) {s' : Snapshot} {chosen again : Datum → Bool}
    (h : s'.programs = s.turnedPrograms chosen) :
    s'.turnedPrograms again = s.turnedPrograms fun id => again id ^^ chosen id := by
  rw [turnedPrograms, h, turnedPrograms, turnedPrograms, List.map_map]
  refine List.map_congr_left fun p hp => ?_
  have hparams : ∀ b ∈ Forest.preorder p.2, ∃ fields, b.params = .object fields :=
    fun b hb => ((typed_iff_programs.mp hs p hp).2 b hb).params
  cases hc : chosen p.1 <;> cases ha : again p.1 <;>
    simp [hc, ha, Forest.turnMoves_turnMoves hparams]

/-- The actions name the identifier as swaps an odd number of times. -/
def swapsOddly (ids : List Datum) (actions : List Action) (id : Datum) : Bool :=
  decide (Odd (actions.countP (Action.swaps ids id)))

theorem swapsOddly_cons (ids : List Datum) (action : Action) (rest : List Action) (id : Datum) :
    swapsOddly ids (action :: rest) id = (swapsOddly ids rest id ^^ action.swaps ids id) := by
  unfold swapsOddly
  cases h : action.swaps ids id with
  | false => simp [h]
  | true => simp only [List.countP_cons_of_pos h, Nat.odd_add_one, decide_not, Bool.xor_true]

/-- **Swaps act by parity.** -/
theorem Typed.programs_afterAll (hs : s.Typed) {actions : List Action}
    (h : ∀ action ∈ actions, action.OfRun) :
    (s.afterAll actions).programs = s.turnedPrograms (swapsOddly s.ids actions) := by
  induction actions generalizing s with
  | nil => exact (turnedPrograms_of_not fun _ _ => rfl).symm
  | cons action rest ih =>
    have hstep := hs.programs_after (h action List.mem_cons_self)
    have hrest := ih (hs.of_programs_eq hstep) fun a ha => h a (List.mem_cons_of_mem _ ha)
    calc (s.afterAll (action :: rest)).programs
      _ = ((s.after action).afterAll rest).programs := rfl
      _ = (s.after action).turnedPrograms (swapsOddly s.ids rest) := by
        rw [hrest, ids_of_programs_eq hstep]
      _ = s.turnedPrograms (swapsOddly s.ids (action :: rest)) := by
        rw [hs.turnedPrograms_turned hstep]
        exact congrArg s.turnedPrograms
          (funext fun id => (swapsOddly_cons s.ids action rest id).symm)

/-- Only swaps count. -/
theorem swapsOddly_of_perm (ids : List Datum) {actions actions' : List Action}
    (h : (actions'.filter Action.isSwap).Perm (actions.filter Action.isSwap)) :
    swapsOddly ids actions' = swapsOddly ids actions := by
  funext id
  have hcount (actions : List Action) : actions.countP (Action.swaps ids id) =
      (actions.filter Action.isSwap).countP (Action.swaps ids id) := by
    rw [List.countP_filter]
    refine List.countP_congr fun action _ => ?_
    simp only [Bool.and_eq_true]
    exact ⟨fun h => ⟨h, Action.isSwap_of_swaps h⟩, And.left⟩
  unfold swapsOddly
  rw [hcount, hcount actions, h.countP_eq]

/-- To swap the same two twice restores everything. -/
theorem Typed.after_swapMoves_twice (hs : s.Typed) (first second : Datum) :
    (s.after (.swapMoves first second)).after (.swapMoves first second) = s := by
  have hswap : (Action.swapMoves first second).OfRun := trivial
  have hstep := hs.programs_after hswap
  have hs' := hs.of_programs_eq hstep
  by_cases hcan : s.canSwap first second
  · have hcan' : (s.after (.swapMoves first second)).canSwap first second := by
      rw [hs'.canSwap_iff, ids_of_programs_eq hstep]
      exact hs.canSwap_iff.mp hcan
    rw [hs'.after_swapMoves, swapped?, if_pos hcan', hs.after_swapMoves, swapped?, if_pos hcan]
    simp only [Option.getD_some, List.map_map]
    have hactors : ∀ a ∈ s.actors,
        ((fun a : Actor => if a.hasId first || a.hasId second then a.turnMoves else a) ∘
          fun a : Actor => if a.hasId first || a.hasId second then a.turnMoves else a) a = a := by
      intro a ha
      have hparams : ∀ b ∈ Forest.preorder a.blocks, ∃ fields, b.params = .object fields :=
        fun b hb => ((hs a ha).blocks b hb).params
      by_cases hnamed : a.hasId first || a.hasId second
      · have hnamed' : a.turnMoves.hasId first || a.turnMoves.hasId second := hnamed
        simp only [Function.comp_apply, if_pos hnamed, if_pos hnamed']
        simp only [Actor.turnMoves, Forest.turnMoves_turnMoves hparams]
      · simp only [Function.comp_apply, if_neg hnamed]
    rw [List.map_congr_left hactors, List.map_id']
  · have hsame : s.after (.swapMoves first second) = s := by
      rw [hs.after_swapMoves, swapped?, if_neg hcan]
      rfl
    rw [hsame, hsame]

/-- **Swaps act by parity and in any order.** After any number of actions of runs, those programs
are turned, once, whose actors were named by an odd number of swaps together with a different actor
that is there, and the others are as they were. So the order of the swaps does not matter; nor does
it matter which of the two is named first, and the same swap twice restores everything. -/
theorem programs_eq_by_parity (hs : s.Typed) {actions : List Action}
    (h : ∀ action ∈ actions, action.OfRun) :
    (s.afterAll actions).programs =
        s.turnedPrograms (fun id => decide (Odd (actions.countP (Action.swaps s.ids id)))) ∧
      (∀ actions', (∀ action ∈ actions', action.OfRun) →
        (actions'.filter Action.isSwap).Perm (actions.filter Action.isSwap) →
        (s.afterAll actions').programs = (s.afterAll actions).programs) ∧
      (∀ first second, s.after (.swapMoves first second) = s.after (.swapMoves second first)) ∧
      ∀ first second, (s.after (.swapMoves first second)).after (.swapMoves first second) = s := by
  refine ⟨hs.programs_afterAll h, fun actions' h' hperm => ?_, hs.after_swapMoves_comm,
    hs.after_swapMoves_twice⟩
  rw [hs.programs_afterAll h, hs.programs_afterAll h', swapsOddly_of_perm s.ids hperm]

/-- Three actors with a move inside a repetition each. -/
def trio : Snapshot :=
  let mover (name : String) (steps : Datum) : Actor :=
    { id := .str name, name := .str name
      blocks := [⟨.str "r", .str "repeat", .object [("times", .num (.int 2))],
        [⟨.str "m", .str "move", .object [("steps", steps)], []⟩]⟩] }
  { actors := [mover "ant" (.num (.int 10)), mover "bee" (.num (.int 20)), mover "cow" (.str "5")]
    activeActorId := .str "ant" }

theorem trio_typed : trio.Typed := by
  intro a ha
  simp only [trio, List.mem_cons, List.not_mem_nil, or_false] at ha
  rcases ha with rfl | rfl | rfl
  all_goals
    refine ⟨⟨_, rfl⟩, fun b hb => ?_⟩
    simp at hb
    rcases hb with rfl | rfl <;> exact ⟨⟨⟨_, rfl⟩, ⟨_, rfl⟩⟩, _, rfl⟩

/-- The bee is swapped with each of the others, so that it is turned twice. -/
def trioSwaps : List Action :=
  [.setRunning (.bool true), .swapMoves (.str "ant") (.str "bee"),
    .updateActor (.str "bee") (.object [("x", .num (.int 3))]),
    .swapMoves (.str "cow") (.str "bee"), .swapMoves (.str "bee") (.str "bee"),
    .swapMoves (.str "bee") (.str "elk")]

theorem trio_by_parity :
    trio.Typed ∧ (∀ action ∈ trioSwaps, action.OfRun) ∧
      (trio.afterAll trioSwaps).programs =
        trio.turnedPrograms (fun id => id.sameValue (.str "ant") || id.sameValue (.str "cow")) ∧
      (trio.afterAll (trioSwaps.reverse)).programs = (trio.afterAll trioSwaps).programs := by
  have hs : trio.Typed := trio_typed
  have h : ∀ action ∈ trioSwaps, action.OfRun := by
    simp [trioSwaps, Action.OfRun]
  refine ⟨hs, h, ?_, ?_⟩
  · exact (programs_eq_by_parity hs h).1.trans rfl
  · refine (programs_eq_by_parity hs h).2.1 _ (fun action ha => h action (List.mem_reverse.mp ha)) ?_
    rw [List.filter_reverse]
    exact List.reverse_perm _

end Snapshot

end SpriteStage
