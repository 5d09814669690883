import SpriteStage.Proofs.Forest.Steady
import SpriteStage.Proofs.Snapshot.Commuting
import SpriteStage.Proofs.Snapshot.Distinct

/-!
# What an action leaves in place

Whatever an action does to an actor who stays, the blocks of the program that stay keep their kinds
and their places: they stand below the same blocks, and before and behind the same blocks
(`Snapshot.Labelled.programs_steady`). Changes of parameters leave all of that alone; what else an
action does to a program is to fill a gap or to make one.
-/

namespace SpriteStage

namespace Forest

variable {f g : Forest} {b : Block} {id : Datum}

/-- What is let into a forest of texts brings no identifier of it. -/
theorem not_mem_ids_of_not_meets (ht : ∀ c ∈ preorder f, c.id.IsText) (h : meets f [b] = false) :
    ∀ i ∈ ids f, i ∉ ids [b] := by
  intro i hi hib
  obtain ⟨c, hc, rfl⟩ := List.mem_map.mp hi
  obtain ⟨d, hd, hdc⟩ := List.mem_map.mp hib
  exact ne_of_not_meets h hc hd ((ht c hc).sameValue_iff.mpr hdc)

theorem Steady.of_erased? (hn : (ids f).Nodup) (ht : ∀ c ∈ preorder f, c.id.IsText)
    (h : Snapshot.erased? id f = some g) : Steady f g := by
  unfold Snapshot.erased? at h
  split_ifs at h with hid
  cases h
  obtain ⟨b, hfind⟩ := Option.isSome_iff_exists.mp (hasId_iff_find?_isSome.mp hid)
  obtain ⟨gap, rfl, hb, -⟩ := Gap.exists_of_find? hfind
  rw [Gap.erase_fill (Gap.find?_fill_nil hn ht hb) hb]
  rw [(gap.ids_fill_perm [b]).nodup_iff, List.nodup_append] at hn
  obtain ⟨-, hrest, hapart⟩ := hn
  exact (Steady.of_fill hrest fun i hi hib => hapart i hib i hi rfl).symm

/-- Every change of a program leaves what stays in its place. -/
theorem Steady.of_programChange? (hn : (ids f).Nodup) (ht : ∀ c ∈ preorder f, c.id.IsText)
    {action : Action} {address : Datum} {change : Forest → Option Forest}
    (hchange : action.programChange? = some (address, change)) (h : change f = some g) :
    Steady f g := by
  cases action with
  | addBlock =>
    cases hchange
    obtain ⟨hmeets, gap, rfl, rfl⟩ := Gap.exists_of_appended? h
    exact .of_fill hn (not_mem_ids_of_not_meets ht hmeets)
  | removeBlock =>
    cases hchange
    exact .of_erased? hn ht h
  | updateParams =>
    cases hchange
    exact .of_shape_eq hn (shape_modify? (fun b => b.shape_with_params _) h)
  | addChild =>
    cases hchange
    obtain ⟨hmeets, gap, rfl, rfl⟩ := Gap.exists_of_nested? h
    exact .of_fill hn (not_mem_ids_of_not_meets ht hmeets)
  | clearBlocks =>
    cases hchange
    cases h
    exact .nil f
  | _ => cases hchange

end Forest

/-- Whatever becomes of an actor, what stays of its program is steady. -/
theorem Actor.Becomes.steady {action : Action} {a b : Actor} (h : a.Becomes action b)
    (hn : (Forest.ids a.blocks).Nodup) (ht : ∀ c ∈ Forest.preorder a.blocks, c.id.IsText) :
    Forest.Steady a.blocks b.blocks := by
  cases h with
  | same | reset => exact .of_shape_eq hn rfl
  | rewritten hchange hf => exact .of_programChange? hn ht hchange hf
  | altered => exact .of_shape_eq hn (congrArg Forest.shape (a.setAll_blocks _))
  | turned => exact .of_shape_eq hn (Forest.shape_turnMoves a.blocks)

namespace Snapshot

variable {s : Snapshot}

theorem Labelled.eq_of_mem (hs : s.Labelled)
    (hactors : s.actors.Pairwise fun a b => ¬ a.id.sameValue b.id) {a b : Actor}
    (ha : a ∈ s.actors) (hb : b ∈ s.actors) (hid : b.id = a.id) : b = a := by
  have hn : (s.actors.map (·.id)).Nodup := by
    refine List.pairwise_map.mpr (hactors.imp_of_mem fun {c d} hc _ hne hcd => hne ?_)
    exact (hs c hc).1.sameValue_iff.mpr hcd.symm
  exact List.inj_on_of_nodup_map hn hb ha hid

/-- Nobody is brought in under an identifier that is taken. -/
theorem after_addActor_of_mem {a actor : Actor} (ha : a ∈ s.actors) (htext : a.id.IsText)
    (hid : actor.id = a.id) : s.after (.addActor actor) = s := by
  have htaken : (s.actor? actor.id).isSome := by
    rw [Option.isSome_iff_ne_none, hid]
    intro hnone
    exact not_hasId_of_actor?_eq_none htext hnone a ha (htext.sameValue_iff.mpr rfl)
  rw [after_of_none rfl, after?, withActor?, if_pos htaken, Option.getD_none]

/-- **Blocks that stay keep their kinds and places.** Where actors and blocks have texts for
identifiers, those of the actors pairwise different and those in each program too, every action
leaves the programs of the actors who stay steady. -/
theorem Labelled.programs_steady (hs : s.Labelled) (hd : s.DistinctPrograms)
    (hactors : s.actors.Pairwise fun a b => ¬ a.id.sameValue b.id) (action : Action) :
    ∀ a ∈ s.actors, ∀ b ∈ (s.after action).actors, b.id = a.id →
      Forest.Steady a.blocks b.blocks := by
  intro a ha b hb hid
  obtain ⟨htext, hblocks⟩ := hs a ha
  have hn : (Forest.ids a.blocks).Nodup := (Forest.distinct_iff_nodup hblocks).mp (hd a ha)
  obtain ⟨c, hc, hbecomes⟩ | rfl := exists_of_mem_after hb
  · obtain rfl := hs.eq_of_mem hactors ha hc (hbecomes.id.symm.trans hid)
    exact hbecomes.steady hn hblocks
  · rw [after_addActor_of_mem ha htext hid] at hb
    obtain rfl := hs.eq_of_mem hactors ha hb hid
    exact .of_shape_eq hn rfl

/-- A repetition of a move and of another repetition, and a turn. -/
def circuit : Forest :=
  [{ id := .str "outer", kind := .str "repeat", children :=
      [{ id := .str "ahead", kind := .str "move" },
        { id := .str "inner", kind := .str "repeat", children :=
          [{ id := .str "hello", kind := .str "say" }] }] },
    { id := .str "about", kind := .str "turn" }]

/-- An elk that goes in circles, and an owl that does nothing. -/
def parade : Snapshot where
  actors :=
    [{ id := .str "elk", name := .str "Elk", blocks := circuit },
      { id := .str "owl", name := .str "Owl" }]
  activeActorId := .str "owl"

theorem parade_labelled : parade.Labelled := by
  intro a ha
  simp only [parade, List.mem_cons, List.not_mem_nil, or_false] at ha
  rcases ha with rfl | rfl
  · refine ⟨⟨_, rfl⟩, fun b hb => ?_⟩
    simp [circuit] at hb
    rcases hb with rfl | rfl | rfl | rfl | rfl <;> exact ⟨_, rfl⟩
  · exact ⟨⟨_, rfl⟩, nofun⟩

theorem parade_distinctPrograms : parade.DistinctPrograms := by
  intro a ha
  simp only [parade, List.mem_cons, List.not_mem_nil, or_false] at ha
  unfold Forest.Distinct
  rcases ha with rfl | rfl <;> decide

/-- If the move is taken out, what is left of the program of the elk is steady. -/
theorem parade_steady :
    parade.Labelled ∧ parade.DistinctPrograms ∧
      (parade.actors.Pairwise fun a b => ¬ a.id.sameValue b.id) ∧
      ∃ f,
        (parade.after (.removeBlock (.str "ahead") (.str "elk"))).actors.map (·.blocks) = [f, []] ∧
        Forest.ids f = [.str "outer", .str "inner", .str "hello", .str "about"] ∧
        Forest.Steady circuit f := by
  have hactors : parade.actors.Pairwise fun a b => ¬ a.id.sameValue b.id := by decide
  have hsteady := parade_labelled.programs_steady parade_distinctPrograms hactors
    (.removeBlock (.str "ahead") (.str "elk"))
  exact ⟨parade_labelled, parade_distinctPrograms, hactors, _, rfl, rfl,
    hsteady _ List.mem_cons_self _ List.mem_cons_self rfl⟩

end Snapshot

end SpriteStage
