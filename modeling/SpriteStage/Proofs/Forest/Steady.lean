import SpriteStage.Proofs.Forest.Listing

/-!
# Blocks that stay

Two forests are steady to each other if the blocks that are in both, by their identifiers, are of
the same kind in both, stand below the same block in both, and stand to each other in both as they
do in the other: before, behind, or somewhere below (`Forest.Steady`). That is so if only parameters
are different (`Forest.Steady.of_shape_eq`), and if something is put into a gap, or taken out of it,
that has no identifier in common with the rest (`Forest.Steady.of_fill`).
-/

namespace SpriteStage.Forest

variable {f g : Forest} {b : Block} {i j : Datum}

/-- A block of the first identifier has one of the second somewhere below it. -/
def Over (f : Forest) (i j : Datum) : Prop := ∃ b ∈ preorder f, b.id = i ∧ j ∈ ids b.children

/-- What is in both forests is of the same kind and in the same place in both. -/
structure Steady (f g : Forest) : Prop where
  /-- It is of the same kind, and below the same block. -/
  lines : ∀ l ∈ listing none f, ∀ l' ∈ listing none g, l'.id = l.id →
    l'.kind = l.kind ∧ l'.above = l.above
  /-- What stands before something else does so in both. -/
  order : ∀ i j, i ∈ ids f → j ∈ ids f → i ∈ ids g → j ∈ ids g →
    ([i, j].Sublist (ids g) ↔ [i, j].Sublist (ids f))
  /-- What stands somewhere below something else does so in both. -/
  ancestry : ∀ i j, i ∈ ids f → j ∈ ids f → i ∈ ids g → j ∈ ids g → (Over g i j ↔ Over f i j)

theorem map_id_listing (above : Option Datum) (f : Forest) :
    (listing above f).map (·.id) = ids f := by
  have hids := congrArg (List.map (·.1)) (map_listing above f)
  simpa [ids, Function.comp_def] using hids

/-- Where no identifier occurs twice, a line is known by its identifier. -/
theorem eq_of_mem_listing (hn : (ids f).Nodup) {l l' : Line} (hl : l ∈ listing none f)
    (hl' : l' ∈ listing none f) (hid : l'.id = l.id) : l' = l := by
  rw [← map_id_listing none] at hn
  exact List.inj_on_of_nodup_map hn hl' hl hid

namespace Over

theorem left_mem (h : Over f i j) : i ∈ ids f := by
  obtain ⟨b, hb, rfl, -⟩ := h
  exact List.mem_map_of_mem hb

theorem cons_iff {rest : Forest} :
    Over (b :: rest) i j ↔
      (b.id = i ∧ j ∈ ids b.children) ∨ Over b.children i j ∨ Over rest i j := by
  simp only [Over, preorder_cons, List.mem_cons, List.mem_append, or_and_right, exists_or,
    exists_eq_left]

theorem append_iff : Over (f ++ g) i j ↔ Over f i j ∨ Over g i j := by
  simp only [Over, preorder_append, List.mem_append, or_and_right, exists_or]

/-- Who stands below whom in the rest has nothing to do with what is in the gap. -/
theorem fill_iff (gap : Gap) (hi : i ∉ ids g) (hj : j ∉ ids g) :
    Over (gap.fill g) i j ↔ Over (gap.fill []) i j := by
  have hnot : ¬ Over g i j := fun h => hi h.left_mem
  induction gap with
  | here rest => rw [Gap.fill, Gap.fill, append_iff, List.nil_append, or_iff_right hnot]
  | inside above gap rest ih =>
    have hids : j ∈ ids (gap.fill g) ↔ j ∈ ids (gap.fill []) := by
      rw [Gap.mem_ids_fill_iff, or_iff_right hj]
    simp only [Gap.fill, cons_iff, hids, ih]
  | beside c gap ih => simp only [Gap.fill, cons_iff, ih]

theorem shape_iff : Over (shape f) i j ↔ Over f i j := by
  have hids (b : Block) : ids b.shape.children = ids b.children := by
    rw [Block.shape_children]
    exact ids_eq_of_shape_eq (shape_shape b.children)
  simp only [Over, preorder_shape, List.mem_map, exists_exists_and_eq_and, Block.shape_id, hids]

end Over

/-- A line without parameters. -/
def bare (l : Line) : Line := { l with params := .null }

theorem listing_shape (above : Option Datum) (f : Forest) :
    listing above (shape f) = (listing above f).map bare := by
  induction f using induct generalizing above with
  | nil => rfl
  | cons b rest ihb ihrest =>
    have hline : b.shape.line above = bare (b.line above) := by
      cases b
      rfl
    simp [listing_cons, hline, ihb, ihrest]

namespace Steady

theorem symm (h : Steady f g) : Steady g f where
  lines l hl l' hl' hid := by
    obtain ⟨hkind, habove⟩ := h.lines l' hl' l hl hid.symm
    exact ⟨hkind.symm, habove.symm⟩
  order i j hi hj hi' hj' := (h.order i j hi' hj' hi hj).symm
  ancestry i j hi hj hi' hj' := (h.ancestry i j hi' hj' hi hj).symm

/-- Nothing is in the empty forest. -/
theorem nil (f : Forest) : Steady f [] where
  lines _ _ _ hl' := nomatch hl'
  order _ _ _ _ hi := nomatch hi
  ancestry _ _ _ _ hi := nomatch hi

/-- Only parameters are different. -/
theorem of_shape_eq (hn : (ids f).Nodup) (h : shape g = shape f) : Steady f g where
  lines l hl l' hl' hid := by
    have hlines : (listing none g).map bare = (listing none f).map bare := by
      rw [← listing_shape, ← listing_shape, h]
    obtain ⟨l₀, hl₀, hbare⟩ := List.mem_map.mp (hlines ▸ List.mem_map_of_mem hl')
    have hsame : l₀ = l := by
      refine eq_of_mem_listing hn hl hl₀ ?_
      exact (congrArg Line.id hbare).trans hid
    subst hsame
    exact ⟨(congrArg Line.kind hbare).symm, (congrArg Line.above hbare).symm⟩
  order i j _ _ _ _ := by rw [ids_eq_of_shape_eq h]
  ancestry i j _ _ _ _ := by rw [← Over.shape_iff, h, Over.shape_iff]

/-- Something more is in the gap that has no identifier in common with the rest. -/
theorem of_fill {gap : Gap} (hn : (ids (gap.fill [])).Nodup)
    (hapart : ∀ i ∈ ids (gap.fill []), i ∉ ids g) : Steady (gap.fill []) (gap.fill g) where
  lines l hl l' hl' hid := by
    obtain ⟨before, after, parent, hlisting⟩ := exists_listing_fill gap none
    have hkept : l' ∈ listing none (gap.fill []) := by
      have hnot : l' ∉ listing parent g := by
        intro hg
        have hin := List.mem_map_of_mem (f := (·.id)) hl
        rw [map_id_listing] at hin
        refine hapart l.id hin ?_
        rw [← map_id_listing parent g, ← hid]
        exact List.mem_map_of_mem hg
      rw [hlisting] at hl' ⊢
      simpa [hnot] using hl'
    obtain rfl := eq_of_mem_listing hn hl hkept hid
    exact ⟨rfl, rfl⟩
  order i j hi hj _ _ := by
    classical
    rw [Gap.ids_fill_nil, Gap.ids_fill]
    refine ⟨fun h => ?_, fun h => h.trans ?_⟩
    · -- What is not put in is left if what is put in is struck out.
      have hpair : [i, j].filter (· ∉ ids g) = [i, j] := by
        simp [hapart i hi, hapart j hj]
      have hstruck : (ids g).filter (· ∉ ids g) = [] := by simp
      have hfiltered := h.filter (· ∉ ids g)
      rw [hpair, List.filter_append, List.filter_append, hstruck, List.append_nil] at hfiltered
      exact hfiltered.trans (List.filter_sublist.append List.filter_sublist)
    · exact (List.sublist_append_left _ _).append_right _
  ancestry i j hi hj _ _ := Over.fill_iff gap (hapart i hi) (hapart j hj)

end Steady

end SpriteStage.Forest
