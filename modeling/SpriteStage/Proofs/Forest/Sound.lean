import SpriteStage.Proofs.Forest.Shape

/-!
# Sound forests

A forest is sound if its identifiers are texts, no two alike, its kinds are kinds that there are,
and only blocks that repeat have children. Every edit of a program keeps it sound, as long as what
is put in is sound: parameters and turned moves leave the shape as it is, what is taken out leaves
fewer identifiers behind, and what is put in brings identifiers that are new.
-/

namespace SpriteStage

/-- The identifier is a text, the kind is one that there is, and only a block that repeats has
children. -/
structure Block.Sound (b : Block) : Prop where
  id : b.id.IsText
  kind : ∃ k : BlockKind, b.kind = .str k.name
  children : b.children ≠ [] → b.kind = .str BlockKind.loop.name

/-- All blocks are sound, and no two have the same identifier. -/
structure Forest.Sound (f : Forest) : Prop where
  distinct : Forest.Distinct f
  blocks : ∀ b ∈ Forest.preorder f, b.Sound

namespace Block

theorem repeats_iff {b : Block} : b.repeats ↔ b.kind = .str BlockKind.loop.name :=
  Datum.sameValue_iff_str b.kind _

/-- A block that differs from a sound one in its parameters, or has lost children, is sound. -/
theorem Sound.congr {b c : Block} (hb : b.Sound) (hid : c.id = b.id) (hkind : c.kind = b.kind)
    (hchildren : c.children ≠ [] → b.children ≠ []) : c.Sound where
  id := hid ▸ hb.id
  kind := hkind ▸ hb.kind
  children hc := hkind ▸ hb.children (hchildren hc)

end Block

namespace Forest

variable {f g : Forest} {id : Datum}

theorem Sound.ids_nodup (hf : Sound f) : (ids f).Nodup :=
  (distinct_iff_nodup fun b hb => (hf.blocks b hb).id).mp hf.distinct

theorem sound_of_nodup (hn : (ids f).Nodup) (hb : ∀ b ∈ preorder f, b.Sound) : Sound f :=
  ⟨(distinct_iff_nodup fun b h => (hb b h).id).mpr hn, hb⟩

theorem sound_nil : Sound [] := ⟨.nil, List.forall_mem_nil _⟩

/-! ### Other parameters -/

theorem shape_eq_nil_iff : shape f = [] ↔ f = [] := by
  cases f <;> simp

/-- To be sound is a matter of the shape. -/
theorem Sound.of_shape_eq (hf : Sound f) (h : shape f = shape g) : Sound g := by
  refine ⟨distinct_of_shape_eq h hf.distinct, fun c hc => ?_⟩
  obtain ⟨b, hb, hbc⟩ := shape_of_mem_of_shape_eq h.symm hc
  obtain ⟨hid, hkind, hchildren⟩ := Block.shape_eq_iff.mp hbc
  refine (hf.blocks b hb).congr hid.symm hkind.symm fun hne hnil => ?_
  rw [hnil] at hchildren
  exact hne (shape_eq_nil_iff.mp hchildren.symm)

/-! ### Taking out -/

theorem ids_erase_sublist (id : Datum) (f : Forest) : (ids (erase id f)).Sublist (ids f) := by
  induction f using induct with
  | nil => exact List.Sublist.refl _
  | cons b rest ihb ihrest =>
    rw [erase_cons, ids_cons]
    split_ifs with hid
    · exact .cons _ (ihrest.trans (List.sublist_append_right _ _))
    · rw [ids_cons]
      exact .cons_cons _ (ihb.append ihrest)

/-- What is left was there, perhaps with more children. -/
theorem exists_of_mem_erase {c : Block} (hc : c ∈ preorder (erase id f)) :
    ∃ b ∈ preorder f, c.id = b.id ∧ c.kind = b.kind ∧ (c.children ≠ [] → b.children ≠ []) := by
  induction f using induct with
  | nil => cases hc
  | cons b rest ihb ihrest =>
    have hrest (h : c ∈ preorder (erase id rest)) : ∃ b' ∈ preorder (b :: rest),
        c.id = b'.id ∧ c.kind = b'.kind ∧ (c.children ≠ [] → b'.children ≠ []) := by
      obtain ⟨b', hb', hcb⟩ := ihrest h
      exact ⟨b', by simp [hb'], hcb⟩
    rw [erase_cons] at hc
    split_ifs at hc with hid
    · exact hrest hc
    · simp only [preorder_cons, List.mem_cons, List.mem_append] at hc
      rcases hc with rfl | hc | hc
      · refine ⟨b, by simp, rfl, rfl, fun hne hnil => hne ?_⟩
        simp [hnil]
      · obtain ⟨b', hb', hcb⟩ := ihb hc
        exact ⟨b', by simp [hb'], hcb⟩
      · exact hrest hc

theorem Sound.erase (hf : Sound f) (id : Datum) : Sound (erase id f) := by
  refine sound_of_nodup (hf.ids_nodup.sublist (ids_erase_sublist id f)) fun c hc => ?_
  obtain ⟨b, hb, hid, hkind, hchildren⟩ := exists_of_mem_erase hc
  exact (hf.blocks b hb).congr hid hkind hchildren

/-! ### Putting in -/

theorem Sound.append (hf : Sound f) (hg : Sound g) (h : meets f g = false) : Sound (f ++ g) := by
  refine ⟨(distinct_append_iff h).mpr ⟨hf.distinct, hg.distinct⟩, fun b hb => ?_⟩
  rw [preorder_append, List.mem_append] at hb
  exact hb.elim (hf.blocks b) (hg.blocks b)

theorem Sound.nested {child : Block} (hf : Sound f) (hchild : Sound [child])
    (h : Snapshot.nested? id child f = some g) : Sound g := by
  have hperm := ids_perm_of_nested? h
  obtain ⟨hmeets, parent, hfind, hrepeats, h⟩ := exists_of_nested? h
  obtain ⟨gap, rfl, hid, hclear⟩ := Gap.exists_of_find? hfind
  rw [Gap.modify?_fill hclear hid] at h
  cases h
  have hparent := hf.blocks parent (List.mem_of_find?_eq_some hfind)
  refine sound_of_nodup ?_ fun c hc => ?_
  · rw [hperm.nodup_iff, ← ids_append]
    exact (hf.append hchild hmeets).ids_nodup
  · obtain hc | ⟨b, hb, hcb⟩ := Gap.exists_of_mem_fill (List.cons_ne_nil parent []) hc
    · simp only [preorder_cons, preorder_nil, preorder_append, List.mem_cons, List.mem_append] at hc
      rcases hc with rfl | (hc | hc) | hc
      · exact ⟨hparent.id, hparent.kind, fun _ => Block.repeats_iff.mp hrepeats⟩
      · exact hf.blocks c (mem_preorder_children (List.mem_of_find?_eq_some hfind) hc)
      · exact hchild.blocks c (by simpa using hc)
      · cases hc
    · exact (hf.blocks b hb).congr hcb.1 hcb.2.1 hcb.2.2

end Forest

end SpriteStage
