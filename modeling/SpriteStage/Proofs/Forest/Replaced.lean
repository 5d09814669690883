import SpriteStage.Proofs.Forest.Sound

/-!
# One block replaced

Every edit of a program that is carried out puts something in the place of one block, and leaves all
else as it is (`Forest.Replaced`): a block with other parameters, a block with one more child, or
nothing. The block is the one that is found under the identifier.
-/

namespace SpriteStage.Forest

/-- The second forest is the first with a forest in the place of one block. -/
inductive Replaced (b : Block) (g : Forest) : Forest → Forest → Prop
  | here (rest : Forest) : Replaced b g (b :: rest) (g ++ rest)
  | inside {c : Block} {children : Forest} (rest : Forest) : Replaced b g c.children children →
      Replaced b g (c :: rest) ({ c with children } :: rest)
  | beside (c : Block) {rest rest' : Forest} : Replaced b g rest rest' →
      Replaced b g (c :: rest) (c :: rest')

variable {f f' : Forest} {id : Datum} {b child : Block} {change : Block → Block}

/-- What is in a gap is replaced by what is put there instead. -/
theorem replaced_fill (gap : Gap) (b : Block) (g : Forest) :
    Replaced b g (gap.fill [b]) (gap.fill g) := by
  induction gap with
  | here rest => exact .here rest
  | inside above gap rest ih => exact .inside (c := { above with children := gap.fill [b] }) rest ih
  | beside c gap ih => exact .beside c ih

/-- A change is a change of the block that is found. -/
theorem exists_replaced_of_modify? (h : modify? id change f = some f') :
    ∃ b, find? id f = some b ∧ Replaced b [change b] f f' := by
  obtain ⟨gap, b, hfind, rfl, rfl⟩ := Gap.exists_of_modify? h
  exact ⟨b, hfind, replaced_fill gap b [change b]⟩

/-- A further child is put into the block that is found, which repeats. -/
theorem exists_replaced_of_nested? (h : Snapshot.nested? id child f = some f') :
    ∃ parent, find? id f = some parent ∧ parent.repeats ∧
      Replaced parent [{ parent with children := parent.children ++ [child] }] f f' := by
  obtain ⟨-, parent, hfind, hrepeats, hmodify⟩ := exists_of_nested? h
  obtain ⟨b, hb, hreplaced⟩ := exists_replaced_of_modify? hmodify
  cases hfind.symm.trans hb
  exact ⟨parent, hfind, hrepeats, hreplaced⟩

/-- Where no identifier occurs twice, to take an identifier out is to take out the block that is
found, with what is below it. -/
theorem replaced_erase (hn : (ids f).Nodup) (ht : ∀ b ∈ preorder f, b.id.IsText)
    (hfind : find? id f = some b) : Replaced b [] f (erase id f) := by
  obtain ⟨gap, rfl, hid, -⟩ := Gap.exists_of_find? hfind
  rw [Gap.erase_fill (Gap.find?_fill_nil hn ht hid) hid]
  exact replaced_fill gap b []

theorem Sound.exists_replaced_of_erased? (hf : Sound f) (h : Snapshot.erased? id f = some f') :
    ∃ b, find? id f = some b ∧ Replaced b [] f f' := by
  obtain rfl := eq_of_erased? h
  unfold Snapshot.erased? at h
  split_ifs at h with hid
  obtain ⟨b, hb⟩ := Option.isSome_iff_exists.mp (hasId_iff_find?_isSome.mp hid)
  exact ⟨b, hb, replaced_erase hf.ids_nodup (fun b hb => (hf.blocks b hb).id) hb⟩

end SpriteStage.Forest
