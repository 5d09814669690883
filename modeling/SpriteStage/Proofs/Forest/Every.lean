import SpriteStage.Proofs.Forest.Sound
import SpriteStage.Proofs.Forest.Turn

/-!
# What holds of every block

Some properties are a matter of a block by itself, whatever its children are (`Block.Own`). If every
block of a program has such a property, then so it is after blocks are taken out, after moves are
turned, and after blocks are changed or put in that have the property with all below them. To be
typed is such a property.
-/

namespace SpriteStage

/-- Whether a block has the property has nothing to do with its children. -/
def Block.Own (p : Block → Prop) : Prop :=
  ∀ (b : Block) (children : Forest), p b → p { b with children }

theorem Block.own_typed : Block.Own Block.Typed := fun _ _ hb => ⟨⟨hb.id, hb.kind⟩, hb.params⟩

namespace Forest

/-- Every block of the forest has the property. -/
def Every (p : Block → Prop) (f : Forest) : Prop := ∀ b ∈ preorder f, p b

variable {p : Block → Prop} {f g : Forest} {id : Datum} {b child : Block}

theorem every_nil : Every p [] := fun _ hmem => nomatch hmem

theorem every_cons_iff {rest : Forest} :
    Every p (b :: rest) ↔ p b ∧ Every p b.children ∧ Every p rest := by
  simp only [Every, preorder_cons, List.mem_cons, List.mem_append, or_imp, forall_and, forall_eq]

theorem every_singleton_iff : Every p [b] ↔ p b ∧ Every p b.children := by
  rw [every_cons_iff]
  exact ⟨fun h => ⟨h.1, h.2.1⟩, fun h => ⟨h.1, h.2, every_nil⟩⟩

theorem every_append_iff : Every p (f ++ g) ↔ Every p f ∧ Every p g := by
  simp only [Every, preorder_append, List.mem_append, or_imp, forall_and]

namespace Every

theorem erase (hp : Block.Own p) (hf : Every p f) (id : Datum) : Every p (erase id f) := by
  induction f using induct with
  | nil => exact hf
  | cons b rest ihb ihrest =>
    obtain ⟨hb, hchildren, hrest⟩ := every_cons_iff.mp hf
    rw [erase_cons]
    split_ifs
    · exact ihrest hrest
    · exact every_cons_iff.mpr ⟨hp b _ hb, ihb hchildren, ihrest hrest⟩

/-- To have the property around a gap has nothing to do with what is in the gap. -/
theorem fill_iff (hp : Block.Own p) (gap : Gap) :
    Every p (gap.fill g) ↔ Every p g ∧ Every p (gap.fill []) := by
  induction gap with
  | here rest => exact every_append_iff
  | inside above gap rest ih =>
    have habove : p { above with children := gap.fill g } ↔
        p { above with children := gap.fill [] } :=
      ⟨hp { above with children := gap.fill g } _, hp { above with children := gap.fill [] } _⟩
    rw [Gap.fill, Gap.fill, every_cons_iff, every_cons_iff, habove, ih]
    tauto
  | beside c gap ih =>
    rw [Gap.fill, Gap.fill, every_cons_iff, every_cons_iff, ih]
    tauto

/-- To change a block into one that has the property with all below it. -/
theorem modify? (hp : Block.Own p) {change : Block → Block}
    (hchange : ∀ b, Every p [b] → Every p [change b]) (hf : Every p f)
    (h : modify? id change f = some g) : Every p g := by
  obtain ⟨gap, b, -, rfl, rfl⟩ := Gap.exists_of_modify? h
  obtain ⟨hb, hrest⟩ := (fill_iff hp gap).mp hf
  exact (fill_iff hp gap).mpr ⟨hchange b hb, hrest⟩

theorem of_find? (hf : Every p f) (h : find? id f = some b) : Every p [b] := by
  have hb : b ∈ preorder f := List.mem_of_find?_eq_some h
  exact every_singleton_iff.mpr ⟨hf b hb, fun c hc => hf c (mem_preorder_children hb hc)⟩

theorem nested (hp : Block.Own p) (hf : Every p f) (hchild : Every p [child])
    (h : Snapshot.nested? id child f = some g) : Every p g := by
  obtain ⟨-, parent, hfind, -, h⟩ := exists_of_nested? h
  obtain ⟨hparent, hchildren⟩ := every_singleton_iff.mp (hf.of_find? hfind)
  have hgrown : Every p [{ parent with children := parent.children ++ [child] }] :=
    every_singleton_iff.mpr ⟨hp parent _ hparent, every_append_iff.mpr ⟨hchildren, hchild⟩⟩
  exact hf.modify? hp (fun _ _ => hgrown) h

/-- To turn moves, if a block that is turned has the property. -/
theorem turnMoves (hp : Block.Own p) (hturn : ∀ b wanted, p b → p (b.turnIf wanted))
    (hf : Every p f) : Every p (turnMoves f) := by
  intro b hb
  rw [turnMoves_eq, preorder_rebuild fun b => b.turnIf_children (turns f b)] at hb
  obtain ⟨c, hc, rfl⟩ := List.mem_map.mp hb
  exact hturn _ _ (hp c _ (hf c hc))

end Every

/-! ### Typed programs -/

theorem typed_nil : Typed [] := every_nil

theorem typed_singleton_iff : Typed [b] ↔ b.Typed ∧ Typed b.children := every_singleton_iff

theorem Typed.turnMoves (h : Typed f) : Typed (turnMoves f) :=
  Every.turnMoves Block.own_typed (fun _ _ hb => ⟨⟨hb.id, hb.kind⟩, _, rfl⟩) h

end Forest

end SpriteStage
