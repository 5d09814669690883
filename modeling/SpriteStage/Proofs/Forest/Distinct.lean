import SpriteStage.Proofs.Forest.Sound
import SpriteStage.Proofs.Number.Same

/-!
# Identifiers that occur once

An edit lets no identifier into a forest twice, provided that what it puts in has none twice itself;
that is not looked at. Where a block is put in at the end this holds of identifiers of all kinds
(`Forest.distinct_appended_iff`); where it becomes the child of another it is used that identifiers
have been looked up before (`Forest.distinct_nested_iff`).
-/

namespace SpriteStage.Forest

variable {f g : Forest} {id : Datum} {b child : Block}

/-! ### Identifiers that can be looked up -/

/-- All identifiers can be looked up. -/
def Keyed (f : Forest) : Prop := ∀ i ∈ ids f, i.IsKey

theorem keyed_of_keyFault? (h : keyFault? (preorder f) = none) : Keyed f := by
  intro i hi
  obtain ⟨b, hb, rfl⟩ := List.mem_map.mp hi
  exact List.findSome?_eq_none_iff.mp h b hb

/-- For keys it does not matter in which order they stand. -/
theorem distinct_iff_of_perm (hf : Keyed f) (h : (ids g).Perm (ids f)) :
    Distinct g ↔ Distinct f := by
  have hboth {l : List Datum} (hl : ∀ i ∈ l, i.IsKey) :
      (l.Pairwise fun a b => ¬ a.sameValue b) ↔
        l.Pairwise fun a b => ¬ a.sameValue b ∧ ¬ b.sameValue a := by
    refine List.Pairwise.iff_of_mem fun {a b} ha hb => ?_
    rw [Datum.sameValue_comm (hl b hb) (hl a ha), and_self]
  have hg : Keyed g := fun i hi => hf i (h.mem_iff.mp hi)
  unfold Distinct
  rw [hboth hf, hboth hg]
  exact h.pairwise_iff fun hab => hab.symm

/-! ### What edits do -/

/-- A block at the end lets an identifier in twice only if it has it twice itself. -/
theorem distinct_appended_iff (hf : Distinct f) (h : Snapshot.appended? b f = some g) :
    Distinct g ↔ Distinct [b] := by
  obtain ⟨hmeets, rfl⟩ := eq_of_appended? h
  rw [distinct_append_iff hmeets]
  exact and_iff_right hf

/-- A further child lets an identifier in twice only if it has it twice itself. -/
theorem distinct_nested_iff (hf : Distinct f) (hkeys : Snapshot.meetFault? child f = none)
    (h : Snapshot.nested? id child f = some g) : Distinct g ↔ Distinct [child] := by
  obtain ⟨hmeets, -⟩ := exists_of_nested? h
  have hkeyed : Keyed (f ++ [child]) := by
    obtain ⟨hkf, hkc⟩ : keyFault? (preorder f) = none ∧ keyFault? (preorder [child]) = none := by
      unfold Snapshot.meetFault? at hkeys
      cases hkf : keyFault? (preorder f) with
      | some fault => rw [hkf] at hkeys; cases hkeys
      | none =>
        rw [hkf] at hkeys
        refine ⟨rfl, ?_⟩
        rw [preorder, preorder, List.append_nil]
        exact hkeys
    intro i hi
    rw [ids_append, List.mem_append] at hi
    exact hi.elim (keyed_of_keyFault? hkf i) (keyed_of_keyFault? hkc i)
  rw [distinct_iff_of_perm hkeyed (by rw [ids_append]; exact ids_perm_of_nested? h),
    distinct_append_iff hmeets]
  exact and_iff_right hf

theorem distinct_erased (hf : Distinct f) (h : Snapshot.erased? id f = some g) : Distinct g := by
  obtain rfl := eq_of_erased? h
  exact hf.sublist (ids_erase_sublist id f)

end SpriteStage.Forest
