import SpriteStage.Proofs.Forest.Shape

/-!
# How much comes after a block

In a list of all blocks of a forest, each with those below it right after it, a child stands after
its parent (`Forest.StandsBefore.child`). Where no identifier occurs twice, whoever looks a block up
does not come to one further in front (`Forest.Distinct.standsBefore_found`). So to go from blocks
to their children and to what is found for these is to get nearer to the end of the forest.
-/

namespace SpriteStage.Forest

variable {f : Forest}

theorem mem_shape {b : Block} (h : b ∈ f) : b.shape ∈ shape f := by
  induction f with
  | nil => cases h
  | cons c f ih =>
    rw [shape_cons]
    obtain rfl | h := List.mem_cons.mp h
    · exact List.mem_cons_self
    · exact List.mem_cons_of_mem _ (ih h)

/-- A block is looked up in the shape of a forest as it is in the forest. -/
theorem find?_shape (id : Datum) (f : Forest) :
    find? id (shape f) = (find? id f).map Block.shape := by
  have hcomp : (fun b : Block => b.hasId id) ∘ Block.shape = fun b => b.hasId id :=
    funext fun b => congrArg (Datum.sameValue · id) b.shape_id
  rw [find?, find?, preorder_shape, List.find?_map, hcomp]

/-- The blocks below a block come right after it. -/
theorem exists_eq_of_preorder_eq {before after : List Block} {b : Block}
    (h : preorder f = before ++ b :: after) : ∃ rest, after = preorder b.children ++ rest := by
  induction f using induct generalizing before after with
  | nil => simp at h
  | cons c f ihc ihf =>
    rw [preorder_cons] at h
    cases before with
    | nil =>
      obtain ⟨rfl, rfl⟩ := List.cons.inj h
      exact ⟨_, rfl⟩
    | cons d before =>
      have h := (List.cons.inj h).2
      obtain ⟨mid, -, hafter⟩ | ⟨mid, hmid, hafter⟩ := List.append_eq_append_iff.mp h
      · exact ihf hafter
      · cases mid with
        | nil =>
          have hf : preorder f = [] ++ b :: after := hafter.symm
          exact ihf hf
        | cons e mid =>
          obtain ⟨rfl, rfl⟩ := List.cons.inj hafter
          obtain ⟨rest, rfl⟩ := ihc hmid
          exact ⟨rest ++ preorder f, List.append_assoc _ _ _⟩

/-- So many blocks come after the block, at one of the places at which it stands. -/
def StandsBefore (f : Forest) (n : Nat) (b : Block) : Prop :=
  ∃ before after, preorder f = before ++ b :: after ∧ after.length = n

theorem standsBefore_of_mem {b : Block} (h : b ∈ preorder f) : ∃ n, StandsBefore f n b := by
  obtain ⟨before, after, h⟩ := List.append_of_mem h
  exact ⟨after.length, before, after, h, rfl⟩

/-- A child stands after its parent. -/
theorem StandsBefore.child {n : Nat} {b c : Block} (h : StandsBefore f n b) (hc : c ∈ b.children) :
    ∃ m < n, StandsBefore f m c := by
  obtain ⟨before, after, hf, rfl⟩ := h
  obtain ⟨rest, rfl⟩ := exists_eq_of_preorder_eq hf
  obtain ⟨first, last, hchildren⟩ := List.append_of_mem (mem_preorder_of_mem hc)
  refine ⟨(last ++ rest).length, ?_, before ++ b :: first, last ++ rest, ?_, rfl⟩
  · simp only [hchildren, List.length_append, List.length_cons]
    omega
  · simp only [hf, hchildren, List.append_assoc, List.cons_append]

/-- Where no identifier occurs twice, what is found under that of a block does not stand before it.
-/
theorem Distinct.standsBefore_found (hd : Distinct f) {n : Nat} {b : Block}
    (h : StandsBefore f n b) : ∃ m ≤ n, StandsBefore f m ((find? b.id f).getD b) := by
  obtain ⟨before, after, hf, rfl⟩ := id h
  cases hfind : find? b.id f with
  | none => exact ⟨after.length, Nat.le_refl _, h⟩
  | some c =>
    have hpairwise := List.pairwise_map.mp hd
    rw [hf] at hpairwise
    obtain ⟨-, -, hapart⟩ := List.pairwise_append.mp hpairwise
    have hnone : before.find? (·.hasId b.id) = none :=
      List.find?_eq_none.mpr fun a ha => hapart a ha b List.mem_cons_self
    rw [find?, hf, List.find?_append, hnone, Option.none_or] at hfind
    obtain ⟨first, last, hlast⟩ := List.append_of_mem (List.mem_of_find?_eq_some hfind)
    have hlength := congrArg List.length hlast
    rw [List.length_append, List.length_cons, List.length_cons] at hlength
    refine ⟨last.length, by omega, before ++ first, last, ?_, rfl⟩
    rw [hf, hlast, List.append_assoc]
    rfl

end SpriteStage.Forest
