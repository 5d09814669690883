import SpriteStage.Proofs.Forest.Listing
import SpriteStage.Proofs.Snapshot.Amend
import SpriteStage.Proofs.Snapshot.Distinct

/-!
# A block taken out

An action that takes a block out changes nothing just in case the actor that it addresses is not
there or has no such block; in particular it changes nothing when it is repeated. What is taken out
of a program is one block with all that is below it, and nothing else (`Forest.removes_subtree`).
-/

namespace SpriteStage

namespace Snapshot

variable {s : Snapshot} {id address : Datum} {change : Actor → Option Actor}

/-- Who has the identifier after the change is who had it before, changed. -/
theorem find?_of_changeFirst? (hid : ∀ a b, change a = some b → b.id = a.id) {l l' : List Actor}
    (h : changeFirst? id change l = some l') :
    ∃ a b, l.find? (·.hasId id) = some a ∧ change a = some b ∧ l'.find? (·.hasId id) = some b := by
  obtain ⟨before, a, rest, b, rfl, hbefore, ha, hb, rfl⟩ := exists_of_changeFirst? h
  have hb' : b.hasId id := (hasId_congr_id (hid a b hb) id).trans ha
  exact ⟨a, b, find?_append_cons hbefore ha, hb, find?_append_cons hbefore hb'⟩

theorem changeFirst?_eq_none_iff {l : List Actor} :
    changeFirst? id change l = none ↔ ∀ a, l.find? (·.hasId id) = some a → change a = none := by
  rw [changeFirst?_eq]
  cases l.find? (·.hasId id) <;> simp

/-- The actor that the address means is not there, or does not have the block. -/
def Lacks (s : Snapshot) (id address : Datum) : Prop :=
  s.holder? (s.addressee address) = none ∨
    ∃ a, s.holder? (s.addressee address) = some a ∧ ¬ Forest.hasId id a.blocks

theorem lacks_iff : s.Lacks id address ↔
    ∀ a, s.holder? (s.addressee address) = some a → ¬ Forest.hasId id a.blocks := by
  unfold Lacks
  cases s.holder? (s.addressee address) <;> simp

theorem erased?_eq_none_iff {f : Forest} : erased? id f = none ↔ ¬ Forest.hasId id f := by
  unfold erased?
  split_ifs with h <;> simp [h]

theorem attempt_removeBlock (s : Snapshot) (id address : Datum) :
    s.attempt (.removeBlock id address) = .ok (s.changeBlocks? address (erased? id)) := rfl

/-- The action is not carried out just in case there is nothing to take out. -/
theorem attempt_removeBlock_eq_none_iff :
    s.attempt (.removeBlock id address) = .ok none ↔ s.Lacks id address := by
  rw [attempt_removeBlock, Except.ok.injEq, changeBlocks?, changeActor?, Option.map_eq_none_iff,
    changeFirst?_eq_none_iff, lacks_iff]
  simp only [Option.map_eq_none_iff, erased?_eq_none_iff]
  exact Iff.rfl

/-- The snapshot is the same afterwards just in case there is nothing to take out. -/
theorem after_removeBlock_eq_self_iff :
    s.after (.removeBlock id address) = s ↔ s.Lacks id address := by
  rw [← attempt_removeBlock_eq_none_iff]
  refine ⟨fun h => ?_, fun h => by rw [after, h]⟩
  rw [attempt_removeBlock]
  cases hs' : s.changeBlocks? address (erased? id) with
  | none => rfl
  | some s' =>
    rw [after, attempt_removeBlock, hs'] at h
    obtain rfl : s' = s := h
    -- the program would be the same without a block that it has
    obtain ⟨before, a, rest, f, hactors, -, hf, hs⟩ := exists_of_changeBlocks? hs'
    have hsame := congrArg Snapshot.actors hs
    rw [hactors, List.append_cancel_left_eq, List.cons.injEq] at hsame
    have hblocks : a.blocks = f := congrArg Actor.blocks hsame.1
    have hkept : Forest.erase id a.blocks = a.blocks :=
      (Forest.eq_of_erased? hf).symm.trans hblocks.symm
    rw [erased?_eq_none_iff.mpr (Forest.erase_eq_self_iff.mp hkept)] at hf
    cases hf

/-- Once it has been taken out, there is nothing to take out. -/
theorem lacks_after_removeBlock (s : Snapshot) (id address : Datum) :
    (s.after (.removeBlock id address)).Lacks id address := by
  rw [after, attempt_removeBlock]
  cases hs' : s.changeBlocks? address (erased? id) with
  | none => exact attempt_removeBlock_eq_none_iff.mp (by rw [attempt_removeBlock, hs'])
  | some s' =>
    obtain ⟨actors, hactors, rfl⟩ := Option.map_eq_some_iff.mp hs'
    have hid (a b : Actor) (h : (erased? id a.blocks).map ({ a with blocks := · }) = some b) :
        b.id = a.id := by
      obtain ⟨f, -, rfl⟩ := Option.map_eq_some_iff.mp h
      rfl
    obtain ⟨a, b, -, hb, hfind⟩ := find?_of_changeFirst? hid hactors
    obtain ⟨f, hf, rfl⟩ := Option.map_eq_some_iff.mp hb
    obtain rfl := Forest.eq_of_erased? hf
    exact .inr ⟨_, hfind, Forest.not_hasId_erase id a.blocks⟩

end Snapshot

namespace Forest

/-- **A block taken out.** What is left has no block of the identifier, and is the same forest just
in case there was none before; otherwise there are fewer blocks. To take the identifier out once
more changes nothing. The action for it leaves the snapshot the same just in case the actor that it
addresses is not there or has no such block. And where no identifier occurs twice, what is cut out
of the written program is the one segment that is the block with all that is below it: all other
lines stay in their order and below the block that they were below, and there are as many blocks
fewer as there are in the segment. -/
theorem removes_subtree (f : Forest) (id : Datum) :
    ¬ hasId id (erase id f) ∧
    (erase id f = f ↔ ¬ hasId id f) ∧
    (hasId id f → size (erase id f) < size f) ∧
    erase id (erase id f) = erase id f ∧
    (∀ (s : Snapshot) (address : Datum),
      (s.attempt (.removeBlock id address) = .ok none ↔ s.Lacks id address) ∧
      (s.after (.removeBlock id address) = s ↔ s.Lacks id address) ∧
      (s.after (.removeBlock id address)).attempt (.removeBlock id address) = .ok none) ∧
    ((∀ b ∈ preorder f, b.id.IsText) → Distinct f → ∀ b ∈ preorder f, b.hasId id →
      (∃ before after parent,
        listing none f = before ++ listing parent [b] ++ after ∧
        listing none (erase id f) = before ++ after) ∧
      size (erase id f) + size [b] = size f) := by
  refine ⟨not_hasId_erase id f, erase_eq_self_iff, size_erase_lt, erase_erase id f,
    fun s address => ⟨Snapshot.attempt_removeBlock_eq_none_iff,
      Snapshot.after_removeBlock_eq_self_iff,
      Snapshot.attempt_removeBlock_eq_none_iff.mpr (s.lacks_after_removeBlock id address)⟩,
    fun ht hd b hb hid => ?_⟩
  have hfind : find? id f = some b := (ht b hb).sameValue_iff.mp hid ▸ hd.find?_self hb (ht b hb)
  obtain ⟨before, after, parent, hbefore, hafter⟩ := exists_listing_erase ht hd hfind
  refine ⟨⟨before, after, parent, hbefore, hafter⟩, ?_⟩
  have hlength := congrArg List.length hbefore
  have hlength' := congrArg List.length hafter
  simp only [List.length_append, length_listing] at hlength hlength'
  omega

/-- A repetition of one move. -/
def paces : Block where
  id := .str "paces"
  kind := .str "repeat"
  children := [{ id := .str "go", kind := .str "move" }]

/-- A repetition of a turn and of a repetition of a move, and a jump after it. -/
def errand : Forest :=
  [{ id := .str "errand"
     kind := .str "repeat"
     children := [{ id := .str "spin", kind := .str "turn" }, paces] },
    { id := .str "home", kind := .str "goto" }]

/-- To take the inner repetition out takes its move out too, and leaves the turn before it and the
jump after it. -/
theorem errand_removes_subtree :
    (∀ b ∈ preorder errand, b.id.IsText) ∧ Distinct errand ∧ paces ∈ preorder errand ∧
      paces.hasId (.str "paces") ∧ size (erase (.str "paces") errand) + 2 = size errand ∧
      ids (erase (.str "paces") errand) = [.str "errand", .str "spin", .str "home"] := by
  have ht : ∀ b ∈ preorder errand, b.id.IsText := by
    intro b hb
    fin_cases hb <;> exact ⟨_, rfl⟩
  have hd : Distinct errand := by
    unfold Distinct
    decide
  have hmem : paces ∈ preorder errand := by simp [errand]
  obtain ⟨-, hsize⟩ := (removes_subtree errand (.str "paces")).2.2.2.2.2 ht hd paces hmem rfl
  exact ⟨ht, hd, hmem, rfl, hsize, rfl⟩

end Forest

end SpriteStage
