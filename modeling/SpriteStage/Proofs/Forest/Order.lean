import SpriteStage.Block.Edit
import Mathlib.Data.List.Nodup

/-!
# Blocks in pre-order

What is below a block of a forest belongs to the forest, and in a forest of texts as identifiers, no
two alike, each block is the one that is found under its identifier. A forest is *named* if
identifiers and kinds are texts, and *typed* if moreover parameters are objects, as they are in all
programs that the stage makes; in such a forest nothing fails for being looked up.
-/

namespace SpriteStage

/-- The data is a text. -/
def Datum.IsText (d : Datum) : Prop := ∃ s, d = .str s

namespace Datum

/-- A text has the value of itself and of nothing else. -/
theorem sameValue_str_iff (s : String) (d : Datum) : (Datum.str s).sameValue d ↔ d = .str s := by
  cases d with
  | str t => rw [sameValue_str, beq_iff_eq, str.injEq, eq_comm]
  | _ => simp [sameValue]

theorem sameValue_iff_str (d : Datum) (s : String) : d.sameValue (.str s) ↔ d = .str s := by
  cases d <;> simp [sameValue, asNumber?]

theorem IsText.sameValue_iff {a b : Datum} (h : a.IsText) : a.sameValue b ↔ b = a := by
  obtain ⟨s, rfl⟩ := h
  exact sameValue_str_iff s b

theorem IsText.asKey {d : Datum} (h : d.IsText) : Fault.of? d.asKey = none := by
  obtain ⟨s, rfl⟩ := h
  rfl

end Datum

/-- The identifier and the kind of the block are texts. -/
structure Block.Named (b : Block) : Prop where
  id : b.id.IsText
  kind : b.kind.IsText

/-- The block is named, and its parameters are an object. -/
structure Block.Typed (b : Block) : Prop extends b.Named where
  params : ∃ fields, b.params = .object fields

namespace Forest

/-- All blocks are named. -/
def Named (f : Forest) : Prop := ∀ b ∈ preorder f, b.Named

/-- All blocks are typed. -/
def Typed (f : Forest) : Prop := ∀ b ∈ preorder f, b.Typed

/-! ### Pre-order -/

theorem preorder_append (f g : Forest) : preorder (f ++ g) = preorder f ++ preorder g := by
  induction f with
  | nil => rfl
  | cons b rest ih => simp [ih]

theorem ids_cons (b : Block) (rest : Forest) :
    ids (b :: rest) = b.id :: (ids b.children ++ ids rest) := by
  simp [ids]

theorem ids_append (f g : Forest) : ids (f ++ g) = ids f ++ ids g := by
  simp [ids, preorder_append]

theorem mem_preorder_of_mem {b : Block} {f : Forest} (h : b ∈ f) : b ∈ preorder f := by
  induction f with
  | nil => cases h
  | cons c rest ih =>
    rw [preorder_cons]
    rcases List.mem_cons.mp h with rfl | h
    · exact List.mem_cons_self
    · exact List.mem_cons_of_mem _ (List.mem_append_right _ (ih h))

/-- What is below a block of a forest belongs to the forest. -/
theorem mem_preorder_children {b c : Block} {f : Forest} (hb : b ∈ preorder f)
    (hc : c ∈ preorder b.children) : c ∈ preorder f := by
  induction f using induct with
  | nil => cases hb
  | cons a rest iha ihrest =>
    simp only [preorder_cons, List.mem_cons, List.mem_append] at hb ⊢
    rcases hb with rfl | hb | hb
    · exact .inr (.inl hc)
    · exact .inr (.inl (iha hb))
    · exact .inr (.inr (ihrest hb))

theorem postorder_cons (b : Block) (rest : Forest) :
    postorder (b :: rest) = postorder b.children ++ b :: postorder rest := by
  obtain ⟨id, kind, params, children⟩ := b
  show (postorder children ++ [_]) ++ postorder rest = _
  rw [List.append_assoc, List.singleton_append]

/-- After its children and in pre-order, the same blocks are listed. -/
theorem postorder_perm (f : Forest) : (postorder f).Perm (preorder f) := by
  induction f using induct with
  | nil => exact .refl _
  | cons b rest ihb ihrest =>
    rw [postorder_cons, preorder_cons]
    exact List.perm_middle.trans (.cons b (ihb.append ihrest))

theorem mem_postorder_iff {b : Block} {f : Forest} : b ∈ postorder f ↔ b ∈ preorder f :=
  (postorder_perm f).mem_iff

theorem length_postorder (f : Forest) : (postorder f).length = size f :=
  (postorder_perm f).length_eq

theorem depth_cons (b : Block) (rest : Forest) :
    depth (b :: rest) = max (depth b.children + 1) (depth rest) := by
  cases b; rfl

theorem depth_le_of_mem {b : Block} {f : Forest} (h : b ∈ f) : depth b.children + 1 ≤ depth f := by
  induction f with
  | nil => cases h
  | cons c rest ih =>
    rw [depth_cons]
    rcases List.mem_cons.mp h with rfl | h
    · omega
    · have := ih h
      omega

/-! ### Finding -/

theorem find?_cons (id : Datum) (b : Block) (rest : Forest) :
    find? id (b :: rest) =
      if b.hasId id then some b else (find? id b.children).or (find? id rest) := by
  rw [find?, preorder_cons]
  split_ifs with hid
  · rw [List.find?_cons_of_pos hid]
  · rw [List.find?_cons_of_neg hid, List.find?_append]
    rfl

theorem find?_self_of_pairwise {l : List Block} (hd : l.Pairwise fun a b => ¬ a.id.sameValue b.id)
    {b : Block} (hb : b ∈ l) (ht : b.id.IsText) : l.find? (·.hasId b.id) = some b := by
  induction l with
  | nil => cases hb
  | cons a rest ih =>
    obtain ⟨ha, hrest⟩ := List.pairwise_cons.mp hd
    rcases List.mem_cons.mp hb with rfl | hb
    · have hself : b.hasId b.id := ht.sameValue_iff.mpr rfl
      rw [List.find?_cons_of_pos hself]
    · have hne : ¬ a.hasId b.id := ha b hb
      rw [List.find?_cons_of_neg hne]
      exact ih hrest hb

/-- A block is found by its identifier, if no two are alike. -/
theorem Distinct.find?_self {f : Forest} (hd : Distinct f) {b : Block} (hb : b ∈ preorder f)
    (ht : b.id.IsText) : find? b.id f = some b :=
  find?_self_of_pairwise (List.pairwise_map.mp hd) hb ht

theorem ne_of_not_meets {f g : Forest} (h : meets f g = false) {a b : Block} (ha : a ∈ preorder f)
    (hb : b ∈ preorder g) : ¬ a.id.sameValue b.id := by
  intro hab
  have hmeets : meets f g := List.any_eq_true.mpr ⟨b, hb, List.any_eq_true.mpr ⟨a, ha, hab⟩⟩
  rw [h] at hmeets
  cases hmeets

theorem distinct_append_iff {f g : Forest} (hmeets : meets f g = false) :
    Distinct (f ++ g) ↔ Distinct f ∧ Distinct g := by
  unfold Distinct
  rw [ids_append, List.pairwise_append]
  refine ⟨fun ⟨hf, hg, _⟩ => ⟨hf, hg⟩, fun ⟨hf, hg⟩ => ⟨hf, hg, ?_⟩⟩
  intro i hi j hj
  obtain ⟨a, ha, rfl⟩ := List.mem_map.mp hi
  obtain ⟨b, hb, rfl⟩ := List.mem_map.mp hj
  exact ne_of_not_meets hmeets ha hb

/-- For texts, to be distinct by value is to be distinct. -/
theorem distinct_iff_nodup {f : Forest} (ht : ∀ b ∈ preorder f, b.id.IsText) :
    Distinct f ↔ (ids f).Nodup := by
  unfold Distinct ids
  rw [List.Nodup, List.pairwise_map, List.pairwise_map]
  refine List.Pairwise.iff_of_mem fun {a b} ha _ => ?_
  rw [(ht a ha).sameValue_iff]
  exact not_congr eq_comm

end Forest

end SpriteStage
