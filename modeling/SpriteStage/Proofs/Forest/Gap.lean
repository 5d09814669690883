import SpriteStage.Proofs.Forest.Order
import SpriteStage.Transition

/-!
# Forests with a gap

If a block of a forest is left out with all that is below it, what remains is a forest with a gap
(`Gap`), and another forest can be put in there (`Gap.fill`). Edits are a matter of what is in the
gap: the block that is found is changed in its place (`Gap.modify?_fill`), and no change is of
another kind (`Gap.exists_of_modify?`); a block is taken out and nothing put in (`Gap.erase_fill`),
or the other way round (`Gap.exists_of_appended?`, `Gap.exists_of_nested?`). What is around the gap
stays as it is.
-/

namespace SpriteStage

/-- A forest with a gap somewhere. -/
inductive Gap where
  /-- The gap is in front of these blocks. -/
  | here (rest : Forest)
  /-- The gap is below this block, whose own children are left out of account. -/
  | inside (above : Block) (gap : Gap) (rest : Forest)
  /-- The gap is somewhere behind this block. -/
  | beside (b : Block) (gap : Gap)

namespace Forest

variable {f g : Forest} {id : Datum}

/-! ### Edits that are carried out -/

/-- A block at the end has no identifier in common with the program. -/
theorem eq_of_appended? {b : Block} (h : Snapshot.appended? b f = some g) :
    meets f [b] = false ∧ g = f ++ [b] := by
  unfold Snapshot.appended? at h
  split_ifs at h with hmeets
  cases h
  exact ⟨by simpa using hmeets, rfl⟩

theorem eq_of_erased? (h : Snapshot.erased? id f = some g) : g = erase id f := by
  unfold Snapshot.erased? at h
  split_ifs at h
  cases h
  rfl

/-- A further child has no identifier in common with the program, and is put into the block that is
found, which repeats. -/
theorem exists_of_nested? {child : Block} (h : Snapshot.nested? id child f = some g) :
    meets f [child] = false ∧ ∃ parent, find? id f = some parent ∧ parent.repeats ∧
      modify? id (fun _ => { parent with children := parent.children ++ [child] }) f = some g := by
  unfold Snapshot.nested? at h
  split_ifs at h with hmeets
  obtain ⟨parent, hfind, h⟩ := Option.bind_eq_some_iff.mp h
  obtain ⟨grown, hgrown, h⟩ := Option.bind_eq_some_iff.mp h
  unfold Block.withChild? at hgrown
  split_ifs at hgrown with hrepeats
  cases hgrown
  exact ⟨by simpa using hmeets, parent, hfind, hrepeats, h⟩

/-! ### Blocks that are not there -/

theorem hasId_with_children (id : Datum) (b : Block) (children : Forest) :
    Block.hasId id { b with children } = b.hasId id := rfl

theorem mk_eq (b : Block) : (⟨b.id, b.kind, b.params, b.children⟩ : Block) = b := by
  cases b
  rfl

theorem hasId_iff_find?_isSome : hasId id f ↔ (find? id f).isSome := by
  rw [hasId, find?, List.find?_isSome]
  simp

theorem not_hasId_iff_ids : ¬ hasId id f ↔ ∀ i ∈ ids f, ¬ i.sameValue id := by
  rw [hasId, ids, List.forall_mem_map, List.any_eq_true]
  exact not_exists.trans (forall_congr' fun _ => not_and)

theorem find?_eq_none_iff_ids : find? id f = none ↔ ∀ i ∈ ids f, ¬ i.sameValue id := by
  rw [← not_hasId_iff_ids, hasId_iff_find?_isSome, Option.not_isSome_iff_eq_none]

theorem erase_eq_self (h : ∀ b ∈ preorder f, ¬ b.hasId id) : erase id f = f := by
  induction f using induct with
  | nil => rfl
  | cons b rest ihb ihrest =>
    simp only [preorder_cons, List.forall_mem_cons, List.mem_append] at h
    obtain ⟨hid, hall⟩ := h
    have hchildren := ihb fun c hc => hall c (.inl hc)
    have hrest := ihrest fun c hc => hall c (.inr hc)
    rw [erase_cons, if_neg hid, hchildren, hrest, mk_eq]

theorem erase_eq_self_of_find? (h : find? id f = none) : erase id f = f :=
  erase_eq_self fun b hb => List.find?_eq_none.mp h b hb

/-- Where no block is found, no change is made. -/
theorem modifyM?_of_find?_eq_none {m : Type → Type} [Monad m] [LawfulMonad m]
    (h : find? id f = none) (change : Block → m Block) : modifyM? id change f = pure none := by
  induction f using induct with
  | nil => rfl
  | cons b rest ihb ihrest =>
    rw [find?_cons] at h
    split_ifs at h with hid
    obtain ⟨hchildren, hrest⟩ := Option.or_eq_none_iff.mp h
    rw [modifyM?_cons, if_neg hid, ihb hchildren, ihrest hrest]
    simp only [pure_bind, Option.map_none]

end Forest

namespace Gap

open Forest

variable {f g : Forest} {id : Datum} {b child : Block}

/-- The forest with another one in the gap. -/
def fill : Gap → Forest → Forest
  | here rest, g => g ++ rest
  | inside above gap rest, g => { above with children := gap.fill g } :: rest
  | beside b gap, g => b :: gap.fill g

/-- The identifiers that come before the gap in pre-order. -/
def passed : Gap → List Datum
  | here _ => []
  | inside above gap _ => above.id :: gap.passed
  | beside b gap => b.id :: (ids b.children ++ gap.passed)

/-- The identifiers that come after the gap in pre-order. -/
def ahead : Gap → List Datum
  | here rest => ids rest
  | inside _ gap rest => gap.ahead ++ ids rest
  | beside _ gap => gap.ahead

/-- Nothing of the identifier comes before the gap. -/
def Clear (id : Datum) (gap : Gap) : Prop := ∀ i ∈ gap.passed, ¬ i.sameValue id

theorem clear_here (rest : Forest) : (here rest).Clear id := List.forall_mem_nil _

theorem clear_inside_iff {above : Block} {gap : Gap} {rest : Forest} :
    (inside above gap rest).Clear id ↔ ¬ above.hasId id ∧ gap.Clear id := List.forall_mem_cons

theorem clear_beside_iff {c : Block} {gap : Gap} :
    (beside c gap).Clear id ↔ ¬ c.hasId id ∧ find? id c.children = none ∧ gap.Clear id := by
  rw [find?_eq_none_iff_ids]
  exact List.forall_mem_cons.trans (and_congr_right fun _ => List.forall_mem_append)

theorem ids_fill (gap : Gap) (g : Forest) :
    ids (gap.fill g) = gap.passed ++ ids g ++ gap.ahead := by
  induction gap with
  | here rest => simp [fill, passed, ahead, ids_append]
  | inside above gap rest ih => simp [fill, passed, ahead, ids_cons, ih]
  | beside b gap ih => simp [fill, passed, ahead, ids_cons, ih]

theorem ids_fill_nil (gap : Gap) : ids (gap.fill []) = gap.passed ++ gap.ahead := by
  rw [ids_fill]
  exact congrArg (· ++ gap.ahead) (List.append_nil _)

/-- What is put into the gap brings its own identifiers, and no others. -/
theorem ids_fill_perm (gap : Gap) (g : Forest) :
    (ids (gap.fill g)).Perm (ids g ++ ids (gap.fill [])) := by
  rw [ids_fill, ids_fill_nil, ← List.append_assoc]
  exact List.perm_append_comm.append_right _

theorem mem_ids_fill_iff {gap : Gap} {i : Datum} :
    i ∈ ids (gap.fill g) ↔ i ∈ ids g ∨ i ∈ ids (gap.fill []) := by
  rw [(gap.ids_fill_perm g).mem_iff, List.mem_append]

theorem clear_of_find?_fill_nil {gap : Gap} (h : find? id (gap.fill []) = none) :
    gap.Clear id := by
  rw [find?_eq_none_iff_ids, ids_fill_nil] at h
  exact (List.forall_mem_append.mp h).1

theorem size_fill (gap : Gap) (g : Forest) : size (gap.fill g) = size g + size (gap.fill []) := by
  simpa [ids, size] using (gap.ids_fill_perm g).length_eq

theorem fill_ne_nil (gap : Gap) (hg : g ≠ []) : gap.fill g ≠ [] := by
  cases gap with
  | here rest => exact List.append_ne_nil_of_left_ne_nil hg rest
  | inside above gap rest => exact List.cons_ne_nil _ _
  | beside b gap => exact List.cons_ne_nil _ _

/-- What is around the gap is there whatever is in it, and above a gap that is not empty no block
is without children. -/
theorem exists_of_mem_fill {gap : Gap} {g' : Forest} (hg' : g' ≠ []) {c : Block}
    (hc : c ∈ preorder (gap.fill g)) :
    c ∈ preorder g ∨ ∃ b ∈ preorder (gap.fill g'), c.id = b.id ∧ c.kind = b.kind ∧
      (c.children ≠ [] → b.children ≠ []) := by
  induction gap with
  | here rest =>
    rw [fill, preorder_append, List.mem_append] at hc
    exact hc.imp_right fun hc => ⟨c, by simp [fill, preorder_append, hc], rfl, rfl, id⟩
  | inside above gap rest ih =>
    simp only [fill, preorder_cons, List.mem_cons, List.mem_append] at hc
    rcases hc with rfl | hc | hc
    · refine .inr ⟨{ above with children := gap.fill g' }, by simp [fill], rfl, rfl, fun _ => ?_⟩
      exact gap.fill_ne_nil hg'
    · refine (ih hc).imp_right fun ⟨b, hb, hcb⟩ => ⟨b, by simp [fill, hb], hcb⟩
    · exact .inr ⟨c, by simp [fill, hc], rfl, rfl, id⟩
  | beside b gap ih =>
    simp only [fill, preorder_cons, List.mem_cons, List.mem_append] at hc
    rcases hc with rfl | hc | hc
    · exact .inr ⟨c, by simp [fill], rfl, rfl, id⟩
    · exact .inr ⟨c, by simp [fill, hc], rfl, rfl, id⟩
    · exact (ih hc).imp_right fun ⟨d, hd, hcd⟩ => ⟨d, by simp [fill, hd], hcd⟩

/-! ### Ways to have a gap -/

/-- The gap is at the end of the forest. -/
def atEnd : Forest → Gap
  | [] => here []
  | b :: rest => beside b (atEnd rest)

theorem fill_atEnd (f g : Forest) : (atEnd f).fill g = f ++ g := by
  induction f with
  | nil => exact List.append_nil g
  | cons b rest ih => exact congrArg (b :: ·) ih

/-- The gap is below a block that is put into the first gap. -/
def into (above : Block) (inner : Gap) : Gap → Gap
  | here rest => inside above inner rest
  | inside a gap rest => inside a (into above inner gap) rest
  | beside b gap => beside b (into above inner gap)

theorem fill_into (above : Block) (inner gap : Gap) (g : Forest) :
    (into above inner gap).fill g = gap.fill [{ above with children := inner.fill g }] := by
  induction gap with
  | here rest => rfl
  | inside a gap rest ih => simp only [into, fill, ih]
  | beside b gap ih => simp only [into, fill, ih]

/-- A block that is found stands in a gap before which nothing of its identifier comes. -/
theorem exists_of_find? (h : find? id f = some b) :
    ∃ gap : Gap, f = gap.fill [b] ∧ b.hasId id ∧ gap.Clear id := by
  induction f using induct with
  | nil => cases h
  | cons c rest ihc ihrest =>
    rw [find?_cons] at h
    split_ifs at h with hid
    · cases h
      exact ⟨here rest, rfl, hid, clear_here rest⟩
    · cases hc : find? id c.children with
      | some d =>
        rw [hc] at h
        cases h
        obtain ⟨gap, hfill, hb, hclear⟩ := ihc hc
        refine ⟨inside c gap rest, ?_, hb, clear_inside_iff.mpr ⟨hid, hclear⟩⟩
        rw [fill, ← hfill, mk_eq]
      | none =>
        rw [hc] at h
        obtain ⟨gap, hfill, hb, hclear⟩ := ihrest h
        exact ⟨beside c gap, congrArg (c :: ·) hfill, hb, clear_beside_iff.mpr ⟨hid, hc, hclear⟩⟩

/-! ### Edits -/

/-- What stands in the gap is found, if nothing of its identifier comes before. -/
theorem find?_fill {gap : Gap} (hclear : gap.Clear id) (hb : b.hasId id) :
    find? id (gap.fill [b]) = some b := by
  induction gap with
  | here rest => exact (find?_cons id b rest).trans (if_pos hb)
  | inside above gap rest ih =>
    obtain ⟨habove, hgap⟩ := clear_inside_iff.mp hclear
    rw [fill, find?_cons, hasId_with_children, if_neg habove, ih hgap]
    rfl
  | beside c gap ih =>
    obtain ⟨hc, hchildren, hgap⟩ := clear_beside_iff.mp hclear
    rw [fill, find?_cons, if_neg hc, hchildren]
    exact ih hgap

/-- **A change is made in the gap**, once, whatever else it does besides. -/
theorem modifyM?_fill {m : Type → Type} [Monad m] [LawfulMonad m] {gap : Gap}
    (hclear : gap.Clear id) (hb : b.hasId id) (change : Block → m Block) :
    modifyM? id change (gap.fill [b]) = do
      let c ← change b
      return some (gap.fill [c]) := by
  induction gap with
  | here rest =>
    rw [fill, List.singleton_append, modifyM?_cons, if_pos hb]
    simp only [bind_assoc, pure_bind]
    rfl
  | inside above gap rest ih =>
    obtain ⟨habove, hgap⟩ := clear_inside_iff.mp hclear
    rw [fill, modifyM?_cons, hasId_with_children, if_neg habove, ih hgap]
    simp only [bind_assoc, pure_bind, Option.map_some]
    rfl
  | beside c gap ih =>
    obtain ⟨hc, hchildren, hgap⟩ := clear_beside_iff.mp hclear
    rw [fill, modifyM?_cons, if_neg hc, modifyM?_of_find?_eq_none hchildren, ih hgap]
    simp only [bind_assoc, pure_bind, Option.map_none, Option.map_some]
    rfl

theorem modify?_fill {gap : Gap} (hclear : gap.Clear id) (hb : b.hasId id)
    (change : Block → Block) :
    modify? id change (gap.fill [b]) = some (gap.fill [change b]) :=
  modifyM?_fill (m := Id) hclear hb change

/-- A change that is made is a change of the block that is found. -/
theorem exists_of_modify? {change : Block → Block} (h : modify? id change f = some g) :
    ∃ (gap : Gap) (b : Block), find? id f = some b ∧ f = gap.fill [b] ∧ g = gap.fill [change b] := by
  cases hfind : find? id f with
  | none =>
    have hnone : modify? id change f = none := modifyM?_of_find?_eq_none (m := Id) hfind change
    rw [hnone] at h
    cases h
  | some b =>
    obtain ⟨gap, rfl, hb, hclear⟩ := exists_of_find? hfind
    rw [modify?_fill hclear hb] at h
    exact ⟨gap, b, rfl, rfl, (Option.some.inj h).symm⟩

/-- To take out what stands in the gap leaves the gap empty, if it is nowhere else. -/
theorem erase_fill {gap : Gap} (hempty : find? id (gap.fill []) = none) (hb : b.hasId id) :
    erase id (gap.fill [b]) = gap.fill [] := by
  induction gap with
  | here rest =>
    rw [fill, List.singleton_append, erase_cons, if_pos hb]
    exact erase_eq_self_of_find? hempty
  | inside above gap rest ih =>
    rw [fill, find?_cons, hasId_with_children] at hempty
    split_ifs at hempty with habove
    obtain ⟨hgap, hrest⟩ := Option.or_eq_none_iff.mp hempty
    rw [fill, erase_cons, hasId_with_children, if_neg habove, erase_eq_self_of_find? hrest, ih hgap]
    rfl
  | beside c gap ih =>
    rw [fill, find?_cons] at hempty
    split_ifs at hempty with hc
    obtain ⟨hchildren, hgap⟩ := Option.or_eq_none_iff.mp hempty
    rw [fill, erase_cons, if_neg hc, erase_eq_self_of_find? hchildren, mk_eq, ih hgap]
    rfl

/-- Where no identifier occurs twice, the identifier of a block is nowhere but in its gap. -/
theorem find?_fill_nil {gap : Gap} (hn : (ids (gap.fill [b])).Nodup)
    (ht : ∀ c ∈ preorder (gap.fill [b]), c.id.IsText) (hb : b.hasId id) :
    find? id (gap.fill []) = none := by
  have htext {i : Datum} (hi : i ∈ ids (gap.fill [b])) : i.IsText := by
    obtain ⟨c, hc, rfl⟩ := List.mem_map.mp hi
    exact ht c hc
  have hmem : b.id ∈ ids [b] := by simp [ids]
  have hid : id = b.id := (htext (mem_ids_fill_iff.mpr (.inl hmem))).sameValue_iff.mp hb
  rw [find?_eq_none_iff_ids]
  intro i hi hsame
  have hi' : id = i := (htext (mem_ids_fill_iff.mpr (.inr hi))).sameValue_iff.mp hsame
  rw [(gap.ids_fill_perm [b]).nodup_iff, List.nodup_append] at hn
  exact hn.2.2 b.id hmem i hi (hid.symm.trans hi')

/-- A block put in at the end fills a gap that was empty. -/
theorem exists_of_appended? (h : Snapshot.appended? b f = some g) :
    meets f [b] = false ∧ ∃ gap : Gap, f = gap.fill [] ∧ g = gap.fill [b] := by
  obtain ⟨hmeets, rfl⟩ := eq_of_appended? h
  refine ⟨hmeets, atEnd f, ?_, (fill_atEnd f [b]).symm⟩
  rw [fill_atEnd, List.append_nil]

/-- A further child fills a gap that was empty. -/
theorem exists_of_nested? (h : Snapshot.nested? id child f = some g) :
    meets f [child] = false ∧ ∃ gap : Gap, f = gap.fill [] ∧ g = gap.fill [child] := by
  obtain ⟨hmeets, parent, hfind, -, h⟩ := Forest.exists_of_nested? h
  obtain ⟨gap, rfl, hparent, hclear⟩ := exists_of_find? hfind
  rw [modify?_fill hclear hparent] at h
  refine ⟨hmeets, into parent (atEnd parent.children) gap, ?_, ?_⟩
  · rw [fill_into, fill_atEnd, List.append_nil, mk_eq]
  · rw [fill_into, fill_atEnd]
    exact (Option.some.inj h).symm

end Gap

namespace Forest

variable {f g : Forest} {id : Datum} {child : Block}

/-- There is a block to change just in case one is found. -/
theorem isSome_modify? (id : Datum) (change : Block → Block) (f : Forest) :
    (modify? id change f).isSome = (find? id f).isSome := by
  cases hfind : find? id f with
  | none => exact congrArg Option.isSome (modifyM?_of_find?_eq_none (m := Id) hfind change)
  | some b =>
    obtain ⟨gap, rfl, hb, hclear⟩ := Gap.exists_of_find? hfind
    rw [Gap.modify?_fill hclear hb]
    rfl

/-- A further child brings its own identifiers, and no others. -/
theorem ids_perm_of_nested? (h : Snapshot.nested? id child f = some g) :
    (ids g).Perm (ids f ++ ids [child]) := by
  obtain ⟨-, gap, rfl, rfl⟩ := Gap.exists_of_nested? h
  exact (gap.ids_fill_perm [child]).trans List.perm_append_comm

end Forest

end SpriteStage
