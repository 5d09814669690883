import SpriteStage.Proofs.Forest.Gap
import SpriteStage.Proofs.Forest.Turn

/-!
# Parameters put in one after the other

To put one set of parameters into a block and then another is to put in the first overridden by the
second (`Block.overridden_overridden`). In a forest, two changes of one block are one change
(`Forest.changed_changed`), and changes of different blocks that leave identifiers and children out
of account can be made in either order, even if one of the blocks is below the other
(`Forest.changed_comm`).
-/

namespace SpriteStage

theorem Key.same_text_iff {key : Key} {s : String} : key.same (.text s) ↔ key = .text s := by
  cases key <;> simp [same, asNumber?]

namespace Fields

variable {f own p q : Fields} {key other : Key} {s t : String} {v w : Datum}

/-- All keys are texts. -/
def Lettered (fields : Fields) : Prop := ∀ key ∈ fields.map (·.1), ∃ s : String, key = .text s

theorem lettered_cons_iff {rest : Fields} :
    Lettered ((key, v) :: rest) ↔ (∃ s : String, key = .text s) ∧ Lettered rest :=
  List.forall_mem_cons

/-- All keys are texts, and none occurs twice. -/
structure Proper (fields : Fields) : Prop where
  lettered : Lettered fields
  distinct : (fields.map (·.1)).Nodup

theorem isSome_get?_put (h : (f.get? key).isSome) (other : Key) (w : Datum) :
    ((f.put other w).get? key).isSome := by
  induction f with
  | nil => cases h
  | cons field rest ih =>
    obtain ⟨k, u⟩ := field
    rw [get?] at h
    rw [put]
    split_ifs with hother <;> rw [get?] <;> split_ifs at h ⊢ with hkey
    · rfl
    · exact h
    · rfl
    · exact ih h

/-- A value under a key that is there can be put in before or after one under another key. -/
theorem put_comm (hs : (f.get? (.text s)).isSome) (hne : s ≠ t) :
    (f.put (.text t) w).put (.text s) v = (f.put (.text s) v).put (.text t) w := by
  induction f with
  | nil => cases hs
  | cons field rest ih =>
    obtain ⟨k, u⟩ := field
    rw [get?] at hs
    by_cases hkeys : k.same (.text s)
    · have hother : ¬ k.same (.text t) := by
        rw [Key.same_text_iff.mp hkeys]
        simpa using hne
      simp [put, hkeys, hother]
    · rw [if_neg hkeys] at hs
      by_cases hother : k.same (.text t) <;> simp [put, hkeys, hother, ih hs]

theorem put_merge (hs : (f.get? (.text s)).isSome) (hp : p.Lettered)
    (hnot : Key.text s ∉ p.map (·.1)) (v : Datum) :
    (f.merge p).put (.text s) v = (f.put (.text s) v).merge p := by
  induction p generalizing f with
  | nil => rfl
  | cons field rest ih =>
    obtain ⟨k, w⟩ := field
    obtain ⟨⟨t, rfl⟩, hrest⟩ := lettered_cons_iff.mp hp
    rw [List.map_cons, List.mem_cons, not_or, Key.text.injEq] at hnot
    obtain ⟨hne, hnot⟩ := hnot
    calc ((f.put (.text t) w).merge rest).put (.text s) v
      _ = ((f.put (.text t) w).put (.text s) v).merge rest :=
        ih (isSome_get?_put hs _ _) hrest hnot
      _ = ((f.put (.text s) v).put (.text t) w).merge rest := by rw [put_comm hs hne]

/-- To merge in what has got one more value is to merge it in and then put in the value. -/
theorem merge_put (hp : p.Proper) (own : Fields) (s : String) (v : Datum) :
    own.merge (p.put (.text s) v) = (own.merge p).put (.text s) v := by
  induction p generalizing own with
  | nil => rfl
  | cons field rest ih =>
    obtain ⟨k, w⟩ := field
    obtain ⟨hlettered, hdistinct⟩ := hp
    obtain ⟨-, hrest⟩ := lettered_cons_iff.mp hlettered
    rw [List.map_cons, List.nodup_cons] at hdistinct
    by_cases hk : k.same (.text s)
    · obtain rfl := Key.same_text_iff.mp hk
      have hthere : ((own.put (.text s) w).get? (.text s)).isSome := by
        rw [get?_put_self hk]
        rfl
      have hput : put (.text s) v ((.text s, w) :: rest) = (.text s, v) :: rest := if_pos hk
      calc own.merge (put (.text s) v ((.text s, w) :: rest))
        _ = ((own.put (.text s) w).put (.text s) v).merge rest := by rw [hput, put_put hk]; rfl
        _ = ((own.put (.text s) w).merge rest).put (.text s) v :=
          (put_merge hthere hrest hdistinct.1 v).symm
    · have hput : put (.text s) v ((k, w) :: rest) = (k, w) :: put (.text s) v rest := if_neg hk
      rw [hput]
      exact ih ⟨hrest, hdistinct.2⟩ (own.put k w)

theorem keys_put (key : Key) (v : Datum) (f : Fields) :
    (f.put key v).map (·.1) =
      if f.any (·.1.same key) then f.map (·.1) else f.map (·.1) ++ [key] := by
  induction f with
  | nil => rfl
  | cons field rest ih =>
    obtain ⟨k, u⟩ := field
    by_cases hk : k.same key
    · simp [put, hk]
    · simp only [put, hk, Bool.false_eq_true, if_false, List.map_cons, ih, List.any_cons,
        Bool.false_or]
      split_ifs <;> rfl

theorem Proper.put (hp : p.Proper) (s : String) (v : Datum) : (p.put (.text s) v).Proper := by
  have hkeys := keys_put (.text s) v p
  split_ifs at hkeys with hany
  · refine ⟨?_, hkeys ▸ hp.distinct⟩
    rw [Lettered, hkeys]
    exact hp.lettered
  · have hnew : Key.text s ∉ p.map (·.1) := by
      intro hmem
      obtain ⟨field, hfield, hkey⟩ := List.mem_map.mp hmem
      exact hany (List.any_eq_true.mpr ⟨field, hfield, Key.same_text_iff.mpr hkey⟩)
    refine ⟨?_, hkeys ▸ ?_⟩
    · rw [Lettered, hkeys, List.forall_mem_append, List.forall_mem_singleton]
      exact ⟨hp.lettered, s, rfl⟩
    · exact List.nodup_append.mpr ⟨hp.distinct, List.nodup_singleton _, fun a ha b hb heq =>
        hnew (List.mem_singleton.mp hb ▸ heq ▸ ha)⟩

/-- **Merged one after the other** is merged at once, the first overridden by the second. -/
theorem merge_merge (hp : p.Proper) (hq : q.Lettered) (own : Fields) :
    (own.merge p).merge q = own.merge (p.merge q) := by
  induction q generalizing p with
  | nil => rfl
  | cons field rest ih =>
    obtain ⟨k, v⟩ := field
    obtain ⟨⟨s, rfl⟩, hrest⟩ := lettered_cons_iff.mp hq
    calc ((own.merge p).put (.text s) v).merge rest
      _ = (own.merge (p.put (.text s) v)).merge rest := by rw [merge_put hp]
      _ = own.merge ((p.put (.text s) v).merge rest) := ih (hp.put s v) hrest

end Fields

namespace Block

/-- The block with these parameters put into its own, unless they cannot be merged. -/
def overridden (params : Datum) (b : Block) : Block :=
  if (b.mergeFault? params).isNone then b.withParams params.fields else b

/-- The change leaves the identifier and the children of a block out of account. -/
structure Superficial (change : Block → Block) : Prop where
  id : ∀ b, (change b).id = b.id
  children : ∀ b children, change { b with children } = { change b with children }

namespace Superficial

variable {change : Block → Block}

theorem children_eq (h : Superficial change) (b : Block) : (change b).children = b.children := by
  have hkept := h.children b b.children
  rw [Forest.mk_eq] at hkept
  exact (congrArg Block.children hkept).trans rfl

theorem hasId (h : Superficial change) (id : Datum) (b : Block) :
    (change b).hasId id = b.hasId id := congrArg (·.sameValue id) (h.id b)

end Superficial

theorem overridden_superficial (params : Datum) : Superficial (overridden params) := by
  refine ⟨fun b => ?_, fun b children => ?_⟩
  · unfold overridden
    split_ifs <;> rfl
  · unfold overridden
    simp only [show mergeFault? params { b with children } = b.mergeFault? params from rfl]
    split_ifs <;> rfl

theorem overridden_overridden {p q : Fields} (hp : p.Proper) (hq : q.Lettered) (b : Block) :
    (b.overridden (.object p)).overridden (.object q) = b.overridden (.object (p.merge q)) := by
  obtain ⟨id, kind, params, children⟩ := b
  cases params with
  | object own =>
    exact congrArg (fun fields => (⟨id, kind, .object fields, children⟩ : Block))
      (Fields.merge_merge hp hq own)
  | _ => rfl

end Block

namespace Forest

variable {f : Forest} {id i j : Datum} {change change' : Block → Block}

/-- The forest with its first block of an identifier changed, if it has one. -/
def changed (id : Datum) (change : Block → Block) (f : Forest) : Forest :=
  (modify? id change f).getD f

theorem changed_of_find?_eq_none (h : find? id f = none) (change : Block → Block) :
    changed id change f = f := by
  have hmodify : modify? id change f = none := modifyM?_of_find?_eq_none (m := Id) h change
  rw [changed, hmodify, Option.getD_none]

theorem changed_fill {gap : Gap} {b : Block} (hclear : gap.Clear id) (hb : b.hasId id)
    (change : Block → Block) : changed id change (gap.fill [b]) = gap.fill [change b] := by
  rw [changed, Gap.modify?_fill hclear hb, Option.getD_some]

/-- Two changes of one block are one. -/
theorem changed_changed (hchange : ∀ b, (change b).id = b.id) (id : Datum) (f : Forest) :
    changed id change' (changed id change f) = changed id (fun b => change' (change b)) f := by
  cases hfind : find? id f with
  | none => simp only [changed_of_find?_eq_none hfind]
  | some b =>
    obtain ⟨gap, rfl, hb, hclear⟩ := Gap.exists_of_find? hfind
    have hkept : (change b).hasId id := (congrArg (·.sameValue id) (hchange b)).trans hb
    rw [changed_fill hclear hb, changed_fill hclear hkept, changed_fill hclear hb]

theorem changed_cons (id : Datum) (change : Block → Block) (b : Block) (rest : Forest) :
    changed id change (b :: rest) =
      if b.hasId id then change b :: rest
      else if hasId id b.children then { b with children := changed id change b.children } :: rest
      else b :: changed id change rest := by
  rw [changed, modify?_cons]
  by_cases hid : b.hasId id
  · simp [hid]
  · have hfound : (modify? id change b.children).isSome = hasId id b.children := by
      rw [isSome_modify?, Bool.eq_iff_iff]
      exact hasId_iff_find?_isSome.symm
    cases hmodify : modify? id change b.children with
    | some g =>
      rw [hmodify] at hfound
      simp [hid, ← hfound, changed, hmodify]
    | none =>
      rw [hmodify] at hfound
      cases hrest : modify? id change rest <;> simp [hid, ← hfound, changed, hrest]

theorem ids_changed (hchange : Block.Superficial change) (id : Datum) (f : Forest) :
    ids (changed id change f) = ids f := by
  cases hfind : find? id f with
  | none => rw [changed_of_find?_eq_none hfind]
  | some b =>
    obtain ⟨gap, rfl, hb, hclear⟩ := Gap.exists_of_find? hfind
    rw [changed_fill hclear hb, Gap.ids_fill, Gap.ids_fill]
    simp [ids_cons, hchange.id, hchange.children_eq]

theorem hasId_changed (hchange : Block.Superficial change) (id i : Datum) (f : Forest) :
    hasId i (changed id change f) = hasId i f := by
  rw [Bool.eq_iff_iff, ← not_iff_not]
  simp only [not_hasId_iff_ids, ids_changed hchange]

/-- Changes of different blocks that leave identifiers and children out of account can be made in
either order. -/
theorem changed_comm (hchange : Block.Superficial change) (hchange' : Block.Superficial change')
    (hij : ∀ b ∈ preorder f, b.hasId i → ¬ b.hasId j) :
    changed j change' (changed i change f) = changed i change (changed j change' f) := by
  induction f using induct with
  | nil => rfl
  | cons b rest ihb ihrest =>
    rw [preorder_cons, List.forall_mem_cons, List.forall_mem_append] at hij
    obtain ⟨hb, hchildren, hrest⟩ := hij
    have hsame := ihb hchildren
    have hsame' := ihrest hrest
    by_cases hi : b.hasId i
    · have hj := hb hi
      by_cases hbelow : hasId j b.children <;>
        simp [changed_cons, hi, hj, hbelow, hchange.hasId, hchange.children_eq, hchange.children,
          hasId_with_children]
    · by_cases hj : b.hasId j
      · by_cases hbelow : hasId i b.children <;>
          simp [changed_cons, hi, hj, hbelow, hchange'.hasId, hchange'.children_eq,
            hchange'.children, hasId_with_children]
      · by_cases hbelow : hasId i b.children <;> by_cases hbelow' : hasId j b.children <;>
          simp [changed_cons, hi, hj, hbelow, hbelow', hasId_with_children, hsame, hsame',
            hasId_changed hchange, hasId_changed hchange']

end Forest

end SpriteStage
