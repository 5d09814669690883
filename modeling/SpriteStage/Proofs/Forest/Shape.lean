import SpriteStage.Proofs.Forest.Gap

/-!
# The shape of a forest

The shape of a forest is what is left if all parameters are taken away: identifiers, kinds, and who
stands below whom. Turning moves and putting parameters into a block keep the shape, and so a block
that was taken from a forest before such changes is found again afterwards, with its new parameters
and in its old place.
-/

namespace SpriteStage

mutual

/-- The block without its parameters and those of the blocks below it. -/
def Block.shape : Block → Block
  | ⟨id, kind, _, children⟩ => ⟨id, kind, .null, Forest.shape children⟩
termination_by structural b => b

/-- The forest without parameters. -/
def Forest.shape : List Block → List Block
  | [] => []
  | b :: rest => b.shape :: Forest.shape rest
termination_by structural f => f

end

namespace Block

@[simp] theorem shape_id (b : Block) : b.shape.id = b.id := by cases b; rfl

@[simp] theorem shape_kind (b : Block) : b.shape.kind = b.kind := by cases b; rfl

@[simp] theorem shape_children (b : Block) : b.shape.children = Forest.shape b.children := by
  cases b; rfl

theorem shape_eq_iff {b c : Block} :
    b.shape = c.shape ↔
      b.id = c.id ∧ b.kind = c.kind ∧ Forest.shape b.children = Forest.shape c.children := by
  cases b; cases c
  simp [shape]

/-- Other parameters leave the shape as it is. -/
@[simp] theorem shape_with_params (b : Block) (params : Datum) :
    { b with params }.shape = b.shape := by cases b; rfl

end Block

namespace Forest

variable {f g : Forest}

@[simp] theorem shape_nil : shape [] = [] := rfl

@[simp] theorem shape_cons (b : Block) (rest : Forest) :
    shape (b :: rest) = b.shape :: shape rest := rfl

theorem shape_eq_map (f : Forest) : shape f = f.map Block.shape := by
  induction f with
  | nil => rfl
  | cons b rest ih => exact congrArg (b.shape :: ·) ih

theorem preorder_shape (f : Forest) : preorder (shape f) = (preorder f).map Block.shape := by
  induction f using induct with
  | nil => rfl
  | cons b rest ihb ihrest => simp [ihb, ihrest]

theorem shape_append (f g : Forest) : shape (f ++ g) = shape f ++ shape g := by
  rw [shape_eq_map, shape_eq_map, shape_eq_map, List.map_append]

theorem shape_replicate (n : Nat) (f : Forest) :
    shape (List.replicate n f).flatten = (List.replicate n (shape f)).flatten := by
  rw [shape_eq_map, shape_eq_map, List.map_flatten, List.map_replicate]

theorem shape_shape (f : Forest) : shape (shape f) = shape f := by
  induction f using induct with
  | nil => rfl
  | cons b rest ihb ihrest =>
    rw [shape_cons, shape_cons, ihrest]
    congr 1
    refine Block.shape_eq_iff.mpr ⟨b.shape_id, b.shape_kind, ?_⟩
    rw [Block.shape_children, ihb]

/-- To be named is a matter of the shape. -/
theorem named_shape_iff {f : Forest} : Named (shape f) ↔ Named f := by
  unfold Named
  rw [preorder_shape, List.forall_mem_map]
  refine forall₂_congr fun b _ => ⟨fun h => ?_, fun h => ?_⟩
  · exact ⟨b.shape_id ▸ h.id, b.shape_kind ▸ h.kind⟩
  · exact ⟨b.shape_id.symm ▸ h.id, b.shape_kind.symm ▸ h.kind⟩

theorem depth_shape (f : Forest) : depth (shape f) = depth f := by
  induction f using induct with
  | nil => rfl
  | cons b rest ihb ihrest =>
    rw [shape_cons, depth_cons, depth_cons, Block.shape_children, ihb, ihrest]

theorem ids_eq_of_shape_eq {f g : Forest} (h : shape f = shape g) : ids f = ids g := by
  have hp : (preorder f).map Block.shape = (preorder g).map Block.shape := by
    rw [← preorder_shape, ← preorder_shape, h]
  have hids := congrArg (List.map Block.id) hp
  simpa [ids, Function.comp_def] using hids

theorem distinct_of_shape_eq {f g : Forest} (h : shape f = shape g) (hd : Distinct f) :
    Distinct g := by
  unfold Distinct
  rw [← ids_eq_of_shape_eq h]
  exact hd

theorem shape_of_mem_of_shape_eq {f g : Forest} (h : shape f = shape g) {b : Block}
    (hb : b ∈ preorder f) : ∃ c ∈ preorder g, c.shape = b.shape := by
  have hm : b.shape ∈ (preorder g).map Block.shape := by
    rw [← preorder_shape, ← h, preorder_shape]
    exact List.mem_map_of_mem hb
  exact List.mem_map.mp hm

/-! ### Changes that keep the shape -/

theorem shape_rebuild {change : Block → Block} (h : ∀ b, (change b).shape = b.shape) (f : Forest) :
    shape (rebuild change f) = shape f := by
  induction f using induct with
  | nil => rfl
  | cons b rest ihb ihrest =>
    rw [rebuild_cons, shape_cons, shape_cons, h, ihrest]
    congr 1
    exact Block.shape_eq_iff.mpr ⟨rfl, rfl, ihb⟩

theorem shape_turnMoves (f : Forest) : shape (turnMoves f) = shape f :=
  shape_rebuild (fun b => b.shape_with_params _) f

/-- What has the same shape can stand in the same gap. -/
theorem shape_fill_congr (gap : Gap) (h : shape f = shape g) :
    shape (gap.fill f) = shape (gap.fill g) := by
  induction gap with
  | here rest => rw [Gap.fill, Gap.fill, shape_append, shape_append, h]
  | inside above gap rest ih =>
    rw [Gap.fill, Gap.fill, shape_cons, shape_cons]
    congr 1
    exact Block.shape_eq_iff.mpr ⟨rfl, rfl, ih⟩
  | beside b gap ih => rw [Gap.fill, Gap.fill, shape_cons, shape_cons, ih]

theorem shape_modify? {id : Datum} {change : Block → Block} (h : ∀ b, (change b).shape = b.shape)
    {f g : Forest} (hg : modify? id change f = some g) : shape g = shape f := by
  obtain ⟨gap, b, -, rfl, rfl⟩ := Gap.exists_of_modify? hg
  exact shape_fill_congr gap (congrArg ([·]) (h b))

/-! ### Finding a block again -/

/-- A block that is in the shape of a forest without two alike is found in the forest. -/
theorem exists_find?_of_shape {f : Forest} (hd : Distinct f) (ht : ∀ b ∈ preorder f, b.id.IsText)
    {b : Block} (hb : b.shape ∈ preorder (shape f)) :
    ∃ c, find? b.id f = some c ∧ c ∈ preorder f ∧ c.shape = b.shape := by
  rw [preorder_shape] at hb
  obtain ⟨c, hc, hcb⟩ := List.mem_map.mp hb
  refine ⟨c, ?_, hc, hcb⟩
  rw [← (Block.shape_eq_iff.mp hcb).1]
  exact hd.find?_self hc (ht c hc)

end Forest

end SpriteStage
