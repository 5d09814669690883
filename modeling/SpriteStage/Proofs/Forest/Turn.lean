import SpriteStage.Proofs.Forest.Shape
import SpriteStage.Proofs.Number.Sign

/-!
# Turning moves

To turn the moves of a forest rebuilds every block in its place, with the sign of its steps turned
if it moves its actor. What is turned is decided by identifiers and kinds, which stay as they are;
so to turn the moves a second time turns the same blocks, and gives the forest back
(`Forest.turnMoves_turnMoves`).
-/

namespace SpriteStage

/-! ### Fields -/

namespace Fields

variable {key : Key} {fields : Fields} {v w : Datum}

theorem get?_put_self (hkey : key.same key) (fields : Fields) (v : Datum) :
    (fields.put key v).get? key = some v := by
  induction fields with
  | nil => simp [put, get?, hkey]
  | cons field rest ih =>
    obtain ⟨k, u⟩ := field
    by_cases hk : k.same key
    · simp [put, get?, hk]
    · simp [put, get?, hk, ih]

theorem put_put (hkey : key.same key) (fields : Fields) (v w : Datum) :
    (fields.put key v).put key w = fields.put key w := by
  induction fields with
  | nil => simp [put, hkey]
  | cons field rest ih =>
    obtain ⟨k, u⟩ := field
    by_cases hk : k.same key
    · simp [put, hk]
    · simp [put, hk, ih]

theorem put_of_get? (h : fields.get? key = some v) : fields.put key v = fields := by
  induction fields with
  | nil => cases h
  | cons field rest ih =>
    obtain ⟨k, u⟩ := field
    by_cases hk : k.same key
    · simp only [get?, hk, if_true, Option.some.injEq] at h
      simp [put, hk, h]
    · simp only [get?, hk] at h
      simp [put, hk, ih h]

theorem turn_of_num {n : Number} (h : fields.get? key = some (.num n)) :
    fields.turn key = fields.put key (.num n.neg) := by
  simp [turn, h]

theorem turn_of_not_num (h : ∀ n, fields.get? key ≠ some (.num n)) : fields.turn key = fields := by
  unfold turn
  split
  · rename_i n hget
    exact absurd hget (h n)
  · rfl

theorem turn_turn (hkey : key.same key) (fields : Fields) :
    (fields.turn key).turn key = fields := by
  by_cases h : ∃ n, fields.get? key = some (.num n)
  · obtain ⟨n, hget⟩ := h
    have hturned : (fields.turn key).get? key = some (.num n.neg) := by
      rw [turn_of_num hget]
      exact get?_put_self hkey fields _
    rw [turn_of_num hturned, turn_of_num hget, put_put hkey, Number.neg_neg, put_of_get? hget]
  · have hnone : ∀ n, fields.get? key ≠ some (.num n) := not_exists.mp h
    rw [turn_of_not_num hnone, turn_of_not_num hnone]

end Fields

/-! ### Rebuilding -/

namespace Forest

variable {change change' : Block → Block} {f g : Forest}

theorem preorder_rebuild (h : ∀ b, (change b).children = b.children) (f : Forest) :
    preorder (rebuild change f) =
      (preorder f).map fun b => change { b with children := rebuild change b.children } := by
  induction f using induct with
  | nil => rfl
  | cons b rest ihb ihrest => simp [h, ihb, ihrest]

/-- A change that keeps identifiers and children does not hinder finding. -/
theorem find?_rebuild (hid : ∀ b, (change b).id = b.id)
    (h : ∀ b, (change b).children = b.children) (id : Datum) (f : Forest) :
    find? id (rebuild change f) =
      (find? id f).map fun b => change { b with children := rebuild change b.children } := by
  unfold find?
  rw [preorder_rebuild h, List.find?_map]
  simp [Function.comp_def, Block.hasId, hid]

/-- One change undoes the other in the whole forest if it does so block by block, and both have
nothing to do with the children. -/
theorem rebuild_rebuild (hc : ∀ b children, change { b with children } = { change b with children })
    (hc' : ∀ b children, change' { b with children } = { change' b with children })
    (h : ∀ b ∈ preorder f, change (change' b) = b) : rebuild change (rebuild change' f) = f := by
  induction f using induct with
  | nil => rfl
  | cons b rest ihb ihrest =>
    have hb : change (change' b) = b := h b (by simp)
    have hchildren := ihb fun c hmem => h c (by simp [hmem])
    have hrest := ihrest fun c hmem => h c (by simp [hmem])
    rw [rebuild_cons, rebuild_cons, hrest, hc']
    simp only [hchildren, hc, hb]
    cases b
    rfl

end Forest

/-! ### Moves -/

namespace Block

@[simp] theorem turnIf_id (b : Block) (wanted : Bool) : (b.turnIf wanted).id = b.id := rfl

@[simp] theorem turnIf_children (b : Block) (wanted : Bool) :
    (b.turnIf wanted).children = b.children := rfl

theorem turnIf_params {b : Block} {fields : Fields} (h : b.params = .object fields) :
    (b.turnIf true).params = .object (Fields.turn "steps" fields) := by
  have hentries : b.entries = fields := by rw [entries, h]; rfl
  rw [turnIf, if_pos rfl, hentries]

theorem turnIf_turnIf {b : Block} (h : ∃ fields, b.params = .object fields) (wanted : Bool) :
    (b.turnIf wanted).turnIf wanted = b := by
  obtain ⟨fields, hfields⟩ := h
  obtain ⟨id, kind, params, children⟩ := b
  obtain rfl : params = .object fields := hfields
  cases wanted with
  | false => rfl
  | true =>
    have hturn : Fields.turn "steps" (Fields.turn "steps" fields) = fields :=
      Fields.turn_turn (by simp) fields
    show Block.mk id kind (.object (Fields.turn "steps" (Fields.turn "steps" fields))) children = _
    rw [hturn]

end Block

namespace Forest

variable {f g : Forest}

/-- The moves of the block are turned with those of the forest: it moves its actor, or has the
identifier of a block that does. -/
def turns (f : Forest) (b : Block) : Bool := b.moves || (movers f).any (·.hasId b.id)

theorem turnMoves_eq (f : Forest) : turnMoves f = rebuild (fun b => b.turnIf (turns f b)) f := rfl

/-- Whether a block is turned is a matter of the shape. -/
theorem turns_congr (h : shape f = shape g) : turns f = turns g := by
  have hmovers (f : Forest) (id : Datum) : (movers f).any (·.hasId id) =
      (preorder (shape f)).any fun b => b.moves && b.hasId id := by
    rw [preorder_shape, movers, List.any_filter, List.any_map]
    simp [Function.comp_def, Block.moves, Block.hasKind, Block.hasId]
  funext b
  rw [turns, turns, hmovers, hmovers, h]

/-- **To turn the moves twice changes nothing**, if parameters are objects. -/
theorem turnMoves_turnMoves (h : ∀ b ∈ preorder f, ∃ fields, b.params = .object fields) :
    turnMoves (turnMoves f) = f := by
  rw [turnMoves_eq (turnMoves f), turns_congr (shape_turnMoves f), turnMoves_eq]
  exact rebuild_rebuild (fun _ _ => rfl) (fun _ _ => rfl) fun b hb => b.turnIf_turnIf (h b hb) _

/-- What is found after the moves were turned is what was found before, turned if it is to be. -/
theorem find?_turnMoves (id : Datum) (f : Forest) :
    find? id (turnMoves f) =
      (find? id f).map fun b =>
        { b with children := rebuild (fun b => b.turnIf (turns f b)) b.children }.turnIf
          (turns f b) := by
  exact find?_rebuild (fun b => b.turnIf_id (turns f b)) (fun b => b.turnIf_children _) id f

end Forest

end SpriteStage
