import SpriteStage.Proofs.Forest.Gap
import SpriteStage.Proofs.Snapshot.Amend

/-!
# A block put in and taken out again

A block is put into a program, at its end or as the last child of a block that repeats, only if the
two have no identifier in common. So it is then the one that is found under its identifier, and to
take that out restores everything (`Snapshot.insertion_undone`).
-/

namespace SpriteStage

namespace Action

/-- The action puts the block into the program of the address: at the end, or below a block that
repeats. -/
inductive Inserts (b : Block) (address : Datum) : Action → Prop
  | atEnd : Inserts b address (.addBlock b address)
  | below (parentId : Datum) : Inserts b address (.addChild parentId b address)

/-- The program has no identifier in common with the block that the action puts in and, if that is
to be the child of another, what is found there repeats. -/
def Fits (f : Forest) : Action → Prop
  | addBlock block _ => Forest.meets f [block] = false
  | addChild parentId block _ =>
    Forest.meets f [block] = false ∧
      ∃ parent, Forest.find? parentId f = some parent ∧ parent.repeats
  | _ => False

namespace Inserts

variable {b : Block} {address : Datum} {action : Action} {f g : Forest}

theorem exists_programChange? (h : action.Inserts b address) :
    ∃ change, action.programChange? = some (address, change) := by
  cases h <;> exact ⟨_, rfl⟩

theorem programFault?_eq (h : action.Inserts b address) :
    action.programFault? = Snapshot.meetFault? b := by
  cases h <;> rfl

/-- A block that is put in fills a gap that was empty. -/
theorem exists_gap (h : action.Inserts b address) {change : Forest → Option Forest}
    (hchange : action.programChange? = some (address, change)) (hg : change f = some g) :
    Forest.meets f [b] = false ∧ ∃ gap : Gap, f = gap.fill [] ∧ g = gap.fill [b] := by
  cases h with
  | atEnd => cases hchange; exact Gap.exists_of_appended? hg
  | below parentId => cases hchange; exact Gap.exists_of_nested? hg

/-- A block can be put in just in case it fits. -/
theorem isSome_iff_fits (h : action.Inserts b address) {change : Forest → Option Forest}
    (hchange : action.programChange? = some (address, change)) :
    (change f).isSome ↔ action.Fits f := by
  cases h with
  | atEnd =>
    cases hchange
    unfold Snapshot.appended? Fits
    cases hmeets : Forest.meets f [b] <;> simp [hmeets]
  | below parentId =>
    cases hchange
    unfold Snapshot.nested? Fits
    cases hmeets : Forest.meets f [b] with
    | true => simp [hmeets]
    | false =>
      cases hfind : Forest.find? parentId f with
      | none => simp [hmeets, hfind]
      | some parent =>
        cases hrepeats : parent.repeats <;>
          simp [hmeets, hfind, Block.withChild?, hrepeats, Forest.isSome_modify?]

end Inserts

end Action

namespace Forest

/-- What has no identifier in common with a block has no block of its identifier. -/
theorem find?_eq_none_of_not_meets {f : Forest} {b : Block} (h : meets f [b] = false) :
    find? b.id f = none :=
  List.find?_eq_none.mpr fun _ hc => ne_of_not_meets h hc (by simp)

end Forest

theorem Gap.erased?_fill {gap : Gap} {b : Block} {id : Datum}
    (hempty : Forest.find? id (gap.fill []) = none) (hb : b.hasId id) :
    Snapshot.erased? id (gap.fill [b]) = some (gap.fill []) := by
  have hfound : Forest.hasId id (gap.fill [b]) := by
    rw [Forest.hasId_iff_find?_isSome, find?_fill (clear_of_find?_fill_nil hempty) hb]
    rfl
  rw [Snapshot.erased?, if_pos hfound, erase_fill hempty hb]

namespace Snapshot

variable {s s' : Snapshot} {action : Action} {address : Datum} {b : Block}

/-- The two programs differ in one block with all below it, which the second has and which is found
there under its identifier. -/
structure Grown (b : Block) (f g : Forest) : Prop where
  found : Forest.find? b.id g = some b
  size : Forest.size g = Forest.size f + Forest.size [b]
  erased : erased? b.id g = some f

theorem Grown.ne {f g : Forest} (h : Grown b f g) : g ≠ f := by
  intro heq
  have hsize := h.size
  rw [heq, Forest.size, Forest.size, Forest.preorder_cons, List.length_cons] at hsize
  omega

/-- The program has grown by a block that is put in. -/
theorem grown_of_inserts (h : action.Inserts b address) (hself : b.hasId b.id)
    {change : Forest → Option Forest} (hchange : action.programChange? = some (address, change))
    {f g : Forest} (hg : change f = some g) : Grown b f g := by
  obtain ⟨hmeets, gap, rfl, rfl⟩ := h.exists_gap hchange hg
  have hempty := Forest.find?_eq_none_of_not_meets hmeets
  refine ⟨Gap.find?_fill (Gap.clear_of_find?_fill_nil hempty) hself, ?_,
    Gap.erased?_fill hempty hself⟩
  rw [Gap.size_fill, Nat.add_comm]

/-- An action that puts a block in is carried out just in case the addressed actor is there, the
identifiers of its program and of the block can be looked up, and the block fits. -/
theorem exists_attempt_inserts_iff (h : action.Inserts b address) :
    (∃ s', s.attempt action = .ok (some s')) ↔
      ∃ a, s.holder? (s.addressee address) = some a ∧ meetFault? b a.blocks = none ∧
        action.Fits a.blocks := by
  obtain ⟨change, hchange⟩ := h.exists_programChange?
  cases ha : s.holder? (s.addressee address) with
  | none => simp [attempt_of_nobody hchange ha]
  | some a =>
    rw [attempt_of_holder hchange ha]
    simp only [Option.some.injEq, exists_eq_left']
    rw [← h.isSome_iff_fits hchange, ← h.programFault?_eq]
    cases hfault : action.programFault? a.blocks with
    | some fault => simp [Action.rewrite?_of_fault hfault, Except.map]
    | none =>
      rw [Action.rewrite?_of_none hchange hfault]
      cases change a.blocks <;> simp [Except.map]

/-- What is carried out makes the program of the addressed actor grow by the block. -/
theorem exists_grown_of_attempt (h : action.Inserts b address) (hself : b.hasId b.id)
    (hs' : s.attempt action = .ok (some s')) :
    ∃ a g, s.holder? (s.addressee address) = some a ∧ Grown b a.blocks g ∧
      s' = s.amend (s.addressee address) (·.withProgram g) := by
  obtain ⟨change, hchange⟩ := h.exists_programChange?
  obtain ⟨a, ha, hfault, hfits⟩ := (exists_attempt_inserts_iff h).mp ⟨s', hs'⟩
  rw [← h.isSome_iff_fits hchange] at hfits
  obtain ⟨g, hg⟩ := Option.isSome_iff_exists.mp hfits
  rw [attempt_of_holder hchange ha,
    Action.rewrite?_of_none hchange (h.programFault?_eq ▸ hfault), hg] at hs'
  cases hs'
  exact ⟨a, g, ha, grown_of_inserts h hself hchange hg, rfl⟩

theorem holder?_amend_withProgram {i : Datum} {a : Actor} (ha : s.holder? i = some a) (g : Forest) :
    (s.amend i (·.withProgram g)).holder? i = some (a.withProgram g) := by
  rw [holder?_amend (g := (·.withProgram g)) (·.withProgram_id g), ha]
  rfl

/-- To take out the block by which a program has grown restores the snapshot. -/
theorem attempt_removeBlock_of_grown {a : Actor} (ha : s.holder? (s.addressee address) = some a)
    {g : Forest} (hg : Grown b a.blocks g) :
    (s.amend (s.addressee address) (·.withProgram g)).attempt (.removeBlock b.id address) =
      .ok (some s) := by
  have hrestored : (s.amend (s.addressee address) (·.withProgram g)).amend (s.addressee address)
      (·.withProgram a.blocks) = s := by
    rw [amend_amend (g := (·.withProgram g)) (·.withProgram_id g)]
    refine amend_eq_self fun c hc => ?_
    cases ha.symm.trans hc
    rfl
  have herased : erased? b.id (a.withProgram g).blocks = some a.blocks := hg.erased
  rw [attempt_of_holder rfl (holder?_amend_withProgram ha g), Action.rewrite?_of_none rfl rfl,
    herased]
  exact congrArg (fun next => (Except.ok (some next) : Except Fault _)) hrestored

/-- **What is put in can be taken out again.** An action that puts a block in is carried out just in
case the addressed actor is there, identifiers can be looked up, and the block fits. Then something
has changed: the block is found in the program of the actor, which has grown by as many blocks as
are in it; and to take it out, under the same address, restores the snapshot as it was. If the
action is not carried out, nothing has changed. (The identifier of the block is equal to itself, as
all data is in which there is no double that is no number.) -/
theorem insertion_undone (h : action.Inserts b address) (hself : b.hasId b.id) (s : Snapshot) :
    ((∃ s', s.attempt action = .ok (some s')) ↔
      ∃ a, s.holder? (s.addressee address) = some a ∧ meetFault? b a.blocks = none ∧
        action.Fits a.blocks) ∧
    (∀ s', s.attempt action = .ok (some s') → s.after action = s' ∧ s' ≠ s ∧
      (∃ a a', s.holder? (s.addressee address) = some a ∧
        s'.holder? (s'.addressee address) = some a' ∧ Forest.find? b.id a'.blocks = some b ∧
        Forest.size a'.blocks = Forest.size a.blocks + Forest.size [b]) ∧
      s'.attempt (.removeBlock b.id address) = .ok (some s)) ∧
    ((¬ ∃ s', s.attempt action = .ok (some s')) → s.after action = s) := by
  refine ⟨exists_attempt_inserts_iff h, fun s' hs' => ?_, fun hnot => ?_⟩
  · obtain ⟨a, g, ha, hg, rfl⟩ := exists_grown_of_attempt h hself hs'
    have ha' := holder?_amend_withProgram ha g
    refine ⟨by rw [after, hs'], fun heq => hg.ne ?_, ⟨a, _, ha, ha', hg.found, hg.size⟩,
      attempt_removeBlock_of_grown ha hg⟩
    rw [heq] at ha'
    exact congrArg Actor.blocks (Option.some.inj (ha'.symm.trans ha))
  · unfold after
    split
    · rename_i next hnext
      exact absurd ⟨next, hnext⟩ hnot
    · rfl

/-- A repetition inside of a repetition, with two blocks of one identifier. -/
def nest : Snapshot :=
  let spin : Block := { id := .str "spin", kind := .str "turn" }
  { actors := [{ id := .str "owl", name := .str "Owl", blocks :=
      [{ id := .str "outer", kind := .str "repeat", children :=
          [spin, { id := .str "inner", kind := .str "repeat", children := [spin] }] }] }]
    activeActorId := .str "owl" }

/-- An egg in a shell. -/
def egg : Block where
  id := .str "shell"
  kind := .str "repeat"
  children := [{ id := .str "egg", kind := .str "say" }]

/-- Into the inner repetition the egg can be put, and is taken out of it again; into a block that
does not repeat it cannot be put. -/
theorem nest_egg_undone :
    (Action.addChild (.str "inner") egg .null).Inserts egg .null ∧ egg.hasId egg.id ∧
      (∃ s', nest.attempt (.addChild (.str "inner") egg .null) = .ok (some s') ∧ s' ≠ nest ∧
        s'.attempt (.removeBlock (.str "shell") .null) = .ok (some nest)) ∧
      nest.after (.addChild (.str "spin") egg .null) = nest := by
  have hputs (parentId : Datum) : (Action.addChild parentId egg .null).Inserts egg .null :=
    .below parentId
  have hinner := insertion_undone (hputs (.str "inner")) rfl nest
  have hspin := insertion_undone (hputs (.str "spin")) rfl nest
  obtain ⟨s', hs'⟩ := hinner.1.mpr ⟨_, rfl, rfl, rfl, _, rfl, rfl⟩
  obtain ⟨-, hne, -, hundone⟩ := hinner.2.1 s' hs'
  refine ⟨hputs _, rfl, ⟨s', hs', hne, hundone⟩, hspin.2.2 fun hdone => ?_⟩
  obtain ⟨a, ha, -, -, parent, hparent, hrepeats⟩ := hspin.1.mp hdone
  cases ha
  cases hparent
  cases hrepeats

end Snapshot

end SpriteStage
