import SpriteStage.Proofs.Snapshot.Amend
import SpriteStage.Proofs.Snapshot.Removal

/-!
# Parameters put into a block

To change a block of a forest is to change the one that is found under its identifier: that one is
changed once, in its place, and no other, however often the identifier occurs
(`Forest.changes_what_is_found`). So the action that puts parameters into a block leaves all
identifiers, kinds and children in their places, and does nothing if there is no such block.
-/

namespace SpriteStage

namespace Action

variable {f : Forest} {id params address : Datum}

/-- Nothing is put into a block that is not there. -/
theorem rewrite?_updateParams_of_find?_eq_none (h : Forest.find? id f = none) :
    (updateParams id params address).rewrite? f = .ok none := by
  have hfault : (updateParams id params address).programFault? f = none :=
    congrArg (·.bind (Block.mergeFault? params)) h
  have hmodify : Forest.modify? id (Block.withParams params.fields) f = none :=
    Forest.modifyM?_of_find?_eq_none (m := Id) h _
  rw [rewrite?_of_none rfl hfault, hmodify]

/-- The parameters are put into the block that is found, unless the two cannot be merged. -/
theorem rewrite?_updateParams_fill {gap : Gap} {b : Block} (hclear : gap.Clear id)
    (hb : b.hasId id) :
    (updateParams id params address).rewrite? (gap.fill [b]) =
      match b.mergeFault? params with
      | some fault => .error fault
      | none => .ok (some (gap.fill [b.withParams params.fields])) := by
  have hfault : (updateParams id params address).programFault? (gap.fill [b]) =
      b.mergeFault? params :=
    congrArg (·.bind (Block.mergeFault? params)) (Gap.find?_fill hclear hb)
  cases hmerge : b.mergeFault? params with
  | some fault => exact rewrite?_of_fault (hfault.trans hmerge)
  | none => rw [rewrite?_of_none rfl (hfault.trans hmerge), Gap.modify?_fill hclear hb]

end Action

namespace Snapshot

variable {s : Snapshot} {id params address : Datum}

theorem attempt_updateParams_of_lacks (h : s.Lacks id address) (params : Datum) :
    s.attempt (.updateParams id params address) = .ok none := by
  cases ha : s.holder? (s.addressee address) with
  | none => exact attempt_of_nobody rfl ha
  | some a =>
    have hnone : Forest.find? id a.blocks = none := by
      rw [← Option.not_isSome_iff_eq_none, ← Forest.hasId_iff_find?_isSome]
      exact lacks_iff.mp h a ha
    rw [attempt_of_holder rfl ha, Action.rewrite?_updateParams_of_find?_eq_none hnone]
    rfl

theorem attempt_updateParams_fill {a : Actor} (ha : s.holder? (s.addressee address) = some a)
    {gap : Gap} {b : Block} (hblocks : a.blocks = gap.fill [b]) (hclear : gap.Clear id)
    (hb : b.hasId id) (params : Datum) :
    s.attempt (.updateParams id params address) =
      match b.mergeFault? params with
      | some fault => .error fault
      | none => .ok (some (s.amend (s.addressee address)
          (·.withProgram (gap.fill [b.withParams params.fields])))) := by
  rw [attempt_of_holder rfl ha, hblocks, Action.rewrite?_updateParams_fill hclear hb]
  cases b.mergeFault? params <;> rfl

/-- Who is there, and the shape of all programs, have nothing to do with parameters. -/
theorem shapes_after_updateParams (s : Snapshot) (id params address : Datum) :
    (s.after (.updateParams id params address)).actors.map
        (fun a => (a.id, Forest.shape a.blocks)) =
      s.actors.map fun a => (a.id, Forest.shape a.blocks) := by
  have hmatch : s.Match (fun a b => Forest.shape b.blocks = Forest.shape a.blocks)
      (s.after (.updateParams id params address)) :=
    after_of_after? (Match.refl (fun _ => by rfl) s) fun s' h => match_changeBlocks? (fun _ => rfl)
      (fun _ _ _ hf => Forest.shape_modify? (fun b => b.shape_with_params _) hf) h
  exact hmatch.map_eq fun a b hid hshape => Prod.ext hid hshape

end Snapshot

namespace Forest

/-- **What is found is what is changed.** A change is made just in case a block is found. If one is
found, it stands in a gap before which nothing of its identifier comes, and it is changed there:
the change is carried out once, for that block, whatever else it does besides, and everything around
the gap stays; if the block keeps its identifier, it is found again. If none is found, the change is
not carried out at all. So to put parameters into a block changes the parameters of the block that
is found, and no identifier, kind or place of any block; and nothing if the addressed actor is not
there or has no such block. -/
theorem changes_what_is_found (f : Forest) (id : Datum) :
    (∀ change : Block → Block, (modify? id change f).isSome = (find? id f).isSome) ∧
    (∀ b, find? id f = some b → ∃ gap : Gap, f = gap.fill [b] ∧ b.hasId id ∧ gap.Clear id ∧
      (∀ change : Block → Block, modify? id change f = some (gap.fill [change b]) ∧
        ((change b).id = b.id → find? id (gap.fill [change b]) = some (change b))) ∧
      ∀ (m : Type → Type) [Monad m] [LawfulMonad m] (change : Block → m Block),
        modifyM? id change f = do
          let c ← change b
          return some (gap.fill [c])) ∧
    (find? id f = none → ∀ (m : Type → Type) [Monad m] [LawfulMonad m] (change : Block → m Block),
      modifyM? id change f = pure none) ∧
    ∀ (s : Snapshot) (params address : Datum),
      (s.Lacks id address → s.attempt (.updateParams id params address) = .ok none) ∧
      (∀ a b, s.holder? (s.addressee address) = some a → find? id a.blocks = some b →
        ∃ gap : Gap, a.blocks = gap.fill [b] ∧ gap.Clear id ∧
          s.attempt (.updateParams id params address) =
            match b.mergeFault? params with
            | some fault => .error fault
            | none => .ok (some (s.amend (s.addressee address)
                (·.withProgram (gap.fill [b.withParams params.fields]))))) ∧
      (s.after (.updateParams id params address)).actors.map (fun a => (a.id, shape a.blocks)) =
        s.actors.map fun a => (a.id, shape a.blocks) := by
  refine ⟨fun change => isSome_modify? id change f, fun b hfind => ?_,
    fun hnone m _ _ change => modifyM?_of_find?_eq_none hnone change, fun s params address =>
      ⟨fun h => Snapshot.attempt_updateParams_of_lacks h params, fun a b ha hfind => ?_,
        s.shapes_after_updateParams id params address⟩⟩
  · obtain ⟨gap, rfl, hb, hclear⟩ := Gap.exists_of_find? hfind
    refine ⟨gap, rfl, hb, hclear, fun change => ⟨Gap.modify?_fill hclear hb change, fun hid => ?_⟩,
      fun m _ _ change => Gap.modifyM?_fill hclear hb change⟩
    have hkept : (change b).hasId id := (congrArg (·.sameValue id) hid).trans hb
    exact Gap.find?_fill hclear hkept
  · obtain ⟨gap, hblocks, hb, hclear⟩ := Gap.exists_of_find? hfind
    exact ⟨gap, hblocks, hclear, Snapshot.attempt_updateParams_fill ha hblocks hclear hb params⟩

/-- A move by so many steps. -/
def stride (steps : Int) : Block where
  id := .str "go"
  kind := .str "move"
  params := .object [("steps", .num (.int steps))]

/-- A repetition of two moves of one identifier, with a third one after it. -/
def strides (first : Int) : Forest :=
  [{ id := .str "round", kind := .str "repeat", children := [stride first, stride 2] }, stride 3]

/-- A stage with one actor that moves so. -/
def strider (first : Int) : Snapshot where
  actors := [{ id := .str "cat", name := .str "Cat", blocks := strides first }]
  activeActorId := .str "cat"

/-- Puts nine steps into a block, and counts. -/
def nineSteps (b : Block) : StateM Nat Block := do
  modify (· + 1)
  return b.withParams [("steps", .num (.int 9))]

/-- Of the three moves, the first is found and changed, and that is done once; a block that is not
there is not changed at all. -/
theorem strides_changed_once :
    let nine : Fields := [("steps", .num (.int 9))]
    find? (.str "go") (strides 1) = some (stride 1) ∧
      modify? (.str "go") (Block.withParams nine) (strides 1) = some (strides 9) ∧
      find? (.str "go") (strides 9) = some (stride 9) ∧
      (modifyM? (.str "go") nineSteps (strides 1)).run 0 = (some (strides 9), 1) ∧
      (modifyM? (.str "stop") nineSteps (strides 1)).run 0 = (none, 0) ∧
      (strider 1).attempt (.updateParams (.str "go") (.object nine) .null) =
        .ok (some (strider 9)) ∧
      (strider 1).attempt (.updateParams (.str "stop") (.object nine) .null) = .ok none := by
  intro nine
  have hfind : find? (.str "go") (strides 1) = some (stride 1) := rfl
  have hchanged := changes_what_is_found (strides 1)
  obtain ⟨gap, -, -, -, hchange, honce⟩ := (hchanged (.str "go")).2.1 _ hfind
  obtain ⟨hmodify, hagain⟩ := hchange (Block.withParams nine)
  have hfilled : gap.fill [stride 9] = strides 9 := Option.some.inj (hmodify.symm.trans rfl)
  have hmissing := (hchanged (.str "stop")).2.2.1 rfl (StateM Nat) nineSteps
  obtain ⟨-, hput, -⟩ := (hchanged (.str "go")).2.2.2 (strider 1) (.object nine) .null
  obtain ⟨hlacks, -⟩ := (hchanged (.str "stop")).2.2.2 (strider 1) (.object nine) .null
  refine ⟨hfind, hmodify.trans (congrArg some hfilled), hfilled ▸ hagain rfl, ?_, ?_, ?_, ?_⟩
  · rw [honce (StateM Nat) nineSteps, ← hfilled]
    rfl
  · rw [hmissing]
    rfl
  · obtain ⟨gap', hblocks, hclear, hattempt⟩ := hput _ _ rfl hfind
    have hmodify' := Gap.modify?_fill (b := stride 1) hclear rfl (Block.withParams nine)
    rw [← hblocks] at hmodify'
    have hfilled' : gap'.fill [stride 9] = strides 9 := Option.some.inj (hmodify'.symm.trans rfl)
    have hstrider : (strider 1).amend (.str "cat") (·.withProgram (gap'.fill [stride 9])) =
        strider 9 :=
      congrArg (fun f => (strider 1).amend (.str "cat") (·.withProgram f)) hfilled'
    exact hattempt.trans (congrArg (fun next => (Except.ok (some next) : Except Fault _)) hstrider)
  · exact hlacks (.inr ⟨_, rfl, nofun⟩)

end Forest

end SpriteStage
