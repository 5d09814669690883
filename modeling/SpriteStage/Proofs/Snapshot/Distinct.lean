import SpriteStage.Proofs.Forest.Distinct
import SpriteStage.Proofs.Snapshot.Change

/-!
# Identifiers that occur once in a program

An action that would put a block into a program that has one of its identifiers already is not
carried out (`Snapshot.after_of_meets`). That is all that is looked at: what is brought in is not
compared with itself, so an action that is carried out keeps programs free of double identifiers
just in case what it brings in is free of them (`Snapshot.distinctPrograms_after`).
-/

namespace SpriteStage

/-- In no program does an identifier occur twice. -/
def Snapshot.DistinctPrograms (s : Snapshot) : Prop := ∀ a ∈ s.actors, Forest.Distinct a.blocks

/-- The blocks that an action brings in. -/
def Action.brought : Action → Forest
  | .addBlock block _ | .addChild _ block _ => [block]
  | .addActor actor => actor.blocks
  | _ => []

namespace Snapshot

variable {s s' : Snapshot} {action : Action} {address : Datum}
  {change : Forest → Option Forest}

/-- What is changed is the program of the actor that the address means. -/
theorem exists_of_changeBlocks? (h : s.changeBlocks? address change = some s') :
    ∃ before a rest f, s.actors = before ++ a :: rest ∧
      s.holder? (s.addressee address) = some a ∧ change a.blocks = some f ∧
      s' = { s with actors := before ++ { a with blocks := f } :: rest } := by
  obtain ⟨actors, hactors, rfl⟩ := Option.map_eq_some_iff.mp h
  obtain ⟨before, a, rest, b, hs, hbefore, ha, hb, rfl⟩ := exists_of_changeFirst? hactors
  obtain ⟨f, hf, rfl⟩ := Option.map_eq_some_iff.mp hb
  have hfind : s.holder? (s.addressee address) = some a := by
    rw [holder?, hs, find?_append_cons hbefore ha]
  exact ⟨before, a, rest, f, hs, hfind, hf, rfl⟩

/-- The program of the actor that the address means does not stand in the way of the action. -/
theorem blocksFault?_eq_none {fault? : Forest → Option Fault} {a : Actor}
    (h : s.blocksFault? address fault? = none)
    (ha : s.holder? (s.addressee address) = some a) : fault? a.blocks = none := by
  rw [blocksFault?, ha] at h
  exact h

/-- A program that is changed by an action that is carried out has an identifier twice just in case
the action brings one in twice. -/
theorem distinct_iff_of_programChange? (hchange : action.programChange? = some (address, change))
    (hfault : s.fault? action = none) {a : Actor}
    (ha : s.holder? (s.addressee address) = some a) (hd : Forest.Distinct a.blocks) {f : Forest}
    (hf : change a.blocks = some f) : Forest.Distinct f ↔ Forest.Distinct action.brought := by
  have hnone : Forest.Distinct [] := .nil
  cases action with
  | addBlock block _ =>
    cases hchange
    exact Forest.distinct_appended_iff hd hf
  | removeBlock blockId _ =>
    cases hchange
    exact iff_of_true (Forest.distinct_erased hd hf) hnone
  | updateParams blockId params _ =>
    cases hchange
    have hshape := Forest.shape_modify? (fun b => b.shape_with_params _) hf
    exact iff_of_true (Forest.distinct_of_shape_eq hshape.symm hd) hnone
  | addChild parentId block _ =>
    cases hchange
    exact Forest.distinct_nested_iff hd (blocksFault?_eq_none hfault ha) hf
  | clearBlocks _ =>
    cases hchange
    cases hf
    exact iff_of_true hnone hnone
  | _ => cases hchange

theorem distinctPrograms_of_programChange? (hs : s.DistinctPrograms)
    (hchange : action.programChange? = some (address, change)) (hfault : s.fault? action = none)
    (h : s.changeBlocks? address change = some s') :
    s'.DistinctPrograms ↔ Forest.Distinct action.brought := by
  obtain ⟨before, a, rest, f, hactors, ha, hf, rfl⟩ := exists_of_changeBlocks? h
  have hd : Forest.Distinct a.blocks := hs a (by simp [hactors])
  rw [← distinct_iff_of_programChange? hchange hfault ha hd hf, DistinctPrograms]
  refine ⟨fun hs' => hs' { a with blocks := f } (by simp), fun hdf b hb => ?_⟩
  rcases List.mem_append.mp hb with hb | hb
  · exact hs b (by simp [hactors, hb])
  · rcases List.mem_cons.mp hb with rfl | hb
    · exact hdf
    · exact hs b (by simp [hactors, hb])

/-- What is not a change of a program lets no identifier into one. -/
theorem distinct_of_becomes (hchange : action.programChange? = none) {a b : Actor}
    (h : a.Becomes action b) (hd : Forest.Distinct a.blocks) : Forest.Distinct b.blocks := by
  cases h with
  | same => exact hd
  | rewritten h' _ => cases hchange.symm.trans h'
  | altered _ => exact (a.setAll_blocks _).symm ▸ hd
  | reset _ => exact hd
  | turned _ => exact Forest.distinct_of_shape_eq (Forest.shape_turnMoves a.blocks).symm hd

/-- After an action that is carried out, programs are free of double identifiers just in case what
it brings in is. -/
theorem distinctPrograms_of_attempt (hs : s.DistinctPrograms)
    (h : s.attempt action = .ok (some s')) :
    s'.DistinctPrograms ↔ Forest.Distinct action.brought := by
  have hafter : s.after action = s' := by rw [after, h]
  have hfault : s.fault? action = none := by
    cases hf : s.fault? action with
    | none => rfl
    | some fault => rw [attempt_of_fault hf] at h; cases h
  rw [attempt_of_none hfault] at h
  have hdone : s.after? action = some s' := Except.ok.inj h
  cases hchange : action.programChange? with
  | some target =>
    obtain ⟨address, change⟩ := target
    rw [after?_of_programChange? hchange] at hdone
    exact distinctPrograms_of_programChange? hs hchange hfault hdone
  | none =>
    have hstay (b : Actor) (hb : b ∈ s'.actors) :
        Forest.Distinct b.blocks ∨ action = .addActor b := by
      obtain ⟨a, ha, hab⟩ | hadd := exists_of_mem_after (hafter.symm ▸ hb)
      · exact .inl (distinct_of_becomes hchange hab (hs a ha))
      · exact .inr hadd
    cases action with
    | addActor actor =>
      have hmem : actor ∈ s'.actors := by
        simp only [after?, withActor?] at hdone
        split_ifs at hdone
        cases hdone
        simp
      refine ⟨fun hs' => hs' actor hmem, fun hd b hb => ?_⟩
      obtain hb | hadd := hstay b hb
      · exact hb
      · cases hadd
        exact hd
    | addBlock | removeBlock | updateParams | addChild | clearBlocks => cases hchange
    | _ =>
      refine iff_of_true (fun b hb => ?_) .nil
      obtain hb | hadd := hstay b hb
      · exact hb
      · cases hadd

/-- What would put a block into a program that has one of its identifiers already is not carried
out. -/
theorem after_of_meets (hchange : action.programChange? = some (address, change)) {a : Actor}
    (ha : s.holder? (s.addressee address) = some a)
    (hmeets : Forest.meets a.blocks action.brought) : s.after action = s := by
  refine after_of_after? (P := fun s' => s' = s) rfl fun s' h => ?_
  rw [after?_of_programChange? hchange] at h
  obtain ⟨_, c, _, f, -, hc, hf, -⟩ := exists_of_changeBlocks? h
  obtain rfl := Option.some.inj (ha.symm.trans hc)
  cases action with
  | addBlock block _ =>
    cases hchange
    have hmeets : Forest.meets a.blocks [block] := hmeets
    rw [appended?, if_pos hmeets] at hf
    cases hf
  | addChild parentId block _ =>
    cases hchange
    have hmeets : Forest.meets a.blocks [block] := hmeets
    rw [nested?, if_pos hmeets] at hf
    cases hf
  | removeBlock | updateParams | clearBlocks => cases hmeets
  | _ => cases hchange

/-- **Identifiers that occur once.** If in no program an identifier occurs twice, then this is so
after an action too, unless the action is carried out and brings in an identifier twice itself; and
an action that would bring in one that the program has already changes nothing. -/
theorem distinctPrograms_after (hs : s.DistinctPrograms) (action : Action) :
    ((s.after action).DistinctPrograms ↔
      ∀ s', s.attempt action = .ok (some s') → Forest.Distinct action.brought) ∧
    ∀ address change a, action.programChange? = some (address, change) →
      s.holder? (s.addressee address) = some a → Forest.meets a.blocks action.brought →
      s.after action = s := by
  refine ⟨?_, fun address change a hchange ha hmeets => after_of_meets hchange ha hmeets⟩
  by_cases hcarried : ∃ s', s.attempt action = .ok (some s')
  · obtain ⟨s', hs'⟩ := hcarried
    have hafter : s.after action = s' := by rw [after, hs']
    rw [hafter, distinctPrograms_of_attempt hs hs']
    exact ⟨fun h _ _ => h, fun h => h s' hs'⟩
  · have hafter : s.after action = s := by
      unfold after
      split
      · rename_i next hnext
        exact absurd ⟨next, hnext⟩ hcarried
      · rfl
    rw [hafter]
    exact iff_of_true hs fun s' hs' => absurd ⟨s', hs'⟩ hcarried

/-- A repetition of nothing yet. -/
def emptyLoop : Block where
  id := .str "loop"
  kind := .str "repeat"
  params := .object [("times", .num (.int 2))]

/-- A stage with one actor that has a repetition of nothing. -/
def idler : Snapshot where
  actors := [{ id := .str "cat", name := .str "Cat", blocks := [emptyLoop] }]
  activeActorId := .str "cat"

theorem idler_distinctPrograms : idler.DistinctPrograms := by
  intro a ha
  cases List.mem_singleton.mp ha
  unfold Forest.Distinct
  decide

/-- A block put into the repetition leaves identifiers distinct, and the repetition put into itself
changes nothing. -/
theorem idler_distinctPrograms_after :
    let block : Block := { id := .str "go", kind := .str "move" }
    idler.DistinctPrograms ∧
      (idler.after (.addChild (.str "loop") block .null)).DistinctPrograms ∧
      idler.after (.addChild (.str "loop") emptyLoop .null) = idler := by
  intro block
  have hchild := (distinctPrograms_after idler_distinctPrograms
    (.addChild (.str "loop") block .null)).1
  have hself := (distinctPrograms_after idler_distinctPrograms
    (.addChild (.str "loop") emptyLoop .null)).2
  have hbrought : Forest.Distinct [block] := by
    unfold Forest.Distinct
    decide
  exact ⟨idler_distinctPrograms, hchild.mpr fun _ _ => hbrought, hself _ _ _ rfl rfl (by decide)⟩

/-- A repetition of two blocks of the same identifier. -/
def twins : Block where
  id := .str "pair"
  kind := .str "repeat"
  params := .object [("times", .num (.int 2))]
  children :=
    [{ id := .str "twin", kind := .str "move" }, { id := .str "twin", kind := .str "move" }]

/-- Two blocks of the same identifier are let into a program in which no identifier occurs twice, if
they come in one piece. -/
theorem twins_let_in :
    idler.DistinctPrograms ∧ ¬ (idler.after (.addBlock twins .null)).DistinctPrograms := by
  refine ⟨idler_distinctPrograms, fun h => ?_⟩
  have hprogram : (idler.after (.addBlock twins .null)).actors.head?.map (·.blocks) =
      some [emptyLoop, twins] := rfl
  obtain ⟨a, ha, hblocks⟩ := Option.map_eq_some_iff.mp hprogram
  have hd : Forest.Distinct [emptyLoop, twins] := hblocks ▸ h a (List.mem_of_mem_head? ha)
  unfold Forest.Distinct at hd
  revert hd
  decide

end Snapshot

end SpriteStage
