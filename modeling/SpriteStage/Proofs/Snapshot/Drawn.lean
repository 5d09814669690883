import SpriteStage.Catalog

/-!
# What is drawn

All that a new block has from the supply is its identifier; a new actor has its identifier, its
costume and the two random numbers that its place is made of. What is drawn is gone from the supply,
and nothing comes into it.
-/

namespace SpriteStage

/-- A random number is one that was laid down, or one half. -/
theorem Supply.random_spec (s : Supply) :
    s.random.1 ∈ .float 0.5 :: s.randoms ∧ s.random.2.randoms ⊆ s.randoms := by
  obtain ⟨drawn, given, choices, randoms⟩ := s
  cases randoms with
  | nil => exact ⟨List.mem_cons_self, List.Subset.refl _⟩
  | cons r rest =>
    exact ⟨List.mem_cons_of_mem _ List.mem_cons_self, List.subset_cons_self r rest⟩

theorem Supply.choose_randoms (s : Supply) (n : Nat) : (s.choose n).2.randoms = s.randoms := by
  obtain ⟨drawn, given, choices, randoms⟩ := s
  cases choices <;> rfl

/-- A new block without a given identifier. -/
theorem Block.create_cases {kind : Datum} {overrides : Fields} {supply supply' : Supply} {b : Block}
    (h : Block.create kind .null overrides supply = .ok (b, supply')) :
    ∃ (id : String) (k : BlockKind),
      b = {
        id := .str id
        kind := .str k.name
        params := .object (k.defaults.merge overrides) } ∧
      supply'.randoms = supply.randoms := by
  unfold Block.create at h
  cases hfault : Block.overrideFault? overrides with
  | some fault =>
    rw [hfault] at h
    cases h
  | none =>
    rw [hfault] at h
    obtain ⟨k, -, h⟩ := of_bind_eq_ok h
    cases h
    exact ⟨_, k, rfl, rfl⟩

/-- A new actor without a given costume. -/
theorem Actor.create_cases {ordinal : Datum} {supply supply' : Supply} {a : Actor}
    (h : Actor.create ordinal none supply = .ok (a, supply')) :
    ∃ id name costume x y, a = { inCostume id name costume with x, y } ∧
      (∃ r ∈ .float 0.5 :: supply.randoms, spread r = .ok x) ∧
      (∃ r ∈ .float 0.5 :: supply.randoms, spread r = .ok y) ∧
      supply'.randoms ⊆ supply.randoms := by
  unfold Actor.create at h
  obtain ⟨number, -, h⟩ := of_bind_eq_ok h
  obtain ⟨x, hx, h⟩ := of_bind_eq_ok h
  obtain ⟨y, hy, h⟩ := of_bind_eq_ok h
  cases h
  let named := (supply.choose Costume.all.length).2.drawActorId.2
  have hnamed : named.randoms = supply.randoms := supply.choose_randoms Costume.all.length
  obtain ⟨hfirst, honce⟩ := named.random_spec
  obtain ⟨hsecond, htwice⟩ := named.random.2.random_spec
  rw [hnamed] at hfirst honce
  have hsecond' : named.random.2.random.1 ∈ .float 0.5 :: supply.randoms :=
    List.cons_subset_cons _ honce hsecond
  exact ⟨_, _, _, x, y, rfl, ⟨_, hfirst, hx⟩, ⟨_, hsecond', hy⟩, List.Subset.trans htwice honce⟩

end SpriteStage
