import SpriteStage.Proofs.Forest.Sound

/-!
# Programs written out

A program is written out as the list of its blocks in pre-order, each without what is below it and
with the identifier of the block above it (`Forest.listing`). To put something in the place of one
block is, in this list, to put one segment in the place of another, and all else stays in its place
and below the block that it was below (`Forest.exists_listing_fill`).

To take an identifier out leaves no block of it behind, and what has no block of it is left as it
is. Where no identifier occurs twice, one segment is cut out: the block and what is below it.
-/

namespace SpriteStage

/-- A block as it stands in a written program: the identifier of the block above it, if there is
one, and the block itself without what is below it. -/
structure Line where
  above : Option Datum
  id : Datum
  kind : Datum
  params : Datum
  deriving Inhabited

mutual

/-- The block and all blocks below it as lines, each before its children. -/
def Block.listing (above : Option Datum) : Block → List Line
  | ⟨id, kind, params, children⟩ => ⟨above, id, kind, params⟩ :: Forest.listing (some id) children
termination_by structural b => b

/-- All blocks of the forest as lines, each before its children. -/
def Forest.listing (above : Option Datum) : List Block → List Line
  | [] => []
  | b :: rest => b.listing above ++ Forest.listing above rest
termination_by structural f => f

end

/-- The line of a block. -/
def Block.line (above : Option Datum) (b : Block) : Line := ⟨above, b.id, b.kind, b.params⟩

namespace Forest

variable {f : Forest} {b : Block} {id : Datum}

@[simp] theorem listing_nil (above : Option Datum) : listing above [] = [] := rfl

theorem listing_cons (above : Option Datum) (b : Block) (rest : Forest) :
    listing above (b :: rest) =
      b.line above :: (listing (some b.id) b.children ++ listing above rest) := by
  cases b; rfl

theorem listing_append (above : Option Datum) (f g : Forest) :
    listing above (f ++ g) = listing above f ++ listing above g := by
  induction f with
  | nil => rfl
  | cons b rest ih => simp [listing_cons, ih]

/-- The lines are those of the blocks in pre-order. -/
theorem map_listing (above : Option Datum) (f : Forest) :
    (listing above f).map (fun l => (l.id, l.kind, l.params)) =
      (preorder f).map fun b => (b.id, b.kind, b.params) := by
  induction f using induct generalizing above with
  | nil => rfl
  | cons b rest ihb ihrest => simp [listing_cons, Block.line, ihb, ihrest]

theorem length_listing (above : Option Datum) (f : Forest) : (listing above f).length = size f := by
  simpa [size] using congrArg List.length (map_listing above f)

/-- **One segment for another**: the lines of what is put into a gap stand together, below the same
block whatever it is, and all other lines stay. -/
theorem exists_listing_fill (gap : Gap) (above : Option Datum) :
    ∃ before after parent, ∀ g,
      listing above (gap.fill g) = before ++ listing parent g ++ after := by
  induction gap generalizing above with
  | here rest => exact ⟨[], listing above rest, above, fun g => listing_append above g rest⟩
  | inside c gap rest ih =>
    obtain ⟨before, after, parent, h⟩ := ih (some c.id)
    refine ⟨c.line above :: before, after ++ listing above rest, parent, fun g => ?_⟩
    rw [Gap.fill, listing_cons, h]
    simp [Block.line]
  | beside c gap ih =>
    obtain ⟨before, after, parent, h⟩ := ih above
    refine ⟨c.line above :: (listing (some c.id) c.children ++ before), after, parent, fun g => ?_⟩
    rw [Gap.fill, listing_cons, h]
    simp

/-! ### An identifier taken out -/

theorem hasId_cons (id : Datum) (b : Block) (rest : Forest) :
    hasId id (b :: rest) = (b.hasId id || hasId id b.children || hasId id rest) := by
  simp [hasId, Bool.or_assoc]

theorem size_cons (b : Block) (rest : Forest) :
    size (b :: rest) = size b.children + size rest + 1 := by
  simp [size]

theorem not_hasId_erase (id : Datum) (f : Forest) : ¬ hasId id (erase id f) := by
  induction f using induct with
  | nil => nofun
  | cons b rest ihb ihrest =>
    rw [erase_cons]
    split_ifs with hid
    · exact ihrest
    · rw [hasId_cons]
      have hb : ({ b with children := erase id b.children } : Block).hasId id = b.hasId id := rfl
      simp [hb, hid, ihb, ihrest]

theorem erase_of_not_hasId (h : ¬ hasId id f) : erase id f = f :=
  erase_eq_self fun b hb hid => h (List.any_eq_true.mpr ⟨b, hb, hid⟩)

/-- A forest from which an identifier is taken out is the same just in case it does not have it. -/
theorem erase_eq_self_iff : erase id f = f ↔ ¬ hasId id f :=
  ⟨fun h => h ▸ not_hasId_erase id f, erase_of_not_hasId⟩

theorem erase_erase (id : Datum) (f : Forest) : erase id (erase id f) = erase id f :=
  erase_of_not_hasId (not_hasId_erase id f)

theorem size_erase_le (id : Datum) (f : Forest) : size (erase id f) ≤ size f := by
  simpa [ids, size] using (ids_erase_sublist id f).length_le

/-- What has the identifier gets smaller. -/
theorem size_erase_lt (h : hasId id f) : size (erase id f) < size f := by
  induction f using induct with
  | nil => cases h
  | cons b rest ihb ihrest =>
    rw [erase_cons, size_cons]
    have hchildren := size_erase_le id b.children
    have hrest := size_erase_le id rest
    split_ifs with hid
    · omega
    · have hcons : size ({ b with children := erase id b.children } :: erase id rest) =
          size (erase id b.children) + size (erase id rest) + 1 := size_cons _ _
      rw [hasId_cons, Bool.or_eq_true, Bool.or_eq_true] at h
      obtain (h | h) | h := h
      · exact absurd h hid
      · have := ihb h
        omega
      · have := ihrest h
        omega

/-- **One segment cut out**: the lines of the block that is found, with what is below it. -/
theorem exists_listing_erase (ht : ∀ b ∈ preorder f, b.id.IsText) (hd : Distinct f)
    (hfind : find? id f = some b) : ∃ before after parent,
      listing none f = before ++ listing parent [b] ++ after ∧
      listing none (erase id f) = before ++ after := by
  obtain ⟨gap, rfl, hid, -⟩ := Gap.exists_of_find? hfind
  obtain ⟨before, after, parent, hlisting⟩ := exists_listing_fill gap none
  refine ⟨before, after, parent, hlisting [b], ?_⟩
  rw [Gap.erase_fill (Gap.find?_fill_nil ((distinct_iff_nodup ht).mp hd) ht hid) hid, hlisting []]
  simp

end Forest

end SpriteStage
