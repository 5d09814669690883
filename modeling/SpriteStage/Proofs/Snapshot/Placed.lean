import SpriteStage.Collision
import SpriteStage.Proofs.Snapshot.Typed

/-!
# Placed actors

An actor is placed if it is typed and its place and width are doubles. Where all actors are placed,
whoever looks for collisions finds out whether there is one (`exists_firstCollision?`), and the
moves of any two can be turned (`Snapshot.Placed.fault?_swapMoves`). Every action leaves actors
placed, as long as those that it brings in are placed and it gives doubles for places and widths
(`Snapshot.Placed.after`).
-/

namespace SpriteStage

/-- The data is a double. -/
def Datum.IsDouble (d : Datum) : Prop := ∃ x, d = .float x

/-- The attributes that tell where an actor is and how far it reaches. -/
def Attribute.measures : List Attribute := [.x, .y, .width]

theorem Attribute.mem_measures_iff {which : Attribute} :
    which ∈ measures ↔ which = .x ∨ which = .y ∨ which = .width := by
  simp [measures]

namespace Actor

/-- The actor is typed, and its place and width are doubles. -/
structure Placed (a : Actor) : Prop extends a.Typed where
  measures : ∀ which ∈ Attribute.measures, (a.get which).IsDouble

variable {a b : Actor}

theorem Placed.x (ha : a.Placed) : ∃ x, a.x = .float x := ha.measures .x (by decide)

theorem Placed.y (ha : a.Placed) : ∃ y, a.y = .float y := ha.measures .y (by decide)

theorem Placed.width (ha : a.Placed) : ∃ width, a.width = .float width :=
  ha.measures .width (by decide)

theorem Placed.with_blocks (ha : a.Placed) {f : Forest} (hf : Forest.Typed f) :
    Placed { a with blocks := f } := ⟨⟨ha.id, hf⟩, fun which hwhich => by
  have hsame : Actor.get { a with blocks := f } which = a.get which := by cases which <;> rfl
  exact hsame ▸ ha.measures which hwhich⟩

/-- These changes give doubles for places and widths. -/
def Measured (changes : List (Attribute × Datum)) : Prop :=
  ∀ change ∈ changes, change.1 ∈ Attribute.measures → change.2.IsDouble

theorem Placed.setAll (ha : a.Placed) {changes : List (Attribute × Datum)}
    (h : Measured changes) : (a.setAll changes).Placed := by
  induction changes generalizing a with
  | nil => exact ha
  | cons change rest ih =>
    obtain ⟨which, value⟩ := change
    have hset : (a.set which value).Placed := by
      refine ⟨⟨(a.set_id which value).symm ▸ ha.id, (a.set_blocks which value).symm ▸ ha.blocks⟩,
        fun other hother => ?_⟩
      rw [get_set]
      split_ifs with heq
      · exact h _ List.mem_cons_self (heq ▸ hother)
      · exact ha.measures other hother
    exact ih hset fun change hmem => h change (List.mem_cons_of_mem _ hmem)

theorem Placed.reset (ha : a.Placed) {x y : Datum} (hx : x.IsDouble) (hy : y.IsDouble)
    (direction : Datum) : Placed { a with x, y, direction, message := .null } := by
  refine ⟨⟨ha.id, ha.blocks⟩, fun which hwhich => ?_⟩
  rcases Attribute.mem_measures_iff.mp hwhich with rfl | rfl | rfl
  · exact hx
  · exact hy
  · exact ha.width

/-- Of two placed actors it can be said whether they overlap. -/
theorem Placed.exists_overlaps (ha : a.Placed) (hb : b.Placed) :
    ∃ overlap, a.overlaps b = .ok overlap := by
  obtain ⟨x, hx⟩ := ha.x
  obtain ⟨y, hy⟩ := ha.y
  obtain ⟨width, hwidth⟩ := ha.width
  obtain ⟨x', hx'⟩ := hb.x
  obtain ⟨y', hy'⟩ := hb.y
  obtain ⟨width', hwidth'⟩ := hb.width
  refine ⟨Double.hypot (x - x') (y - y') < (width + width') / 2.0, ?_⟩
  rw [overlaps, distance, hx, hy, hwidth, hx', hy', hwidth']
  rfl

end Actor

/-- All actors are placed. -/
def Snapshot.Placed (s : Snapshot) : Prop := ∀ a ∈ s.actors, a.Placed

/-- What the action brings in is placed, and it gives actors only doubles for places and widths. -/
def Action.Placing : Action → Prop
  | .addBlock block _ | .addChild _ block _ => Forest.Typed [block]
  | .addActor actor => actor.Placed
  | .updateActor _ changes => Actor.Measured (Snapshot.attributeChanges changes.fields)
  | .resetActors x y _ => x.IsDouble ∧ y.IsDouble
  | _ => True

namespace Action.Placing

variable {action : Action}

theorem typing (ha : action.Placing) : action.Typing := by
  cases action with
  | addBlock | addChild => exact ha
  | addActor => exact ha.toTyped
  | _ => trivial

theorem becomes (ha : action.Placing) {a b : Actor} (h : a.Becomes action b) (hp : a.Placed) :
    b.Placed := by
  cases h with
  | same => exact hp
  | rewritten hchange hf =>
    exact hp.with_blocks (ha.typing.brings.rewritten Block.own_typed hchange hp.blocks hf)
  | altered h =>
    subst h
    exact hp.setAll ha
  | reset h =>
    subst h
    exact hp.reset ha.1 ha.2 _
  | turned _ => exact hp.with_blocks hp.blocks.turnMoves

end Action.Placing

namespace Snapshot.Placed

variable {s : Snapshot}

/-- **Every action leaves actors placed**, if it gives doubles for places and widths. -/
theorem after (hs : s.Placed) {action : Action} (ha : action.Placing) :
    (s.after action).Placed := by
  intro b hb
  obtain ⟨a, hmem, hbecomes⟩ | rfl := exists_of_mem_after hb
  · exact ha.becomes hbecomes (hs a hmem)
  · exact ha

theorem fault?_swapMoves (hs : s.Placed) {a b : Actor} (ha : a ∈ s.actors) (hb : b ∈ s.actors) :
    s.fault? (.swapMoves a.id b.id) = none :=
  Snapshot.swapFault?_eq_none (fun c hc => (hs c hc).toTyped) (hs a ha).id (hs b hb).id

end Snapshot.Placed

/-! ### Looking for collisions -/

theorem exists_firstPartner? (handled : List Pair) {a : Actor} (ha : a.Placed) {l : List Actor}
    (hl : ∀ b ∈ l, b.Placed) : ∃ partner, firstPartner? handled a l = .ok partner := by
  induction l with
  | nil => exact ⟨none, rfl⟩
  | cons b rest ih =>
    obtain ⟨partner, hpartner⟩ := ih fun c hc => hl c (List.mem_cons_of_mem _ hc)
    have hb := hl b List.mem_cons_self
    have hkeys : Pair.keyFault? (a.id, b.id) = none := by
      rw [Pair.keyFault?, ha.id.asKey, hb.id.asKey]
      rfl
    obtain ⟨overlap, hoverlap⟩ := ha.exists_overlaps hb
    simp only [firstPartner?, hkeys, hoverlap, hpartner]
    split_ifs
    · exact ⟨partner, rfl⟩
    · cases overlap with
      | true => exact ⟨some b, rfl⟩
      | false => exact ⟨partner, rfl⟩

/-- Of placed actors it can be said which two collide first, if any. -/
theorem exists_firstCollision? (handled : List Pair) {l : List Actor} (hl : ∀ a ∈ l, a.Placed) :
    ∃ collision, firstCollision? handled l = .ok collision := by
  induction l with
  | nil => exact ⟨none, rfl⟩
  | cons a rest ih =>
    have hrest : ∀ b ∈ rest, b.Placed := fun b hb => hl b (List.mem_cons_of_mem _ hb)
    obtain ⟨collision, hcollision⟩ := ih hrest
    obtain ⟨partner, hpartner⟩ := exists_firstPartner? handled (hl a List.mem_cons_self) hrest
    rw [firstCollision?, hpartner]
    cases partner with
    | none => exact ⟨collision, hcollision⟩
    | some b => exact ⟨some (a, b), rfl⟩

/-! ### What runs and stages dispatch -/

namespace Action

variable {a : Action}

theorem OfBlock.placing {actorId : Datum} (h : a.OfBlock actorId) : a.Placing := by
  cases h with
  | place x y =>
    intro change hmem _
    have hcases : change = (.x, .float x) ∨ change = (.y, .float y) := by
      simpa using (show change ∈ [(Attribute.x, Datum.float x), (.y, .float y)] from hmem)
    rcases hcases with rfl | rfl <;> exact ⟨_, rfl⟩
  | direction direction =>
    have hnone : Attribute.direction ∉ Attribute.measures := by decide
    intro change hmem hmeasures
    cases List.mem_singleton.mp (show change ∈ [(Attribute.direction, .float direction)] from hmem)
    exact absurd hmeasures hnone
  | message message =>
    have hnone : Attribute.message ∉ Attribute.measures := by decide
    intro change hmem hmeasures
    cases List.mem_singleton.mp (show change ∈ [(Attribute.message, message)] from hmem)
    exact absurd hmeasures hnone

theorem Acted.placing {home : Datum} (h : a.Acted home) : a.Placing := by
  cases h with
  | flag value => trivial
  | played h =>
    cases h with
    | start => exact ⟨⟨_, rfl⟩, ⟨_, rfl⟩⟩
    | swap first second => trivial
    | block h => exact h.placing

end Action

/-- The random numbers to come are doubles. -/
def Supply.Doubles (s : Supply) : Prop := ∀ r ∈ s.randoms, ∃ x, r = .float x

/-- What comes of a double and a number is a double. -/
theorem Number.combine?_float {ints : Int → Int → Int} {floats : Float → Float → Float} {x : Float}
    {n m : Number} (h : combine? ints floats (.float x) n = some m) : ∃ y, m = .float y := by
  obtain ⟨y, -, h⟩ := Option.bind_eq_some_iff.mp h
  cases h
  exact ⟨_, rfl⟩

theorem Actor.spread_double {x : Float} {d : Datum} (h : spread (.float x) = .ok d) :
    d.IsDouble := by
  unfold spread at h
  cases hn : (do (← (Number.float x).mul? (.int 100)).sub? (.int 50) : Option Number) with
  | none =>
    rw [hn] at h
    cases h
  | some n =>
    rw [hn] at h
    cases h
    obtain ⟨m, hm, hn⟩ := Option.bind_eq_some_iff.mp hn
    obtain ⟨y, rfl⟩ := Number.combine?_float hm
    obtain ⟨z, rfl⟩ := Number.combine?_float hn
    exact ⟨z, rfl⟩

/-- A new actor is placed. -/
theorem Actor.create_placed {ordinal : Datum} {supply supply' : Supply} {a : Actor}
    (hs : supply.Doubles) (h : Actor.create ordinal none supply = .ok (a, supply')) :
    a.Placed ∧ supply'.Doubles := by
  obtain ⟨id, name, costume, x, y, rfl, ⟨r, hr, hx⟩, ⟨r', hr', hy⟩, hleft⟩ := create_cases h
  have hdouble : ∀ r ∈ .float 0.5 :: supply.randoms, ∃ x, r = .float x :=
    List.forall_mem_cons.mpr ⟨⟨0.5, rfl⟩, hs⟩
  obtain ⟨z, rfl⟩ := hdouble r hr
  obtain ⟨z', rfl⟩ := hdouble r' hr'
  refine ⟨⟨⟨⟨_, rfl⟩, Forest.typed_nil⟩, fun which hwhich => ?_⟩, fun r hr => hs r (hleft hr)⟩
  rcases Attribute.mem_measures_iff.mp hwhich with rfl | rfl | rfl
  · exact spread_double hx
  · exact spread_double hy
  · exact ⟨50.0, rfl⟩

end SpriteStage
