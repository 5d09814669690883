import SpriteStage.View
import SpriteStage.Proofs.Json.Valid
import SpriteStage.Proofs.Snapshot.Change
import SpriteStage.Proofs.Snapshot.Drawn

/-!
# Finite snapshots

A snapshot is finite if each number that it holds has digits, and parameters of blocks are objects.
The view of a finite snapshot is finite, so it is written as JSON. An action is finite if so is what
it brings in; finite actions leave snapshots finite (`Snapshot.Finite.after`), since beyond that
they do no more with numbers than to turn their sign.
-/

namespace SpriteStage

/-! ### Data -/

open Float.Model in
theorem Double.isFinite_neg (x : Float) : (-x).isFinite = x.isFinite := by
  obtain ⟨u, rfl⟩ := exists_ofModel_pack x
  rw [neg_ofModel_pack]
  show (UnpackedFloat.unpack .binary64 (u.neg.pack .binary64)).isFinite =
    (UnpackedFloat.unpack .binary64 (u.pack .binary64)).isFinite
  rw [unpack_pack_neg]
  cases UnpackedFloat.unpack .binary64 (u.pack .binary64) <;> rfl

theorem Number.isFinite_neg (n : Number) : n.neg.isFinite = n.isFinite := by
  cases n with
  | int n => rfl
  | float x => exact Double.isFinite_neg x

namespace Fields

variable {fields more : Fields} {key : Key} {value : Datum}

theorem isFinite_put (h : (Datum.object fields).isFinite) (hv : value.isFinite) :
    (Datum.object (fields.put key value)).isFinite := by
  rw [Datum.isFinite_object] at h ⊢
  induction fields with
  | nil => exact List.forall_mem_singleton.mpr hv
  | cons field rest ih =>
    obtain ⟨hfield, hrest⟩ := List.forall_mem_cons.mp h
    rw [put]
    split_ifs
    · exact List.forall_mem_cons.mpr ⟨hv, hrest⟩
    · exact List.forall_mem_cons.mpr ⟨hfield, ih hrest⟩

theorem isFinite_merge (h : (Datum.object fields).isFinite) (hmore : (Datum.object more).isFinite) :
    (Datum.object (fields.merge more)).isFinite := by
  rw [Datum.isFinite_object] at hmore
  refine List.foldlRecOn (motive := fun acc => (Datum.object acc).isFinite) more _ h ?_
  exact fun acc hacc field hfield => isFinite_put hacc (hmore field hfield)

theorem isFinite_of_get? (h : (Datum.object fields).isFinite)
    (hget : fields.get? key = some value) : value.isFinite := by
  rw [Datum.isFinite_object] at h
  induction fields with
  | nil => cases hget
  | cons field rest ih =>
    obtain ⟨hfield, hrest⟩ := List.forall_mem_cons.mp h
    rw [get?] at hget
    split_ifs at hget
    · cases hget
      exact hfield
    · exact ih hrest hget

theorem isFinite_turn (h : (Datum.object fields).isFinite) (key : Key) :
    (Datum.object (fields.turn key)).isFinite := by
  by_cases hnum : ∃ n, fields.get? key = some (.num n)
  · obtain ⟨n, hn⟩ := hnum
    have hfinite : n.isFinite := isFinite_of_get? h hn
    rw [turn_of_num hn]
    exact isFinite_put h ((Number.isFinite_neg n).trans hfinite)
  · rw [turn_of_not_num (not_exists.mp hnum)]
    exact h

end Fields

/-! ### Blocks and actors -/

/-- Whether the parameters are an object and each number in the block itself has digits. -/
def Block.isFinite (b : Block) : Bool :=
  b.id.isFinite && b.kind.isFinite && b.params matches .object _ && b.params.isFinite

namespace Block

theorem isFinite_iff {b : Block} : b.isFinite ↔ b.id.isFinite ∧ b.kind.isFinite ∧
    ∃ fields, b.params = .object fields ∧ (Datum.object fields).isFinite := by
  obtain ⟨id, kind, params, children⟩ := b
  cases params <;> simp [isFinite, and_assoc]

theorem own_isFinite : Block.Own (·.isFinite) := fun _ _ hb => hb

theorem isFinite_withParams {b : Block} (hb : b.isFinite) {params : Datum}
    (h : params.isFinite) : (b.withParams params.fields).isFinite := by
  obtain ⟨hid, hkind, fields, hfields, hfinite⟩ := isFinite_iff.mp hb
  refine isFinite_iff.mpr ⟨hid, hkind, _, rfl, Fields.isFinite_merge ?_ ?_⟩
  · rw [hfields]
    exact hfinite
  · cases params with
    | object more => exact h
    | _ => rfl

theorem isFinite_turnIf {b : Block} (hb : b.isFinite) (wanted : Bool) :
    (b.turnIf wanted).isFinite := by
  obtain ⟨hid, hkind, fields, hfields, hfinite⟩ := isFinite_iff.mp hb
  have hentries : b.entries = fields := by
    rw [entries, hfields]
    rfl
  refine isFinite_iff.mpr ⟨hid, hkind, _, rfl, ?_⟩
  rw [hentries]
  split_ifs
  · exact Fields.isFinite_turn hfinite _
  · exact hfinite

end Block

/-- Whether each block of the forest is finite. -/
def Forest.isFinite (f : Forest) : Bool := (preorder f).all (·.isFinite)

theorem Forest.isFinite_iff {f : Forest} : Forest.isFinite f ↔ Every (·.isFinite) f :=
  List.all_eq_true

/-- Whether each number of the actor and its program has digits. -/
def Actor.isFinite (a : Actor) : Bool :=
  a.id.isFinite && Attribute.all.all (fun which => (a.get which).isFinite) &&
    Forest.isFinite a.blocks

namespace Actor

variable {a : Actor}

theorem isFinite_iff : a.isFinite ↔ a.id.isFinite ∧ (∀ which, (a.get which).isFinite) ∧
    Forest.Every (·.isFinite) a.blocks := by
  have hall (which : Attribute) : which ∈ Attribute.all := by cases which <;> decide
  simp [isFinite, Forest.isFinite_iff, hall, and_assoc]

theorem isFinite_set (ha : a.isFinite) {which : Attribute} {value : Datum} (hv : value.isFinite) :
    (a.set which value).isFinite := by
  obtain ⟨hid, hattributes, hblocks⟩ := isFinite_iff.mp ha
  refine isFinite_iff.mpr ⟨(a.set_id which value).symm ▸ hid, fun other => ?_,
    (a.set_blocks which value).symm ▸ hblocks⟩
  rw [get_set]
  split_ifs
  · exact hv
  · exact hattributes other

theorem isFinite_setAll (ha : a.isFinite) {changes : List (Attribute × Datum)}
    (h : ∀ change ∈ changes, change.2.isFinite) : (a.setAll changes).isFinite := by
  refine List.foldlRecOn (motive := fun a : Actor => a.isFinite) changes _ ha ?_
  exact fun a ha change hmem => isFinite_set ha (h change hmem)

theorem isFinite_with_blocks (ha : a.isFinite) {f : Forest} (hf : Forest.Every (·.isFinite) f) :
    isFinite { a with blocks := f } := by
  obtain ⟨hid, hattributes, -⟩ := isFinite_iff.mp ha
  refine isFinite_iff.mpr ⟨hid, fun which => ?_, hf⟩
  have hsame : get { a with blocks := f } which = a.get which := by cases which <;> rfl
  exact hsame ▸ hattributes which

end Actor

/-! ### Views -/

theorem Forest.isFinite_toItems {f : Forest} (hf : Every (·.isFinite) f) :
    ∀ d ∈ toItems f, d.isFinite := by
  induction f using induct with
  | nil => exact nofun
  | cons b rest ihb ihrest =>
    obtain ⟨hb, hchildren, hrest⟩ := every_cons_iff.mp hf
    obtain ⟨hid, hkind, fields, hfields, hfinite⟩ := Block.isFinite_iff.mp hb
    refine List.forall_mem_cons.mpr ⟨?_, ihrest hrest⟩
    obtain ⟨id, kind, params, children⟩ := b
    obtain rfl : params = .object fields := hfields
    rw [Block.toDatum, Datum.isFinite_object]
    simp only [List.forall_mem_cons]
    exact ⟨hid, hkind, hfinite, (Datum.isFinite_list _).mpr (ihb hchildren), nofun⟩

theorem Actor.isFinite_view {a : Actor} (ha : a.isFinite) (active : Datum) :
    (a.view active).isFinite := by
  obtain ⟨hid, hattributes, hblocks⟩ := isFinite_iff.mp ha
  have hfields : ∀ field ∈ a.toFields, field.2.isFinite := by
    refine List.forall_mem_cons.mpr ⟨hid, List.forall_mem_append.mpr ⟨?_, ?_⟩⟩
    · exact List.forall_mem_map.mpr fun which _ => hattributes which
    · refine List.forall_mem_singleton.mpr ?_
      exact (Datum.isFinite_list _).mpr (Forest.isFinite_toItems hblocks)
  rw [view, Datum.isFinite_object]
  refine List.forall_mem_append.mpr ⟨hfields, ?_⟩
  exact List.forall_mem_cons.mpr ⟨rfl, List.forall_mem_singleton.mpr rfl⟩

/-! ### Actions -/

/-- Whether each number that the action brings in has digits. -/
def Action.isFinite : Action → Bool
  | .addBlock block _ | .addChild _ block _ => Forest.isFinite [block]
  | .updateParams _ params _ => params.isFinite
  | .updateActor _ changes => changes.isFinite
  | .resetActors x y direction => x.isFinite && y.isFinite && direction.isFinite
  | .addActor actor => actor.isFinite
  | .selectActor actorId => actorId.isFinite
  | _ => true

namespace Action

variable {action : Action}

theorem brings_isFinite (ha : action.isFinite) : action.Brings (·.isFinite) := by
  cases action with
  | addBlock | addChild => exact Forest.isFinite_iff.mp ha
  | updateParams => exact fun b hb => Block.isFinite_withParams hb ha
  | _ => trivial

/-- What a finite action makes of a finite actor is finite. -/
theorem isFinite_of_becomes (ha : action.isFinite) {a b : Actor} (h : a.Becomes action b)
    (hf : a.isFinite) : b.isFinite := by
  have hblocks := (Actor.isFinite_iff.mp hf).2.2
  cases h with
  | same => exact hf
  | rewritten hchange hg =>
    exact Actor.isFinite_with_blocks hf
      ((brings_isFinite ha).rewritten Block.own_isFinite hchange hblocks hg)
  | @altered actorId changes h =>
    subst h
    refine Actor.isFinite_setAll hf fun change hmem => ?_
    obtain ⟨⟨key, value⟩, hfield, hchange⟩ := List.mem_filterMap.mp hmem
    obtain ⟨which, -, rfl⟩ := Option.map_eq_some_iff.mp hchange
    cases changes with
    | object fields => exact (Datum.isFinite_object fields).mp ha _ hfield
    | _ => cases hfield
  | reset h =>
    subst h
    simp only [isFinite, Bool.and_eq_true] at ha
    obtain ⟨hid, hattributes, -⟩ := Actor.isFinite_iff.mp hf
    refine Actor.isFinite_iff.mpr ⟨hid, fun which => ?_, hblocks⟩
    have hold := hattributes which
    cases which with
    | x => exact ha.1.1
    | y => exact ha.1.2
    | direction => exact ha.2
    | message => rfl
    | _ => exact hold
  | turned _ =>
    exact Actor.isFinite_with_blocks hf
      (hblocks.turnMoves Block.own_isFinite fun b wanted hb => Block.isFinite_turnIf hb wanted)

end Action

/-! ### Snapshots -/

/-- Each number in the snapshot has digits. -/
structure Snapshot.Finite (s : Snapshot) : Prop where
  actors : ∀ a ∈ s.actors, a.isFinite
  active : s.activeActorId.isFinite
  flag : s.isRunning.isFinite

namespace Snapshot

variable {s : Snapshot}

theorem finite_initial : Finite .initial where
  actors := List.forall_mem_singleton.mpr (by decide)
  active := rfl
  flag := rfl

namespace Finite

/-- Whoever is there has a finite identifier. -/
theorem id (hs : s.Finite) {a : Actor} (ha : a ∈ s.actors) : a.id.isFinite :=
  (Actor.isFinite_iff.mp (hs.actors a ha)).1

/-- Whoever is active after somebody was taken away has a finite identifier. -/
theorem withoutActor? (hs : s.Finite) {actorId : Datum} {s' : Snapshot}
    (h : s.withoutActor? actorId = some s') :
    s'.activeActorId.isFinite ∧ s'.isRunning = s.isRunning := by
  unfold Snapshot.withoutActor? at h
  by_cases hrefused : s.actors.length ≤ 1 || (s.actor? actorId).isNone
  · rw [if_pos hrefused] at h
    cases h
  · rw [if_neg hrefused] at h
    cases h
    refine ⟨?_, rfl⟩
    simp only
    split_ifs
    · cases hhead : (s.actors.filter (!·.hasId actorId)).head? with
      | none => rfl
      | some first => exact hs.id (List.mem_of_mem_filter (List.mem_of_mem_head? hhead))
    · exact hs.active

/-- **Finite actions leave snapshots finite.** -/
theorem after (hs : s.Finite) {action : Action} (ha : action.isFinite) :
    (s.after action).Finite := by
  have hactors : ∀ b ∈ (s.after action).actors, b.isFinite := by
    intro b hb
    obtain ⟨a, hmem, hbecomes⟩ | rfl := exists_of_mem_after hb
    · exact Action.isFinite_of_becomes ha hbecomes (hs.actors a hmem)
    · exact ha
  obtain ⟨hactive, hflag⟩ : (s.after action).activeActorId.isFinite ∧
      (s.after action).isRunning.isFinite := by
    refine after_of_after? (P := fun s' => s'.activeActorId.isFinite ∧ s'.isRunning.isFinite)
      ⟨hs.active, hs.flag⟩ fun s' h => ?_
    obtain ⟨actors, rfl⟩ | ⟨value, -, rfl⟩ | ⟨actor, rfl, h'⟩ | ⟨id, rfl, h'⟩ | ⟨id, rfl, h'⟩ :=
      after?_cases h
    · exact ⟨hs.active, hs.flag⟩
    · exact ⟨hs.active, rfl⟩
    · unfold withActor? at h'
      split_ifs at h'
      cases h'
      exact ⟨(Actor.isFinite_iff.mp ha).1, hs.flag⟩
    · obtain ⟨hactive, hflag⟩ := hs.withoutActor? h'
      exact ⟨hactive, hflag ▸ hs.flag⟩
    · unfold withActive? at h'
      split_ifs at h'
      cases h'
      exact ⟨ha, hs.flag⟩
  exact ⟨hactors, hactive, hflag⟩

end Finite

/-- The view of a finite snapshot is finite. -/
theorem Finite.view (hs : s.Finite) : s.view.isFinite := by
  have hactors : (Datum.list (s.actors.map (Actor.view s.activeActorId))).isFinite :=
    (Datum.isFinite_list _).mpr
      (List.forall_mem_map.mpr fun a ha => Actor.isFinite_view (hs.actors a ha) _)
  rw [Snapshot.view, Datum.isFinite_object]
  simp only [List.forall_mem_cons]
  exact ⟨hactors, hs.active, hs.flag, rfl, nofun⟩

end Snapshot

/-! ### New blocks and actors -/

/-- Whether the places that can be made of the random numbers to come have digits. -/
def Supply.isFinite (s : Supply) : Bool :=
  s.randoms.all fun r => (Actor.spread r).toOption.all (·.isFinite)

theorem Supply.isFinite_spread {s : Supply} (hs : s.isFinite) {r : Number}
    (hr : r ∈ .float 0.5 :: s.randoms) {place : Datum} (h : Actor.spread r = .ok place) :
    place.isFinite := by
  have hall : ∀ r ∈ .float 0.5 :: s.randoms, (Actor.spread r).toOption.all (·.isFinite) :=
    List.forall_mem_cons.mpr ⟨by decide, List.all_eq_true.mp hs⟩
  have hplace := hall r hr
  rw [h] at hplace
  exact hplace

theorem Block.isFinite_create {kind : Datum} {supply supply' : Supply} {b : Block}
    (h : Block.create kind .null [] supply = .ok (b, supply')) : Forest.isFinite [b] := by
  obtain ⟨id, k, rfl, -⟩ := create_cases h
  have hblock : Block.isFinite ⟨.str id, .str k.name, .object (k.defaults.merge []), []⟩ := by
    cases k <;> rfl
  exact Forest.isFinite_iff.mpr (Forest.every_singleton_iff.mpr ⟨hblock, Forest.every_nil⟩)

theorem Actor.isFinite_create {ordinal : Datum} {supply supply' : Supply} {a : Actor}
    (hs : supply.isFinite) (h : Actor.create ordinal none supply = .ok (a, supply')) :
    a.isFinite ∧ supply'.isFinite := by
  obtain ⟨id, name, costume, x, y, rfl, ⟨r, hr, hx⟩, ⟨r', hr', hy⟩, hleft⟩ := create_cases h
  refine ⟨isFinite_iff.mpr ⟨rfl, fun which => ?_, Forest.every_nil⟩, ?_⟩
  · cases which with
    | x => exact Supply.isFinite_spread hs hr hx
    | y => exact Supply.isFinite_spread hs hr' hy
    | _ => rfl
  · exact List.all_eq_true.mpr fun r hr => List.all_eq_true.mp hs r (hleft hr)

end SpriteStage
