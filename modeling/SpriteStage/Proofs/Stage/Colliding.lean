import SpriteStage.Proofs.Stage.Lookout
import Mathlib.Data.List.FinRange

/-!
# Colliding pairs

All pairs of a list of actors that overlap and were not handled yet, in the order of the list
(`colliding`). How it is told whether two actors overlap is left open; it has to be a matter of
where they are and how wide they are (`Overlap.OfPlace`), so that it stays as it is when their
programs change. The search for the first collision finds the first of these pairs, and the pairs
that are left once it is noted are the others (`colliding_note`).
-/

namespace SpriteStage

/-- The two actors are at the same place and have the same width. -/
structure Actor.SamePlace (a b : Actor) : Prop where
  x : b.x = a.x
  y : b.y = a.y
  width : b.width = a.width

/-- A way to tell whether two actors overlap. -/
abbrev Overlap := Actor → Actor → Except Fault Bool

namespace Overlap

/-- The two actors are told to overlap. -/
def holds (overlap : Overlap) (a b : Actor) : Bool := (overlap a b).toOption.getD false

/-- Whether two actors overlap is a matter of their places and widths. -/
def OfPlace (overlap : Overlap) : Prop :=
  ∀ a b c d : Actor, a.SamePlace b → c.SamePlace d → overlap b d = overlap a c

/-- It can be told of all pairs, the earlier actor first. -/
def Decides (overlap : Overlap) (actors : List Actor) : Prop :=
  actors.Pairwise fun a b => ∃ answer, overlap a b = .ok answer

/-- The two actors overlap and were not handled yet. -/
def fresh (overlap : Overlap) (handled : List Pair) (a b : Actor) : Bool :=
  !Pair.isAmong handled (a.id, b.id) && overlap.holds a b

end Overlap

/-- Actors overlap by their places and widths. -/
theorem Actor.overlaps_ofPlace : Overlap.OfPlace Actor.overlaps := by
  intro a b c d hab hcd
  simp only [overlaps, distance, hab.x, hab.y, hab.width, hcd.x, hcd.y, hcd.width]

/-- The pairs of actors that overlap and were not handled yet, in lexicographic order of the two
positions in the list, the smaller first. -/
def colliding (overlap : Overlap) (handled : List Pair) (actors : List Actor) : List Pair :=
  (List.finRange actors.length).flatMap fun i =>
    ((List.finRange actors.length).filter fun j =>
        decide (i < j) && overlap.fresh handled actors[i] actors[j]).map fun j =>
      (actors[i].id, actors[j].id)

/-- The first of the later actors that overlaps an actor, by whatever way to tell. -/
def firstPartnerBy? (overlap : Overlap) (handled : List Pair) (a : Actor) :
    List Actor → Except Fault (Option Actor)
  | [] => .ok none
  | b :: rest =>
    let pair : Pair := (a.id, b.id)
    match pair.keyFault? with
    | some fault => .error fault
    | none =>
      if pair.isAmong handled then firstPartnerBy? overlap handled a rest
      else do
        if ← overlap a b then return some b
        firstPartnerBy? overlap handled a rest

/-- The first pair of actors that overlap and were not handled, by whatever way to tell. -/
def firstCollisionBy? (overlap : Overlap) (handled : List Pair) :
    List Actor → Except Fault (Option (Actor × Actor))
  | [] => .ok none
  | a :: rest => do
    match ← firstPartnerBy? overlap handled a rest with
    | some b => return some (a, b)
    | none => firstCollisionBy? overlap handled rest

theorem firstPartnerBy?_overlaps (handled : List Pair) (a : Actor) (l : List Actor) :
    firstPartnerBy? Actor.overlaps handled a l = firstPartner? handled a l := by
  induction l with
  | nil => rfl
  | cons b rest ih =>
    rw [firstPartnerBy?, ih]
    rfl

theorem firstCollisionBy?_overlaps (handled : List Pair) (l : List Actor) :
    firstCollisionBy? Actor.overlaps handled l = firstCollision? handled l := by
  induction l with
  | nil => rfl
  | cons a rest ih =>
    rw [firstCollisionBy?, firstPartnerBy?_overlaps, ih]
    rfl

variable {overlap : Overlap} {handled : List Pair} {a b : Actor} {p q : Pair} {l rest : List Actor}

/-! ### The list of pairs -/

/-- First come the pairs of the first actor. -/
theorem colliding_cons (overlap : Overlap) (handled : List Pair) (a : Actor) (rest : List Actor) :
    colliding overlap handled (a :: rest) =
      (rest.filter (overlap.fresh handled a)).map (fun b => (a.id, b.id)) ++
        colliding overlap handled rest := by
  have hrest : rest.filter (overlap.fresh handled a) =
      ((List.finRange rest.length).filter fun j => overlap.fresh handled a rest[j]).map
        fun j => rest[j] := by
    conv_lhs => rw [← List.map_getElem_finRange rest]
    rw [List.filter_map]
    rfl
  simp only [colliding, List.length_cons, List.finRange_succ, List.flatMap_cons, List.flatMap_map,
    List.filter_cons, List.filter_map, List.map_map, hrest]
  simp [Function.comp_def]

theorem exists_of_mem_colliding (h : p ∈ colliding overlap handled l) :
    ∃ a b : Actor, p = (a.id, b.id) ∧ [a, b].Sublist l ∧ overlap.fresh handled a b := by
  induction l with
  | nil => cases h
  | cons c rest ih =>
    rw [colliding_cons, List.mem_append, List.mem_map] at h
    rcases h with ⟨b, hb, rfl⟩ | h
    · obtain ⟨hmem, hfresh⟩ := List.mem_filter.mp hb
      exact ⟨c, b, rfl, .cons_cons _ (List.singleton_sublist.mpr hmem), hfresh⟩
    · obtain ⟨a, b, hp, hsub, hfresh⟩ := ih h
      exact ⟨a, b, hp, .cons _ hsub, hfresh⟩

/-- No pair comes twice, if no identifier does. -/
theorem nodup_colliding (h : (l.map (·.id)).Nodup) : (colliding overlap handled l).Nodup := by
  induction l with
  | nil => exact .nil
  | cons a rest ih =>
    obtain ⟨ha, hrest⟩ := List.nodup_cons.mp h
    rw [colliding_cons, List.nodup_append]
    refine ⟨?_, ih hrest, ?_⟩
    · have hfilter := hrest.of_map.filter (overlap.fresh handled a)
      refine (List.nodup_map_iff_inj_on hfilter).mpr fun b hb c hc heq => ?_
      have hid : b.id = c.id := congrArg Prod.snd heq
      exact List.inj_on_of_nodup_map hrest (List.mem_of_mem_filter hb) (List.mem_of_mem_filter hc)
        hid
    · rintro _ hp _ hq rfl
      obtain ⟨b, -, rfl⟩ := List.mem_map.mp hp
      obtain ⟨c, d, heq, hsub, -⟩ := exists_of_mem_colliding hq
      have hid : a.id = c.id := congrArg Prod.fst heq
      exact ha (List.mem_map.mpr ⟨c, hsub.subset (by simp), hid.symm⟩)

/-- Programs have nothing to do with it. -/
theorem colliding_map (hoverlap : overlap.OfPlace) {g : Actor → Actor} (hid : ∀ a, (g a).id = a.id)
    (hplace : ∀ a : Actor, a.SamePlace (g a)) (handled : List Pair) (l : List Actor) :
    colliding overlap handled (l.map g) = colliding overlap handled l := by
  have hfresh (a b : Actor) : overlap.fresh handled (g a) (g b) = overlap.fresh handled a b := by
    simp only [Overlap.fresh, Overlap.holds, hid, hoverlap a _ b _ (hplace a) (hplace b)]
  induction l with
  | nil => rfl
  | cons a rest ih =>
    simp only [List.map_cons, colliding_cons, List.filter_map, List.map_map, Function.comp_def,
      hfresh, hid, ih]

theorem Overlap.Decides.map (hoverlap : overlap.OfPlace) {g : Actor → Actor}
    (hplace : ∀ a : Actor, a.SamePlace (g a)) (h : overlap.Decides l) :
    overlap.Decides (l.map g) := by
  refine List.pairwise_map.mpr (h.imp fun {a b} hab => ?_)
  rwa [hoverlap a _ b _ (hplace a) (hplace b)]

/-- A pair that is noted is left out. -/
theorem colliding_cons_handled (overlap : Overlap) (handled : List Pair) (p : Pair)
    (l : List Actor) : colliding overlap (p :: handled) l =
      (colliding overlap handled l).filter fun q => !q.sameEntry p := by
  have hfresh (a b : Actor) : overlap.fresh (p :: handled) a b =
      (overlap.fresh handled a b && !Pair.sameEntry (a.id, b.id) p) := by
    simp only [Overlap.fresh, Pair.isAmong, List.any_cons, Bool.not_or]
    cases Pair.sameEntry (a.id, b.id) p <;> simp
  induction l with
  | nil => rfl
  | cons a rest ih =>
    rw [colliding_cons, colliding_cons, List.filter_append, List.filter_map, List.filter_filter, ih]
    congr 3
    funext b
    rw [hfresh, Bool.and_comm]
    rfl

/-- **Once the first pair is noted, the others are left.** -/
theorem colliding_note (ht : ∀ a ∈ l, a.id.IsText) (hn : (l.map (·.id)).Nodup) {pairs : List Pair}
    (h : colliding overlap handled l = p :: pairs) :
    colliding overlap (p :: handled) l = pairs := by
  obtain ⟨a, b, rfl, hsub, -⟩ := exists_of_mem_colliding (h ▸ List.mem_cons_self)
  have hsame (q : Pair) : q.sameEntry (a.id, b.id) ↔ q = (a.id, b.id) :=
    Pair.sameEntry_iff (ht a (hsub.subset (by simp))) (ht b (hsub.subset (by simp))) q
  have hnodup : (colliding overlap handled l).Nodup := nodup_colliding hn
  rw [h, List.nodup_cons] at hnodup
  have hothers : ∀ q ∈ pairs, (!q.sameEntry (a.id, b.id)) = true := fun q hq => by
    rw [Bool.not_eq_true', ← Bool.not_eq_true, hsame]
    rintro rfl
    exact hnodup.1 hq
  rw [colliding_cons_handled, h, List.filter_cons, if_neg (by simp [hsame]),
    List.filter_eq_self.mpr hothers]

/-! ### The search -/

theorem keyFault?_of_isText (ha : a.id.IsText) (hb : b.id.IsText) :
    Pair.keyFault? (a.id, b.id) = none := by
  rw [Pair.keyFault?, ha.asKey, hb.asKey]
  rfl

theorem firstPartnerBy?_eq (ha : a.id.IsText) (ht : ∀ b ∈ l, b.id.IsText)
    (hd : ∀ b ∈ l, ∃ answer, overlap a b = .ok answer) :
    firstPartnerBy? overlap handled a l = .ok (l.find? (overlap.fresh handled a)) := by
  induction l with
  | nil => rfl
  | cons b rest ih =>
    rw [List.forall_mem_cons] at ht hd
    obtain ⟨answer, hanswer⟩ := hd.1
    have hrest := ih ht.2 hd.2
    simp only [firstPartnerBy?, keyFault?_of_isText ha ht.1, hanswer, hrest, List.find?_cons,
      Overlap.fresh, Overlap.holds]
    cases Pair.isAmong handled (a.id, b.id) with
    | true => rfl
    | false => cases answer <;> rfl

/-- **What the search finds** is the first pair of the list. -/
theorem exists_firstCollisionBy? (handled : List Pair) (ht : ∀ a ∈ l, a.id.IsText)
    (hd : overlap.Decides l) :
    ∃ found, firstCollisionBy? overlap handled l = .ok found ∧
      found.map (fun p => (p.1.id, p.2.id)) = (colliding overlap handled l).head? := by
  induction l with
  | nil => exact ⟨none, rfl, rfl⟩
  | cons a rest ih =>
    rw [List.forall_mem_cons] at ht
    obtain ⟨hd, hdrest⟩ := List.pairwise_cons.mp hd
    obtain ⟨found, hfound, hhead⟩ := ih ht.2 hdrest
    rw [firstCollisionBy?, firstPartnerBy?_eq ht.1 ht.2 hd, colliding_cons, List.head?_append,
      List.head?_map, List.head?_filter, ← hhead]
    cases rest.find? (overlap.fresh handled a) with
    | some b => exact ⟨some (a, b), rfl, rfl⟩
    | none => exact ⟨found, hfound, rfl⟩

end SpriteStage
