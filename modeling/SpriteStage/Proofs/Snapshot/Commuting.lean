import SpriteStage.Proofs.Forest.Merging
import SpriteStage.Proofs.Snapshot.Parameters

/-!
# Actions that commute

Actions on different actors can be carried out in either order, and so can a change of attributes
with whatever changes programs only: an action on a program, even of the same actor, or a swap. On
one program, parameters can be put into different blocks in either order; put into one block one
after the other, they are as good as put in at once (`Snapshot.Labelled.independent_actions`). All
this holds of actions that are not carried out, or fail, as well.
-/

namespace SpriteStage

namespace Actor

theorem set_withProgram (a : Actor) (f : Forest) (which : Attribute) (value : Datum) :
    (a.withProgram f).set which value = (a.set which value).withProgram f := by
  cases which <;> rfl

theorem setAll_withProgram (a : Actor) (f : Forest) (changes : List (Attribute × Datum)) :
    (a.withProgram f).setAll changes = (a.setAll changes).withProgram f := by
  induction changes generalizing a with
  | nil => rfl
  | cons change rest ih =>
    calc ((a.withProgram f).set change.1 change.2).setAll rest
      _ = ((a.set change.1 change.2).withProgram f).setAll rest := by rw [set_withProgram]
      _ = ((a.set change.1 change.2).setAll rest).withProgram f := ih _

theorem turnMoves_setAll (a : Actor) (changes : List (Attribute × Datum)) :
    (a.setAll changes).turnMoves = a.turnMoves.setAll changes := by
  calc (a.setAll changes).turnMoves
    _ = (a.setAll changes).withProgram (Forest.turnMoves a.blocks) :=
      congrArg (fun f => (a.setAll changes).withProgram (Forest.turnMoves f))
        (a.setAll_blocks changes)
    _ = a.turnMoves.setAll changes := (a.setAll_withProgram _ changes).symm

end Actor

namespace Action

variable {action : Action} {f : Forest} {id params address : Datum}

theorem effect_of_programChange? (h : action.programChange?.isSome) (a : Actor) :
    action.effect a = a.withProgram (settled (action.rewrite? a.blocks) a.blocks) := by
  cases action with
  | addBlock | removeBlock | updateParams | addChild | clearBlocks => rfl
  | _ => cases h

theorem exists_subject? (h : action.programChange?.isSome) (s : Snapshot) :
    ∃ i, action.subject? s = some i := by
  cases action with
  | addBlock | removeBlock | updateParams | addChild | clearBlocks => exact ⟨_, rfl⟩
  | _ => cases h

/-- What is left of putting parameters into a block of a program. -/
theorem settled_updateParams (id params address : Datum) (f : Forest) :
    settled ((updateParams id params address).rewrite? f) f =
      Forest.changed id (Block.overridden params) f := by
  cases hfind : Forest.find? id f with
  | none =>
    rw [rewrite?_updateParams_of_find?_eq_none hfind, Forest.changed_of_find?_eq_none hfind]
    rfl
  | some b =>
    obtain ⟨gap, rfl, hb, hclear⟩ := Gap.exists_of_find? hfind
    rw [rewrite?_updateParams_fill hclear hb, Forest.changed_fill hclear hb, Block.overridden]
    cases b.mergeFault? params <;> rfl

end Action

namespace Snapshot

variable {s : Snapshot} {i j : Datum} {a b : Action} {g : Actor → Actor}

/-- The two actions come to the same in either order. -/
def Commute (s : Snapshot) (a b : Action) : Prop := (s.after a).after b = (s.after b).after a

/-! ### Actions on one actor -/

theorem subject?_amend (action : Action) (s : Snapshot) (i : Datum) (g : Actor → Actor) :
    action.subject? (s.amend i g) = action.subject? s := by
  cases action <;> rfl

theorem after_after_eq_amend (ha : a.subject? s = some i) (hb : b.subject? s = some j) :
    (s.after a).after b = (s.amend i a.effect).amend j b.effect := by
  rw [after_eq_amend ha, after_eq_amend ((subject?_amend b s i a.effect).trans hb)]

/-- Actions on different actors commute. -/
theorem commute_of_apart (ha : a.subject? s = some i) (hb : b.subject? s = some j)
    (hij : ∀ actor ∈ s.actors, actor.hasId i → ¬ actor.hasId j) : s.Commute a b := by
  rw [Commute, after_after_eq_amend ha hb, after_after_eq_amend hb ha]
  exact amend_comm a.effect_id b.effect_id hij

/-- Actions on one actor commute if their effects do. -/
theorem commute_of_effects (ha : a.subject? s = some i) (hb : b.subject? s = some i)
    (heffects : ∀ actor, s.holder? i = some actor →
      b.effect (a.effect actor) = a.effect (b.effect actor)) : s.Commute a b := by
  rw [Commute, after_after_eq_amend ha hb, after_after_eq_amend hb ha, amend_amend a.effect_id,
    amend_amend b.effect_id]
  exact amend_congr heffects

/-! ### Swaps -/

theorem swapped?_amend (hid : ∀ a, (g a).id = a.id)
    (hturn : ∀ a, (g a).turnMoves = g a.turnMoves) (s : Snapshot) (i first second : Datum) :
    (s.amend i g).swapped? first second = (s.swapped? first second).map (·.amend i g) := by
  let turned (a : Actor) : Actor :=
    if a.hasId first || a.hasId second then a.turnMoves else a
  have hkept (a : Actor) : (turned a).id = a.id := by
    simp only [turned]
    split_ifs <;> rfl
  have hcomm (a : Actor) : turned (g a) = g (turned a) := by
    simp only [turned, hasId_congr_id (hid a), hturn]
    split_ifs <;> rfl
  unfold swapped?
  rw [canSwap_amend hid]
  split_ifs
  · exact congrArg (fun actors => some { s with actors }) (map_amendFirst hkept hcomm i s.actors)
  · rfl

/-- What leaves identifiers and programs alone can be done before or after a swap. -/
theorem after_swapMoves_amend (hid : ∀ a, (g a).id = a.id) (hblocks : ∀ a, (g a).blocks = a.blocks)
    (hturn : ∀ a, (g a).turnMoves = g a.turnMoves) (s : Snapshot) (i first second : Datum) :
    (s.amend i g).after (.swapMoves first second) =
      (s.after (.swapMoves first second)).amend i g := by
  have hattempt : (s.amend i g).attempt (.swapMoves first second) =
      (s.attempt (.swapMoves first second)).map (Option.map (·.amend i g)) := by
    simp only [attempt, fault?_amend hid hblocks, after?, swapped?_amend hid hturn]
    cases s.fault? (.swapMoves first second) <;> rfl
  rw [after_eq_settled, after_eq_settled, hattempt]
  exact settled_map (·.amend i g) _ s

/-- A change of attributes commutes with every swap. -/
theorem commute_updateActor_swapMoves (s : Snapshot) (i changes first second : Datum) :
    s.Commute (.updateActor i changes) (.swapMoves first second) := by
  have hupdate (s : Snapshot) : s.after (.updateActor i changes) =
      s.amend i (Action.updateActor i changes).effect := after_eq_amend rfl
  rw [Commute, hupdate, hupdate]
  refine after_swapMoves_amend (Action.updateActor i changes).effect_id (fun a => a.setAll_blocks _)
    (fun a => a.turnMoves_setAll _) s i first second

/-! ### Actions that are independent -/

/-- Actors and blocks have texts for identifiers. -/
def Labelled (s : Snapshot) : Prop :=
  ∀ a ∈ s.actors, a.id.IsText ∧ ∀ b ∈ Forest.preorder a.blocks, b.id.IsText

namespace Labelled

theorem apart (hs : s.Labelled) (hij : i ≠ j) :
    ∀ a ∈ s.actors, a.hasId i → ¬ a.hasId j := by
  intro a ha hi hj
  have htext := (hs a ha).1
  exact hij ((htext.sameValue_iff.mp hi).trans (htext.sameValue_iff.mp hj).symm)

/-- A change of attributes commutes with every action on a program. -/
theorem commute_updateActor (hs : s.Labelled) (i changes : Datum)
    (hb : b.programChange?.isSome) : s.Commute (.updateActor i changes) b := by
  obtain ⟨j, hj⟩ := b.exists_subject? hb s
  by_cases hij : i = j
  · subst hij
    refine commute_of_effects rfl hj fun actor _ => ?_
    rw [Action.effect_of_programChange? hb, Action.effect_of_programChange? hb]
    simp only [Action.effect, Actor.setAll_blocks, Actor.setAll_withProgram]
  · exact commute_of_apart rfl hj (hs.apart hij)

/-- Parameters can be put into different blocks in either order. -/
theorem commute_updateParams (hs : s.Labelled) {id id' : Datum} (hne : id ≠ id')
    (params params' address address' : Datum) :
    s.Commute (.updateParams id params address) (.updateParams id' params' address') := by
  by_cases hij : s.addressee address = s.addressee address'
  · refine commute_of_effects rfl (congrArg some hij.symm) fun actor hactor => ?_
    have hapart : ∀ b ∈ Forest.preorder actor.blocks, b.hasId id → ¬ b.hasId id' := by
      intro b hb h h'
      have htext := (hs actor (List.mem_of_find?_eq_some hactor)).2 b hb
      exact hne ((htext.sameValue_iff.mp h).trans (htext.sameValue_iff.mp h').symm)
    simp only [Action.effect, Action.settled_updateParams]
    exact congrArg actor.withProgram (Forest.changed_comm (Block.overridden_superficial params)
      (Block.overridden_superficial params') hapart)
  · exact commute_of_apart rfl rfl (hs.apart hij)

end Labelled

/-- Parameters put into one block one after the other are as good as put in at once. -/
theorem after_updateParams_updateParams {p q : Fields} (hp : p.Proper) (hq : q.Proper)
    (s : Snapshot) (id address : Datum) :
    (s.after (.updateParams id (.object p) address)).after (.updateParams id (.object q) address) =
      s.after (.updateParams id (.object (p.merge q)) address) := by
  rw [after_after_eq_amend rfl rfl, amend_amend (Action.effect_id _), after_eq_amend rfl]
  refine amend_congr fun actor _ => ?_
  simp only [Action.effect, Action.settled_updateParams]
  refine congrArg actor.withProgram ?_
  refine (Forest.changed_changed (Block.overridden_superficial _).id id actor.blocks).trans ?_
  simp only [Block.overridden_overridden hp hq.lettered]

/-- **Independent actions commute.** Where actors and blocks have texts for identifiers, actions on
different actors can be carried out in either order. So can a change of the attributes of an actor
with every swap, and with every action on a program, be it of the same actor. Parameters can be put
into different blocks in either order; and if they are put into the same block, first some and then
others, that is the same as to put in the first overridden by the others. -/
theorem Labelled.independent_actions (hs : s.Labelled) :
    (∀ a b i j, a.subject? s = some i → b.subject? s = some j → i ≠ j → s.Commute a b) ∧
    (∀ i changes first second,
      s.Commute (.updateActor i changes) (.swapMoves first second)) ∧
    (∀ i changes b, b.programChange?.isSome → s.Commute (.updateActor i changes) b) ∧
    (∀ id id' params params' address address', id ≠ id' →
      s.Commute (.updateParams id params address) (.updateParams id' params' address')) ∧
    ∀ id address p q, Fields.Proper p → Fields.Proper q →
      (s.after (.updateParams id (.object p) address)).after
          (.updateParams id (.object q) address) =
        s.after (.updateParams id (.object (p.merge q)) address) :=
  ⟨fun _ _ _ _ ha hb hij => commute_of_apart ha hb (hs.apart hij), s.commute_updateActor_swapMoves,
    fun i changes _ => hs.commute_updateActor i changes,
    fun _ _ params params' address address' hne =>
      hs.commute_updateParams hne params params' address address',
    fun id address _ _ hp hq => after_updateParams_updateParams hp hq s id address⟩

/-- A step of some length. -/
def pace (id : String) (steps : Int) : Block where
  id := .str id
  kind := .str "move"
  params := .object [("steps", .num (.int steps))]

/-- Two dancers, one of whom takes a step inside a repetition and then another. -/
def couple : Snapshot where
  actors :=
    [{ id := .str "ann", name := .str "Ann", blocks :=
        [{ id := .str "round", kind := .str "repeat", children := [pace "in" 1] }, pace "out" 2] },
      { id := .str "bob", name := .str "Bob", blocks := [pace "in" 3] }]
  activeActorId := .str "bob"

theorem couple_labelled : couple.Labelled := by
  intro a ha
  simp only [couple, List.mem_cons, List.not_mem_nil, or_false] at ha
  rcases ha with rfl | rfl
  · refine ⟨⟨_, rfl⟩, fun b hb => ?_⟩
    simp [pace] at hb
    rcases hb with rfl | rfl | rfl <;> exact ⟨_, rfl⟩
  · refine ⟨⟨_, rfl⟩, fun b hb => ?_⟩
    simp [pace] at hb
    exact hb ▸ ⟨_, rfl⟩

/-- The dancers can be told something each in either order; one of them can step aside before or
after the moves of both are turned, or all her moves are taken away; the lengths of her steps can be
set in either order, and of what is set for one step only the last counts. -/
theorem couple_independent :
    let ann : Datum := .str "ann"
    let aside : Action := .updateActor ann (.object [("x", .num (.int 9))])
    let far : Fields := [("steps", .num (.int 8)), ("speed", .num (.int 1))]
    let near : Fields := [("steps", .num (.int 4))]
    couple.Labelled ∧
      couple.Commute (.addChild (.str "round") (pace "back" 5) ann)
        (.removeBlock (.str "in") .null) ∧
      couple.Commute aside (.swapMoves ann (.str "bob")) ∧
      couple.Commute aside (.clearBlocks ann) ∧
      couple.Commute (.updateParams (.str "in") (.object far) ann)
        (.updateParams (.str "out") (.object near) ann) ∧
      (couple.after (.updateParams (.str "in") (.object far) ann)).after
          (.updateParams (.str "in") (.object near) ann) =
        couple.after (.updateParams (.str "in")
          (.object [("steps", .num (.int 4)), ("speed", .num (.int 1))]) ann) := by
  intro ann aside far near
  obtain ⟨hapart, hswap, hprogram, hparams, hmerged⟩ := couple_labelled.independent_actions
  have hfar : far.Proper := ⟨by simp [far, Fields.Lettered], by simp [far]⟩
  have hnear : near.Proper := ⟨by simp [near, Fields.Lettered], by simp [near]⟩
  exact ⟨couple_labelled, hapart _ _ ann (.str "bob") rfl rfl (by simp [ann]), hswap ..,
    hprogram _ _ _ rfl, hparams _ _ _ _ _ _ (by simp), hmerged _ _ _ _ hfar hnear⟩

end Snapshot

end SpriteStage
