import SpriteStage.Proofs.Forest.Shape
import Mathlib.Data.List.DropRight

/-!
# Rebuilding call by call

To rebuild a forest is a loop through its blocks in post-order: siblings from left to right, and
each block after all that is below it. In each turn a function is called once, on the block with its
children in the form that earlier calls gave them (`Forest.rebuildM_eq_foldlM`). That is so whatever
the function does besides. If it keeps a state, each call finds the state that the one before has
left; and if each call keeps identifier, kind and children, the forest keeps its shape
(`Forest.rebuilt_call_by_call`).
-/

namespace SpriteStage

namespace Forest

variable {α β : Type} {f : Forest}

/-! ### What is listed in post-order -/

/-- Right before a block, all blocks below it are listed. -/
theorem exists_take_postorder_eq {k : Nat} {b : Block} (h : (postorder f)[k]? = some b) :
    ∃ before, (postorder f).take k = before ++ postorder b.children := by
  induction f using induct generalizing k with
  | nil => cases h
  | cons c rest ihc ihrest =>
    rw [postorder_cons] at h ⊢
    rcases Nat.lt_or_ge k (postorder c.children).length with hlt | hge
    · -- The block is below the first one.
      rw [List.getElem?_append_left hlt] at h
      obtain ⟨before, hbefore⟩ := ihc h
      exact ⟨before, by rw [List.take_append_of_le_length hlt.le, hbefore]⟩
    · rw [List.getElem?_append_right hge] at h
      rw [List.take_append, List.take_of_length_le hge]
      cases hj : k - (postorder c.children).length with
      | zero =>
        rw [hj] at h
        cases h
        exact ⟨[], List.append_nil _⟩
      | succ j =>
        rw [hj] at h
        obtain ⟨before, hbefore⟩ := ihrest h
        refine ⟨postorder c.children ++ c :: before, ?_⟩
        rw [List.take_succ_cons, hbefore, List.append_assoc, List.cons_append]

/-- Of what is listed for the blocks of a forest in post-order, what is listed for those that are
below no other. -/
def tops : Forest → List α → List α
  | [], _ => []
  | b :: rest, listed =>
    match listed.drop (size b.children) with
    | [] => []
    | top :: listed => top :: tops rest listed

theorem tops_cons {b : Block} {below : List α} (h : below.length = size b.children) (rest : Forest)
    (top : α) (listed : List α) :
    tops (b :: rest) (below ++ top :: listed) = top :: tops rest listed := by
  rw [tops, ← h, List.drop_left]

theorem tops_postorder (f : Forest) : tops f (postorder f) = f := by
  induction f with
  | nil => rfl
  | cons b rest ih => rw [postorder_cons, tops_cons (length_postorder b.children), ih]

theorem tops_map (g : α → β) (f : Forest) (listed : List α) :
    tops f (listed.map g) = (tops f listed).map g := by
  induction f generalizing listed with
  | nil => rfl
  | cons b rest ih =>
    rw [tops, tops, ← List.map_drop]
    cases listed.drop (size b.children) with
    | nil => rfl
    | cons top listed => exact congrArg (g top :: ·) (ih listed)

end Forest

namespace Block

variable {α β : Type}

/-- What is listed for the children of the block, in a list that ends with what is listed in
post-order for all blocks below it. -/
def ofChildren (b : Block) (listed : List α) : List α :=
  Forest.tops b.children (listed.rtake (Forest.size b.children))

theorem ofChildren_append {b : Block} {below : List α} (h : below.length = Forest.size b.children)
    (before : List α) : b.ofChildren (before ++ below) = Forest.tops b.children below := by
  rw [ofChildren, List.rtake, List.length_append, h, Nat.add_sub_cancel, List.drop_left]

theorem ofChildren_map (g : α → β) (b : Block) (listed : List α) :
    b.ofChildren (listed.map g) = (b.ofChildren listed).map g := by
  rw [ofChildren, List.rtake, List.length_map, ← List.map_drop, Forest.tops_map]
  rfl

/-- In the list of the blocks themselves, what is listed for the children are the children. -/
theorem ofChildren_take_postorder {f : Forest} {k : Nat} {b : Block}
    (h : (Forest.postorder f)[k]? = some b) :
    b.ofChildren ((Forest.postorder f).take k) = b.children := by
  obtain ⟨before, hbefore⟩ := Forest.exists_take_postorder_eq h
  rw [hbefore, ofChildren_append (Forest.length_postorder b.children), Forest.tops_postorder]

end Block

/-! ### The loop -/

namespace Forest

section

variable {m : Type → Type} [Monad m]

/-- One more call, after those that made all these: of the block with its children as they were
made. -/
def callNext (change : Block → m Block) (made : List Block) (b : Block) : m (List Block) := do
  let c ← change { b with children := b.ofChildren made }
  return made ++ [c]

variable [LawfulMonad m]

theorem rebuildM_cons (change : Block → m Block) (b : Block) (rest : Forest) :
    rebuildM change (b :: rest) = do
      let children ← rebuildM change b.children
      let c ← change { b with children }
      let rest ← rebuildM change rest
      return c :: rest := by
  cases b
  simp [rebuildM, Block.rebuildM]

theorem foldlM_callNext_concat (change : Block → m Block) (l made : List Block) (b : Block) :
    (l ++ [b]).foldlM (callNext change) made = do
      let made ← l.foldlM (callNext change) made
      let c ← change { b with children := b.ofChildren made }
      return made ++ [c] := by
  simp [callNext]

/-- What comes after the loop may count on one new block for each. -/
theorem foldlM_callNext_bind_congr {γ : Type} {change : Block → m Block} {l made : List Block}
    {next next' : List Block → m γ}
    (h : ∀ new, new.length = l.length → next (made ++ new) = next' (made ++ new)) :
    l.foldlM (callNext change) made >>= next = l.foldlM (callNext change) made >>= next' := by
  induction l generalizing made with
  | nil =>
    have hmade := h [] rfl
    rw [List.append_nil] at hmade
    simpa using hmade
  | cons b l ih =>
    simp only [List.foldlM_cons, callNext, bind_assoc, pure_bind]
    refine bind_congr fun c => ih fun new hnew => ?_
    rw [List.append_assoc]
    exact h ([c] ++ new) (by simp [hnew])

/-- After any other calls, the loop makes of a forest what the forest is rebuilt to. -/
theorem map_foldlM_callNext (change : Block → m Block) (f : Forest) (made : List Block) :
    (fun all => tops f (all.drop made.length)) <$> (postorder f).foldlM (callNext change) made =
      rebuildM change f := by
  induction f using induct generalizing made with
  | nil => simp [postorder, rebuildM, tops]
  | cons b rest ihb ihrest =>
    -- Both sides begin with the loop through the blocks below, and go on with the call for the
    -- first block, which is given the same children.
    rw [rebuildM_cons, ← ihb made, postorder_cons, List.foldlM_append]
    simp only [List.foldlM_cons, callNext, map_bind, bind_assoc, pure_bind, bind_map_left]
    refine foldlM_callNext_bind_congr fun below hbelow => ?_
    rw [length_postorder] at hbelow
    rw [Block.ofChildren_append hbelow, List.drop_left]
    refine bind_congr fun c => ?_
    -- The calls for the blocks beside it come after all those.
    rw [← ihrest (made ++ below ++ [c]), map_eq_pure_bind, bind_map_left]
    refine foldlM_callNext_bind_congr fun new _ => ?_
    rw [List.drop_left, List.append_assoc, List.append_assoc, List.drop_left, List.singleton_append,
      tops_cons hbelow]

/-- To rebuild a forest is a loop through its blocks in post-order, with one call for each. -/
theorem rebuildM_eq_foldlM (change : Block → m Block) (f : Forest) :
    rebuildM change f = tops f <$> (postorder f).foldlM (callNext change) [] :=
  (map_foldlM_callNext change f []).symm

end

end Forest

/-! ### Calls with a state -/

namespace Block

/-- A call of a function: the block it was given, and the block it made of it. -/
structure Call where
  given : Block
  made : Block

/-- The function that besides takes a note of each call. -/
def noted {m : Type → Type} [Monad m] (change : Block → m Block) (b : Block) :
    StateT (List Call) m Block := fun calls => do
  let c ← change b
  return (c, calls ++ [⟨b, c⟩])

end Block

namespace Forest

open Block (Call noted)

variable {σ : Type} {change : Block → StateM σ Block} {l : List Block} {s t : σ}
  {calls : List Call} {f g : Forest}

theorem run_bind_of_run {α β : Type} {x : StateM σ α} {next : α → StateM σ β} {a : α}
    (h : x.run s = (a, t)) : (x >>= next).run s = (next a).run t := by
  rw [StateT.run_bind, h]
  rfl

theorem run_noted {b c : Block} (h : (change b).run s = (c, t)) (calls : List Call) :
    ((noted change b).run calls).run s = ((c, calls ++ [⟨b, c⟩]), t) :=
  run_bind_of_run h

/-- From one state to another, the function is called once for each block of the list. -/
structure Called (change : Block → StateM σ Block) (l : List Block) (s : σ) (calls : List Call)
    (t : σ) : Prop where
  /-- There are as many calls as blocks. -/
  once : calls.length = l.length
  /-- The call for a block is given the block, with its children as the calls before it made them.
  -/
  given : ∀ k (b : Block), l[k]? = some b → (calls.map Call.given)[k]? =
    some { b with children := b.ofChildren ((calls.map Call.made).take k) }
  /-- The calls come one after another, each in the state that the one before has left. -/
  threaded : ((calls.map Call.given).mapM change).run s = (calls.map Call.made, t)

theorem called_nil (change : Block → StateM σ Block) (s : σ) : Called change [] s [] s :=
  ⟨rfl, nofun, rfl⟩

theorem Called.concat (h : Called change l s calls t) {b c : Block} {u : σ}
    (hc : (change { b with children := b.ofChildren (calls.map Call.made) }).run t = (c, u)) :
    Called change (l ++ [b]) s
      (calls ++ [⟨{ b with children := b.ofChildren (calls.map Call.made) }, c⟩]) u where
  once := by rw [List.length_append, List.length_append, h.once]; rfl
  given k b' hb' := by
    have hmade : (calls.map Call.made).length = l.length := by rw [List.length_map, h.once]
    have hgiven : (calls.map Call.given).length = l.length := by rw [List.length_map, h.once]
    rw [List.map_append, List.map_append]
    rcases Nat.lt_or_ge k l.length with hlt | hge
    · rw [List.getElem?_append_left hlt] at hb'
      rw [List.getElem?_append_left (hgiven ▸ hlt), h.given k b' hb',
        List.take_append_of_le_length (hmade ▸ hlt.le)]
    · obtain ⟨hk, -⟩ := List.getElem?_eq_some_iff.mp hb'
      rw [List.length_append, List.length_singleton] at hk
      obtain rfl : k = l.length := by omega
      rw [List.getElem?_concat_length] at hb'
      cases hb'
      rw [List.take_left' hmade, ← hgiven]
      exact List.getElem?_concat_length
  threaded := by
    rw [List.map_append, List.map_append, List.mapM_append, run_bind_of_run h.threaded,
      List.map_singleton, List.mapM_cons, bind_assoc, run_bind_of_run hc]
    rfl

/-- The loop calls the function once for each block, and the notes make no difference to it. -/
theorem exists_called (change : Block → StateM σ Block) (l : List Block) (s : σ) :
    ∃ calls t, Called change l s calls t ∧
      (l.foldlM (callNext change) []).run s = (calls.map Call.made, t) ∧
      ((l.foldlM (callNext (noted change)) []).run []).run s =
        ((calls.map Call.made, calls), t) := by
  induction l using List.reverseRecOn with
  | nil => exact ⟨[], s, called_nil change s, rfl, rfl⟩
  | append_singleton l b ih =>
    obtain ⟨calls, t, hcalled, hplain, hnoted⟩ := ih
    obtain ⟨c, u, hc⟩ : ∃ c u,
        (change { b with children := b.ofChildren (calls.map Call.made) }).run t = (c, u) :=
      ⟨_, _, rfl⟩
    refine ⟨_, u, hcalled.concat hc, ?_, ?_⟩
    · rw [foldlM_callNext_concat, run_bind_of_run hplain, run_bind_of_run hc, List.map_append]
      rfl
    · rw [foldlM_callNext_concat, StateT.run_bind, run_bind_of_run hnoted, StateT.run_bind,
        run_bind_of_run (run_noted hc calls), List.map_append]
      rfl

/-! ### The shape of what is made -/

/-- The call that is made for a block of a forest. -/
theorem Called.exists_call (h : Called change l s calls t) {k : Nat} {b : Block}
    (hb : l[k]? = some b) : ∃ call, calls[k]? = some call ∧
      call.given = { b with children := b.ofChildren ((calls.map Call.made).take k) } := by
  have hgiven := h.given k b hb
  rw [List.getElem?_map] at hgiven
  exact Option.map_eq_some_iff.mp hgiven

/-- If the blocks made so far have the shapes of those of the forest, then so has the block that is
given next: its children are taken from the places of the children. -/
theorem shape_with_ofChildren {k : Nat} {b : Block} {made : List Block}
    (hb : (postorder f)[k]? = some b)
    (hmade : made.map Block.shape = ((postorder f).take k).map Block.shape) :
    { b with children := b.ofChildren made }.shape = b.shape := by
  have hchildren : shape (b.ofChildren made) = shape b.children := by
    calc shape (b.ofChildren made)
      _ = b.ofChildren (made.map Block.shape) := by rw [shape_eq_map, Block.ofChildren_map]
      _ = b.ofChildren (((postorder f).take k).map Block.shape) := by rw [hmade]
      _ = shape b.children := by
        rw [Block.ofChildren_map, Block.ofChildren_take_postorder hb, shape_eq_map]
  exact Block.shape_eq_iff.mpr ⟨rfl, rfl, hchildren⟩

/-- If no call changes the shape of what it is given, the blocks made have the shapes of those of
the forest. -/
theorem Called.shape_made (h : Called change (postorder f) s calls t)
    (hkeeps : ∀ call ∈ calls, call.made.shape = call.given.shape) (k : Nat) :
    ((calls.map Call.made).take k).map Block.shape = ((postorder f).take k).map Block.shape := by
  induction k with
  | zero => rfl
  | succ k ih =>
    rw [List.take_add_one, List.take_add_one, List.map_append, List.map_append, ih,
      List.getElem?_map]
    congr 1
    cases hb : (postorder f)[k]? with
    | none =>
      have hnone : calls[k]? = none := by
        rw [List.getElem?_eq_none_iff] at hb ⊢
        exact h.once ▸ hb
      rw [hnone]
      rfl
    | some b =>
      obtain ⟨call, hcall, hgiven⟩ := h.exists_call hb
      have hshape : call.made.shape = b.shape := by
        rw [hkeeps call (List.mem_of_getElem? hcall), hgiven, shape_with_ofChildren hb ih]
      rw [hcall]
      exact congrArg ([·]) hshape

theorem Called.shape_tops (h : Called change (postorder f) s calls t)
    (hkeeps : ∀ call ∈ calls, call.made.shape = call.given.shape) :
    shape (tops f (calls.map Call.made)) = shape f := by
  have hall := h.shape_made hkeeps (postorder f).length
  rw [List.take_length, ← h.once, ← List.length_map Call.made, List.take_length] at hall
  rw [shape_eq_map, ← tops_map, hall, tops_map, tops_postorder, ← shape_eq_map]

/-- **To rebuild a forest is to call the function once for each block, children first.** Post-order
lists every block as often as pre-order, and right before it all that is below it. The forest is
rebuilt by a loop through that list, with one call for each block, whatever the function does
besides. If it keeps a state, then as many calls are noted as there are blocks; each is given the
block that is its turn, with its children as earlier calls made them, in the state that the call
before has left; and the forest becomes what was made of the blocks that are below no other. So if
each call keeps identifier, kind and children, then the forest keeps its shape, and the identifiers
in pre-order. -/
theorem rebuilt_call_by_call (f : Forest) :
    ((postorder f).Perm (preorder f) ∧ tops f (postorder f) = f ∧
      ∀ k b, (postorder f)[k]? = some b →
        (∃ before, (postorder f).take k = before ++ postorder b.children) ∧
        b.ofChildren ((postorder f).take k) = b.children) ∧
    (∀ (m : Type → Type) [Monad m] [LawfulMonad m] (change : Block → m Block),
      rebuildM change f = tops f <$> (postorder f).foldlM (callNext change) []) ∧
    ∀ (σ : Type) (change : Block → StateM σ Block) (s : σ), ∃ calls g t,
      ((rebuildM (noted change) f).run []).run s = ((g, calls), t) ∧
      (rebuildM change f).run s = (g, t) ∧
      calls.length = size f ∧ Called change (postorder f) s calls t ∧
      g = tops f (calls.map Call.made) ∧
      ((∀ call ∈ calls, call.made.id = call.given.id ∧ call.made.kind = call.given.kind ∧
          call.made.children = call.given.children) →
        shape g = shape f ∧ ids g = ids f) := by
  refine ⟨⟨postorder_perm f, tops_postorder f, fun k b hb =>
      ⟨exists_take_postorder_eq hb, Block.ofChildren_take_postorder hb⟩⟩,
    fun m _ _ change => rebuildM_eq_foldlM change f, fun σ change s => ?_⟩
  obtain ⟨calls, t, hcalled, hplain, hnoted⟩ := exists_called change (postorder f) s
  refine ⟨calls, _, t, ?_, ?_, hcalled.once.trans (length_postorder f), hcalled, rfl,
    fun hkeeps => ?_⟩
  · rw [rebuildM_eq_foldlM, StateT.run_map, map_eq_pure_bind, run_bind_of_run hnoted]
    rfl
  · rw [rebuildM_eq_foldlM, map_eq_pure_bind, run_bind_of_run hplain]
    rfl
  · have hshape : shape (tops f (calls.map Call.made)) = shape f :=
      hcalled.shape_tops fun call hcall => by
        obtain ⟨hid, hkind, hchildren⟩ := hkeeps call hcall
        exact Block.shape_eq_iff.mpr ⟨hid, hkind, congrArg shape hchildren⟩
    exact ⟨hshape, ids_eq_of_shape_eq hshape⟩

/-- Two repetitions, one in the other and each with another block after it. -/
def canon : Forest :=
  [{ id := .str "verse", kind := .str "repeat", children :=
      [{ id := .str "voice", kind := .str "repeat", children :=
          [{ id := .str "step", kind := .str "move" }] },
        { id := .str "rest", kind := .str "turn" }] },
    { id := .str "end", kind := .str "say" }]

/-- Gives a block its number in place of its parameters, and counts. -/
def number (b : Block) : StateM Nat Block := fun n =>
  ({ b with params := .object [("n", .num (.int n))] }, n + 1)

/-- The five blocks are numbered children first, and each stays in its place. -/
theorem canon_numbered : ∃ calls g,
    ((rebuildM (noted number) canon).run []).run 1 = ((g, calls), 6) ∧
      calls.length = size canon ∧
      calls.map (·.given.id) = [.str "step", .str "voice", .str "rest", .str "verse", .str "end"] ∧
      (∀ call ∈ calls, call.made.id = call.given.id ∧ call.made.kind = call.given.kind ∧
        call.made.children = call.given.children) ∧
      shape g = shape canon ∧ ids g = ids canon := by
  obtain ⟨calls, g, t, hrun, -, hlength, -, -, hkeeps⟩ :=
    (rebuilt_call_by_call canon).2.2 Nat number 1
  have hkept : ∀ call ∈ calls, call.made.id = call.given.id ∧ call.made.kind = call.given.kind ∧
      call.made.children = call.given.children := by
    cases hrun
    simp
  obtain rfl : t = 6 := by cases hrun; rfl
  exact ⟨calls, g, hrun, hlength, by cases hrun; rfl, hkept, hkeeps hkept⟩

end Forest

end SpriteStage
