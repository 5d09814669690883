import SpriteStage.Proofs.Forest.Shape
import SpriteStage.Proofs.Snapshot.Frame
import SpriteStage.Proofs.Walk.Leaf

/-!
# How a program is walked

The interpreter holds blocks that it has taken from the program earlier, and looks each of them up
before it begins it. As long as nobody changes the shape of the program, it finds each of them, with
the parameters of that moment. So the walk can be told as the work on a list of blocks
(`Interpreter.Visit`): the first of them is found in the store and begun, it asks for what its leaf
asks for, and if it repeats its children, these are put in front of the others as often as its
parameters say then.

The interpreter visits its blocks in just that way (`Interpreter.visits_each`), whatever others do
while it waits, if only they keep the shape.
-/

namespace SpriteStage

/-- The programs of the two actors have the same shape. -/
def Actor.SameShape (a b : Actor) : Prop := Forest.shape b.blocks = Forest.shape a.blocks

theorem Actor.sameShape_of_eq {a b : Actor} (h : b.blocks = a.blocks) : a.SameShape b :=
  congrArg Forest.shape h

namespace Snapshot

variable {s : Snapshot} {actorId : Datum} {K : Forest} {b : Block}

/-- The actor has a program of the shape `K`. -/
def HasShape (s : Snapshot) (actorId : Datum) (K : Forest) : Prop :=
  ∃ a, s.actor? actorId = some a ∧ Forest.shape a.blocks = K

/-- The block is what is found under its identifier in the program of the actor. -/
def Holds (s : Snapshot) (actorId : Datum) (b : Block) : Prop :=
  ∃ a, s.actor? actorId = some a ∧ Forest.find? b.id a.blocks = some b

/-- A block that is in the shape of the program is found, with its parameters of now. -/
theorem HasShape.current (h : s.HasShape actorId K) (hd : Forest.Distinct K) (hn : Forest.Named K)
    (hb : b.shape ∈ Forest.preorder K) :
    s.Holds actorId (s.current actorId b) ∧ (s.current actorId b).shape = b.shape ∧
      (s.current actorId b).kind.IsText := by
  obtain ⟨a, ha, rfl⟩ := h
  have hda : Forest.Distinct a.blocks :=
    Forest.distinct_of_shape_eq (Forest.shape_shape a.blocks) hd
  have hna : Forest.Named a.blocks := Forest.named_shape_iff.mp hn
  obtain ⟨c, hc, hmem, hcb⟩ := Forest.exists_find?_of_shape hda (fun d hd => (hna d hd).id) hb
  have hcur : s.current actorId b = c := by
    rw [Snapshot.current, ha, Option.bind_some, hc, Option.getD_some]
  rw [hcur]
  refine ⟨⟨a, ha, ?_⟩, hcb, (hna c hmem).kind⟩
  rw [(Block.shape_eq_iff.mp hcb).1]
  exact hc

/-- If all programs keep their shapes, so does that of the actor. -/
theorem HasShape.of_match (h : s.HasShape actorId K) {s' : Snapshot}
    (hm : s.Match Actor.SameShape s') : s'.HasShape actorId K := by
  obtain ⟨a, ha, rfl⟩ := h
  exact hm.actor? ha

/-- Changes of attributes leave the shape of a program as it is. -/
theorem HasShape.updateActor (h : s.HasShape actorId K) (id changes : Datum) :
    (s.after (.updateActor id changes)).HasShape actorId K :=
  h.of_match (match_updateActor (fun _ _ => Actor.sameShape_of_eq) s id changes)

end Snapshot

/-- Others keep the shape `K` of the program of the actor. -/
def ShapeKept (others : Snapshot → Snapshot → Prop) (actorId : Datum) (K : Forest) : Prop :=
  ∀ s s', s.HasShape actorId K → others s s' → s'.HasShape actorId K

theorem Met.hasShape {others : Snapshot → Snapshot → Prop} {actorId : Datum} {K : Forest}
    (keep : ShapeKept others actorId K) {rs : List Request} {s s' : Snapshot}
    (h : Met others rs s s') (hown : ∀ r ∈ rs, Interpreter.Own actorId r)
    (hs : s.HasShape actorId K) : s'.HasShape actorId K := by
  induction h with
  | nil => exact hs
  | action _ ih =>
    obtain ⟨hr, hrest⟩ := List.forall_mem_cons.mp hown
    cases hr with
    | change changes => exact ih hrest (hs.updateActor _ _)
  | wait hothers _ ih =>
    exact ih (List.forall_mem_cons.mp hown).2 (keep _ _ hs hothers)

namespace Interpreter

variable (I : Interpreter) (actorId : Datum)

/-- What comes of a block that is begun: what it asks for, and the blocks that are then to be done
before all others; or why it fails. -/
def effect (s : Snapshot) (now : Number) (b : Block) : Except Fault (List Request × Forest) :=
  if b.kind? = some .loop then (count b).map fun n => ([], (List.replicate n b.children).flatten)
  else (I.leaf actorId s now b).map (·, [])

section

variable {I} {actorId} {s : Snapshot} {now : Number} {b : Block} {rs : List Request}
  {inner : Forest} {fault : Fault}

theorem count_of_effect_error (hl : b.kind? = some .loop)
    (h : I.effect actorId s now b = .error fault) : count b = .error fault := by
  rw [effect, if_pos hl] at h
  cases hc : count b with
  | error e => rw [hc] at h; cases h; rfl
  | ok n => rw [hc] at h; cases h

theorem leaf_of_effect_error (hl : b.kind? ≠ some .loop)
    (h : I.effect actorId s now b = .error fault) : I.leaf actorId s now b = .error fault := by
  rw [effect, if_neg hl] at h
  cases hc : I.leaf actorId s now b with
  | error e => rw [hc] at h; cases h; rfl
  | ok rs => rw [hc] at h; cases h

theorem count_of_effect_ok (hl : b.kind? = some .loop)
    (h : I.effect actorId s now b = .ok (rs, inner)) :
    ∃ n, count b = .ok n ∧ rs = [] ∧ inner = (List.replicate n b.children).flatten := by
  rw [effect, if_pos hl] at h
  cases hc : count b with
  | error e => rw [hc] at h; cases h
  | ok n => rw [hc] at h; cases h; exact ⟨n, rfl, rfl, rfl⟩

theorem leaf_of_effect_ok (hl : b.kind? ≠ some .loop)
    (h : I.effect actorId s now b = .ok (rs, inner)) :
    I.leaf actorId s now b = .ok rs ∧ inner = [] := by
  rw [effect, if_neg hl] at h
  cases hc : I.leaf actorId s now b with
  | error e => rw [hc] at h; cases h
  | ok rs => rw [hc] at h; cases h; exact ⟨rfl, rfl⟩

end

/-- The blocks of a list are done one after the other, from one snapshot to another; `trail` is what
is seen of it, and `fault` why it comes to a halt, if it does. -/
inductive Visit (others : Snapshot → Snapshot → Prop) :
    List Block → Snapshot → List Footprint → Snapshot → Option Fault → Prop
  | nil {s : Snapshot} : Visit others [] s [] s none
  /-- A block of a kind that is not known is passed over. -/
  | skip {b : Block} {rest : List Block} {s s' : Snapshot} {trail : List Footprint}
      {fault : Option Fault} :
      b.kind? = none → Visit others rest s trail s' fault → Visit others (b :: rest) s trail s' fault
  /-- A block fails. -/
  | halt {b c : Block} {rest : List Block} {s : Snapshot} {now : Number} {fault : Fault} :
      s.Holds actorId c → c.shape = b.shape → b.kind? ≠ none →
      I.effect actorId s now c = .error fault →
      Visit others (b :: rest) s [.began ⟨s, now, c⟩] s (some fault)
  /-- A block is done. -/
  | step {b c : Block} {rest inner : List Block} {s s₁ s' : Snapshot} {now : Number}
      {rs : List Request} {trail : List Footprint} {fault : Option Fault} :
      s.Holds actorId c → c.shape = b.shape → b.kind? ≠ none →
      I.effect actorId s now c = .ok (rs, inner) → Met others rs s s₁ →
      Visit others (inner ++ rest) s₁ trail s' fault →
      Visit others (b :: rest) s (.began ⟨s, now, c⟩ :: (rs.map .asked ++ trail)) s' fault

namespace Visit

variable {I} {actorId} {others : Snapshot → Snapshot → Prop} {bs cs : List Block}
  {s s₁ s' : Snapshot} {t t' : List Footprint} {e : Option Fault}

/-- After a list that is done, another one can be done. -/
theorem append (h : Visit I actorId others bs s t s₁ none)
    (h' : Visit I actorId others cs s₁ t' s' e) :
    Visit I actorId others (bs ++ cs) s (t ++ t') s' e := by
  generalize hnone : (none : Option Fault) = e₁ at h
  induction h with
  | nil => exact h'
  | skip hk _ ih => exact .skip hk (ih h' hnone)
  | halt => cases hnone
  | step hc hcb hk heff hmet _ ih =>
    have htail := ih h' hnone
    rw [List.append_assoc] at htail
    rw [List.cons_append, List.cons_append, List.append_assoc]
    exact .step hc hcb hk heff hmet htail

/-- After a halt, nothing more is done. -/
theorem append_halted {fault : Fault} (h : Visit I actorId others bs s t s' (some fault))
    (cs : List Block) : Visit I actorId others (bs ++ cs) s t s' (some fault) := by
  generalize hsome : some fault = e at h ⊢
  induction h with
  | nil => cases hsome
  | skip hk _ ih => exact .skip hk (ih hsome)
  | halt hc hcb hk heff => exact .halt hc hcb hk heff
  | step hc hcb hk heff hmet _ ih =>
    have htail := ih hsome
    rw [List.append_assoc] at htail
    exact .step hc hcb hk heff hmet htail

/-- Only the shape of the blocks matters, for their parameters are looked up. -/
theorem congr_shape (h : Visit I actorId others bs s t s' e) {cs : List Block}
    (hs : Forest.shape cs = Forest.shape bs) : Visit I actorId others cs s t s' e := by
  induction h generalizing cs with
  | nil =>
    cases cs with
    | nil => exact .nil
    | cons => cases hs
  | @skip b rest _ _ _ _ hk _ ih =>
    cases cs with
    | nil => cases hs
    | cons c cs =>
      obtain ⟨hcb, hrest⟩ := List.cons.inj hs
      have hkind : c.kind? = b.kind? := Block.kind?_congr (Block.shape_eq_iff.mp hcb).2.1
      exact .skip (hkind.trans hk) (ih hrest)
  | @halt b d rest _ _ _ hd hdb hk heff =>
    cases cs with
    | nil => cases hs
    | cons c cs =>
      obtain ⟨hcb, hrest⟩ := List.cons.inj hs
      have hkind : c.kind? = b.kind? := Block.kind?_congr (Block.shape_eq_iff.mp hcb).2.1
      exact .halt hd (hdb.trans hcb.symm) (hkind ▸ hk) heff
  | @step b d rest inner _ _ _ _ _ _ _ hd hdb hk heff hmet _ ih =>
    cases cs with
    | nil => cases hs
    | cons c cs =>
      obtain ⟨hcb, hrest⟩ := List.cons.inj hs
      have hkind : c.kind? = b.kind? := Block.kind?_congr (Block.shape_eq_iff.mp hcb).2.1
      refine .step hd (hdb.trans hcb.symm) (hkind ▸ hk) heff hmet (ih ?_)
      rw [Forest.shape_append, Forest.shape_append, hrest]

end Visit

/-! ### The interpreter visits its blocks -/

variable {σ ι τ : Type} [DecidableEq ι] {S : Surroundings σ ι} {answer : Company σ ι τ}
  {others : Snapshot → Snapshot → Prop} {I : Interpreter} {actorId : Datum} {K : Forest}

variable (S answer others I actorId K) in
/-- While the program has the shape `K`, the attempt visits the blocks. -/
def Visits (bs : List Block) (x : Attempt Unit) : Prop :=
  ∀ ⦃s : Snapshot⦄ ⦃p : Scene σ ι × τ⦄, At s p → s.HasShape actorId K →
    ∃ t p' s' e, Leads S answer x p t p' (outcome e) ∧ At s' p' ∧ s'.HasShape actorId K ∧
      Visit I actorId others bs s t s' e

namespace Visits

variable {bs cs : List Block} {x y : Attempt Unit}

theorem nil : Visits S answer others I actorId K [] (pure ()) :=
  fun s p hp hs => ⟨[], p, s, none, .pure () p, hp, hs, .nil⟩

/-- One after the other, both lists are visited. -/
theorem seq (hx : Visits S answer others I actorId K bs x)
    (hy : Visits S answer others I actorId K cs y) :
    Visits S answer others I actorId K (bs ++ cs) (do x; y) := by
  intro s p hp hs
  obtain ⟨t, p₁, s₁, e, hlead, hp₁, hs₁, hv⟩ := hx hp hs
  cases e with
  | some fault =>
    exact ⟨t, p₁, s₁, some fault, hlead.bind_error, hp₁, hs₁, hv.append_halted cs⟩
  | none =>
    obtain ⟨t', p₂, s₂, e', hlead', hp₂, hs₂, hv'⟩ := hy hp₁ hs₁
    exact ⟨t ++ t', p₂, s₂, e', hlead.bind hlead', hp₂, hs₂, hv.append hv'⟩

theorem times (hx : Visits S answer others I actorId K bs x) (n : Nat) :
    Visits S answer others I actorId K (List.replicate n bs).flatten (Attempt.times n x) := by
  induction n with
  | zero => exact nil
  | succ n ih =>
    rw [List.replicate_succ, List.flatten_cons]
    exact seq hx ih

theorem each {body : Block → Attempt Unit}
    (h : ∀ b ∈ bs, Visits S answer others I actorId K [b] (body b)) :
    Visits S answer others I actorId K bs (Attempt.each body bs) := by
  induction bs with
  | nil => exact nil
  | cons b rest ih =>
    obtain ⟨hb, hrest⟩ := List.forall_mem_cons.mp h
    exact seq hb (ih hrest)

end Visits

section

variable {s : Snapshot} {p p' : Scene σ ι × τ} {room : Nat} {b c : Block}
  (hp : At s p) (hcur : s.current actorId b = c) (htext : c.kind.IsText)

include hp hcur htext

omit hcur in
/-- A block whose kind is a text is passed over without fail. -/
theorem skip_leads :
    ∃ p', Leads S answer (skip c) p [] p' (.ok ()) ∧ At s p' := by
  obtain ⟨name, hname⟩ := htext
  have hwritten : c.kind.written = .ok (Text.quoted name) := by
    rw [hname]
    rfl
  obtain ⟨p', hlog, hp'⟩ := Leads.log hp _
  exact ⟨p', (Leads.ofExcept_ok hwritten p).bind_silent hlog, hp'⟩

theorem step_leads_unknown (hk : c.kind? = none) :
    ∃ p', Leads S answer (I.step actorId room b) p [] p' (.ok ()) ∧ At s p' := by
  have hlatest : Leads S answer (latest actorId b) p [] p (.ok c) := hcur ▸ latest_leads hp b
  have hkind := BlockKind.ofDatum_kind htext
  rw [hk] at hkind
  obtain ⟨p', hskip, hp'⟩ : ∃ p', Leads S answer (skip c) p [] p' (.ok ()) ∧ At s p' :=
    skip_leads hp htext
  refine ⟨p', ?_, hp'⟩
  rw [step_eq]
  exact hlatest.bind_silent ((Leads.ofExcept_ok hkind p).bind_silent hskip)

theorem step_leads {kind : BlockKind} (hk : c.kind? = some kind) {l : List Footprint}
    {e : Except Interruption Unit} (h : Leads S answer (I.attend actorId room c kind) p l p' e) :
    Leads S answer (I.step actorId room b) p (.began ⟨s, S.now p.1.memory, c⟩ :: l) p' e := by
  have hlatest : Leads S answer (latest actorId b) p [] p (.ok c) := hcur ▸ latest_leads hp b
  have hkind := BlockKind.ofDatum_kind htext
  rw [hk] at hkind
  rw [step_eq]
  exact hlatest.bind_silent ((Leads.ofExcept_ok hkind p).bind_silent ((Leads.begin hp c).bind h))

end

/-- A block is visited, if what is below it is visited once it has been begun. -/
theorem visits_step (calm : S.Calm) (within : answer.Within others)
    (keep : ShapeKept others actorId K) (hd : Forest.Distinct K) (hn : Forest.Named K) {room : Nat}
    {b : Block} (hb : b.shape ∈ Forest.preorder K)
    (hinner : ∀ c : Block, c.shape = b.shape →
      Visits S answer others I actorId K c.children
        (Attempt.each (I.step actorId room) c.children)) :
    Visits S answer others I actorId K [b] (I.step actorId (room + 1) b) := by
  intro s p hp hs
  obtain ⟨hc, hcb, htext⟩ := hs.current hd hn hb
  generalize hcur : s.current actorId b = c at hc hcb htext
  have hkind : c.kind? = b.kind? := Block.kind?_congr (Block.shape_eq_iff.mp hcb).2.1
  cases hk : c.kind? with
  | none =>
    obtain ⟨p', hlead, hp'⟩ := step_leads_unknown (S := S) hp hcur htext hk
    exact ⟨[], p', s, none, hlead, hp', hs, .skip (hkind ▸ hk) .nil⟩
  | some kind =>
    have hbk : b.kind? ≠ none := by rw [← hkind, hk]; simp
    by_cases hl : kind = .loop
    · subst hl
      have hattend : I.attend actorId (room + 1) c .loop = (do
          let n ← Attempt.ofExcept (count c)
          Attempt.times n (Attempt.each (I.step actorId room) c.children)) := if_pos rfl
      cases hcount : count c with
      | error fault =>
        have heff : I.effect actorId s (S.now p.1.memory) c = .error fault := by
          rw [effect, if_pos hk, hcount]; rfl
        have hlead : Leads S answer (I.attend actorId (room + 1) c .loop) p [] p
            (outcome (some fault)) := hattend ▸ (Leads.ofExcept_error hcount p).bind_error
        exact ⟨_, p, s, some fault, step_leads hp hcur htext hk hlead, hp, hs,
          .halt hc hcb hbk heff⟩
      | ok n =>
        have heff : I.effect actorId s (S.now p.1.memory) c =
            .ok ([], (List.replicate n c.children).flatten) := by
          rw [effect, if_pos hk, hcount]; rfl
        obtain ⟨t, p', s', e, hlead, hp', hs', hv⟩ := (hinner c hcb).times n hp hs
        refine ⟨_, p', s', e, step_leads hp hcur htext hk
          (hattend ▸ (Leads.ofExcept_ok hcount p).bind_silent hlead), hp', hs', ?_⟩
        refine .step hc hcb hbk heff .nil ?_
        rw [List.append_nil]
        exact hv
    · have hattend : I.attend actorId (room + 1) c kind = I.handle actorId c kind := if_neg hl
      have heff : I.effect actorId s (S.now p.1.memory) c =
          (I.leaf actorId s (S.now p.1.memory) c).map (·, []) := by
        rw [effect, if_neg]
        rw [hk]
        simpa using hl
      have hheeds : Heeds S answer others s p (I.handle actorId c kind)
          (I.leaf actorId s (S.now p.1.memory) c) := handle_heeds calm within hp hk hl
      cases hleaf : I.leaf actorId s (S.now p.1.memory) c with
      | error fault =>
        rw [hleaf] at hheeds heff
        obtain ⟨p', hlead, hp'⟩ := hheeds
        exact ⟨_, p', s, some fault, step_leads hp hcur htext hk (hattend ▸ hlead), hp', hs,
          .halt hc hcb hbk heff⟩
      | ok rs =>
        rw [hleaf] at hheeds heff
        obtain ⟨p', s', hlead, hp', hmet⟩ := hheeds
        have hs' := hmet.hasShape keep (own_of_leaf hleaf) hs
        refine ⟨_, p', s', none, step_leads hp hcur htext hk (hattend ▸ hlead), hp', hs', ?_⟩
        rw [← List.append_nil (rs.map Footprint.asked)]
        exact .step hc hcb hbk heff hmet .nil

/-- **Blocks that stand in the program** are visited, whatever others do that keep its shape. -/
theorem visits_each (calm : S.Calm) (within : answer.Within others)
    (keep : ShapeKept others actorId K) (hd : Forest.Distinct K) (hn : Forest.Named K) (room : Nat)
    {bs : List Block} (hb : ∀ b ∈ bs, b.shape ∈ Forest.preorder K)
    (hroom : Forest.depth bs ≤ room) :
    Visits S answer others I actorId K bs (Attempt.each (I.step actorId room) bs) := by
  induction room generalizing bs with
  | zero =>
    cases bs with
    | nil => exact .nil
    | cons b rest =>
      rw [Forest.depth_cons] at hroom
      omega
  | succ room ih =>
    refine .each fun b hmem => visits_step calm within keep hd hn (hb b hmem) fun c hcb => ?_
    have hchildren := (Block.shape_eq_iff.mp hcb).2.2
    refine ih (fun d hd => ?_) ?_
    · refine Forest.mem_preorder_children (hb b hmem) ?_
      rw [Block.shape_children, ← hchildren, Forest.preorder_shape]
      exact List.mem_map_of_mem (Forest.mem_preorder_of_mem hd)
    · have hle := Forest.depth_le_of_mem hmem
      rw [← Forest.depth_shape, hchildren, Forest.depth_shape]
      omega

end Interpreter

end SpriteStage
