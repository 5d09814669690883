import SpriteStage.Proofs.Walk.Leaf

/-!
# The agenda of a run

The interpreter works on an agenda, the blocks that are still to be done. To *take* the first of
them is to look it up, to begin it and to do what it does; if it repeats others, these are put in
front of the rest as often as its parameters say (`Interpreter.take`). The room that the interpreter
has for repetitions inside each other goes with each entry, and is used up by one with each level
(`Interpreter.agenda_cons`).

Without a bound on that room, an agenda that is worked off is a finite derivation
(`Interpreter.Worked`). With room enough the interpreter does just what the derivation says, and how
much more there is makes no difference (`Interpreter.Worked.leads`).
-/

namespace SpriteStage

variable {α β γ : Type}

namespace Walk

theorem bind_assoc (w : Walk α) (f : α → Walk β) (g : β → Walk γ) :
    (w.bind f).bind g = w.bind fun a => (f a).bind g := by
  induction w with
  | done value => rfl
  | look next ih => exact congrArg look (funext fun s => funext fun status => ih s status)
  | begin block next ih => exact congrArg (begin block) ih
  | dispatch action next ih => exact congrArg (dispatch action) (funext ih)
  | wait seconds next ih => exact congrArg (wait seconds) (funext ih)
  | clock next ih => exact congrArg clock (funext ih)
  | enter status next ih => exact congrArg (enter status) ih
  | log line next ih => exact congrArg (log line) ih
  | notify text next ih => exact congrArg (notify text) ih

theorem bind_done (w : Walk α) : w.bind done = w := by
  induction w with
  | done value => rfl
  | look next ih => exact congrArg look (funext fun s => funext fun status => ih s status)
  | begin block next ih => exact congrArg (begin block) ih
  | dispatch action next ih => exact congrArg (dispatch action) (funext ih)
  | wait seconds next ih => exact congrArg (wait seconds) (funext ih)
  | clock next ih => exact congrArg clock (funext ih)
  | enter status next ih => exact congrArg (enter status) ih
  | log line next ih => exact congrArg (log line) ih
  | notify text next ih => exact congrArg (notify text) ih

instance : LawfulMonad Walk :=
  LawfulMonad.mk' Walk bind_done (fun _ _ => rfl) bind_assoc

end Walk

namespace Attempt

theorem each_append (body : α → Attempt Unit) (xs ys : List α) :
    each body (xs ++ ys) = each body xs >>= fun _ => each body ys := by
  induction xs with
  | nil => exact (pure_bind () fun _ => each body ys).symm
  | cons x xs ih => rw [List.cons_append, each, each, ih, bind_assoc]

theorem each_map (body : β → Attempt Unit) (f : α → β) (xs : List α) :
    each body (xs.map f) = each (fun x => body (f x)) xs := by
  induction xs with
  | nil => rfl
  | cons x xs ih => rw [List.map_cons, each, each, ih]

/-- To go through a list some times over is to go once through so many lists. -/
theorem times_each (body : α → Attempt Unit) (n : Nat) (xs : List α) :
    times n (each body xs) = each body (List.replicate n xs).flatten := by
  induction n with
  | zero => rfl
  | succ n ih => rw [List.replicate_succ, List.flatten_cons, each_append, times, ih]

end Attempt

namespace Leads

variable {σ ι τ : Type} [DecidableEq ι] {S : Surroundings σ ι} {answer : Company σ ι τ}
  {x : Attempt α} {f : α → Attempt β} {p p' p'' : Scene σ ι × τ} {l l' : List Footprint}

/-- Every attempt leads somewhere. -/
theorem exists_outcome (S : Surroundings σ ι) (answer : Company σ ι τ) (x : Attempt α)
    (p : Scene σ ι × τ) : ∃ l p' r, Leads S answer x p l p' r := ⟨_, _, _, rfl, rfl⟩

theorem unique {r r' : Except Interruption α} (h : Leads S answer x p l p' r)
    (h' : Leads S answer x p l' p'' r') : l' = l ∧ p'' = p' ∧ r' = r := by
  obtain ⟨hp, hr⟩ := Prod.mk.inj (h'.carry.symm.trans h.carry)
  exact ⟨h'.trail.symm.trans h.trail, hp, hr⟩

/-- What comes after an attempt of which it is known where it leads. -/
theorem rest {a : α} {r : Except Interruption β} (hx : Leads S answer x p l p' (.ok a))
    (h : Leads S answer (x >>= f) p l' p'' r) :
    ∃ l'', Leads S answer (f a) p' l'' p'' r ∧ l' = l ++ l'' := by
  obtain ⟨l'', q, r', hf⟩ := exists_outcome S answer (f a) p'
  obtain ⟨rfl, rfl, rfl⟩ := (hx.bind hf).unique h
  exact ⟨l'', hf, rfl⟩

/-- What comes to a value comes to one first. -/
theorem exists_of_bind_ok {b : β} (h : Leads S answer (x >>= f) p l p'' (.ok b)) :
    ∃ a l₁ l₂ p', Leads S answer x p l₁ p' (.ok a) ∧ Leads S answer (f a) p' l₂ p'' (.ok b) ∧
      l = l₁ ++ l₂ := by
  obtain ⟨l₁, p', r, hx⟩ := exists_outcome S answer x p
  cases r with
  | error e =>
    obtain ⟨-, -, hr⟩ := hx.bind_error.unique h
    cases hr
  | ok a =>
    obtain ⟨l₂, hf, rfl⟩ := hx.rest h
    exact ⟨a, l₁, l₂, p', hx, hf, rfl⟩

theorem look (p : Scene σ ι × τ) :
    Leads S answer Attempt.snapshot p [] p (.ok p.1.state) := ⟨rfl, rfl⟩

theorem started (b : Block) (p : Scene σ ι × τ) :
    Leads S answer (Attempt.begin b) p [.began ⟨p.1.state, S.now p.1.memory, b⟩] p (.ok ()) :=
  ⟨rfl, rfl⟩

/-- A value that is there is come to at once. -/
theorem of_ofExcept {d : Except Fault α} {a : α}
    (h : Leads S answer (Attempt.ofExcept d) p l p' (.ok a)) : p = p' ∧ l = [] := by
  cases d with
  | error fault => cases ((Leads.throw _ p).unique h).2.2
  | ok b => exact ⟨((Leads.pure b p).unique h).2.1.symm, ((Leads.pure b p).unique h).1⟩

end Leads

namespace Interpreter

variable (I : Interpreter) (actorId : Datum)

/-- Takes a block, and comes to the blocks that are to be done next for it. -/
def take (b : Block) : Attempt Forest := do
  let c ← latest actorId b
  match ← Attempt.ofExcept (BlockKind.ofDatum c.kind) with
  | none => do
    skip c
    return []
  | some kind => do
    Attempt.begin c
    if kind = .loop then do
      let n ← Attempt.ofExcept (count c)
      return (List.replicate n c.children).flatten
    else do
      I.handle actorId c kind
      return []

/-- To do a block is to take it and to do what is to be done next for it. -/
theorem step_succ_eq (room : Nat) (b : Block) :
    I.step actorId (room + 1) b = I.take actorId b >>= Attempt.each (I.step actorId room) := by
  rw [step_eq, take, bind_assoc]
  congr 1
  funext c
  rw [bind_assoc]
  congr 1
  funext kind
  cases kind with
  | none =>
    rw [bind_assoc, pure_bind]
    exact bind_pure_unit.symm
  | some kind =>
    rw [bind_assoc]
    refine congrArg (Attempt.begin c >>= ·) (funext fun _ => ?_)
    unfold attend
    by_cases hl : kind = .loop
    · rw [if_pos hl, if_pos hl, bind_assoc]
      refine congrArg (Attempt.ofExcept (count c) >>= ·) (funext fun n => ?_)
      rw [pure_bind, Attempt.times_each]
    · rw [if_neg hl, if_neg hl, bind_assoc, pure_bind]
      exact bind_pure_unit.symm

/-- Does the blocks of an agenda one after the other, each with its room. -/
def agenda (tasks : List (Nat × Block)) : Attempt Unit :=
  Attempt.each (fun task => I.step actorId task.1 task.2) tasks

theorem agenda_map (room : Nat) (bs : List Block) :
    I.agenda actorId (bs.map (room, ·)) = Attempt.each (I.step actorId room) bs :=
  Attempt.each_map _ _ bs

/-- **To work on an agenda** is to take its first block, and to put in front of the others what is
to be done next for it, with less room. -/
theorem agenda_cons (room : Nat) (b : Block) (tasks : List (Nat × Block)) :
    I.agenda actorId ((room + 1, b) :: tasks) =
      I.take actorId b >>= fun inner => I.agenda actorId (inner.map (room, ·) ++ tasks) := by
  rw [agenda, Attempt.each, step_succ_eq, bind_assoc]
  congr 1
  funext inner
  rw [agenda, Attempt.each_append, Attempt.each_map]

/-- The tasks are to do the blocks of a list, each with so much room at least. -/
structure Allotted (room : Nat) (bs : List Block) (tasks : List (Nat × Block)) : Prop where
  blocks : tasks.map (·.2) = bs
  room_le : ∀ task ∈ tasks, room ≤ task.1

theorem allotted_map {n room : Nat} (h : n ≤ room) (bs : List Block) :
    Allotted n bs (bs.map (room, ·)) where
  blocks := by simp [Function.comp_def]
  room_le := List.forall_mem_map.mpr fun _ _ => h

/-- When the first block has been taken there is less room by one for what is to be done next. -/
theorem Allotted.exists_agenda_eq {n : Nat} {b : Block} {rest : List Block}
    {tasks : List (Nat × Block)} (h : Allotted (n + 1) (b :: rest) tasks) :
    ∃ next : Forest → List (Nat × Block), (∀ inner, Allotted n (inner ++ rest) (next inner)) ∧
      I.agenda actorId tasks = I.take actorId b >>= fun inner => I.agenda actorId (next inner) := by
  obtain ⟨hblocks, hroom⟩ := h
  obtain ⟨⟨room, b⟩, tasks, rfl, rfl, rfl⟩ := List.map_eq_cons_iff.mp hblocks
  obtain ⟨hfirst, hrest⟩ := List.forall_mem_cons.mp hroom
  obtain ⟨room, rfl⟩ := Nat.exists_eq_add_one.mpr (Nat.lt_of_lt_of_le n.succ_pos hfirst)
  refine ⟨fun inner => inner.map (room, ·) ++ tasks, fun inner => ⟨?_, ?_⟩,
    I.agenda_cons actorId room b tasks⟩
  · rw [List.map_append, (allotted_map room.le_refl inner).blocks]
  · exact List.forall_mem_append.mpr ⟨(allotted_map (Nat.le_of_succ_le_succ hfirst) inner).room_le,
      fun task htask => Nat.le_of_succ_le (hrest task htask)⟩

/-! ### Agendas that are worked off -/

variable {σ ι τ : Type} [DecidableEq ι] (S : Surroundings σ ι) (answer : Company σ ι τ)

/-- The blocks of a list are taken one after the other, with those that are to be done next for them
in between, until none is left or one comes to a halt. There is no bound on how many repetitions
are inside each other. -/
inductive Worked :
    List Block → Scene σ ι × τ → List Footprint → Scene σ ι × τ → Except Interruption Unit → Prop
  | nil {p : Scene σ ι × τ} : Worked [] p [] p (.ok ())
  | halt {b : Block} {rest : List Block} {p p' : Scene σ ι × τ} {l : List Footprint}
      {e : Interruption} :
      Leads S answer (I.take actorId b) p l p' (.error e) → Worked (b :: rest) p l p' (.error e)
  | next {b : Block} {rest inner : List Block} {p p₁ p' : Scene σ ι × τ} {l l' : List Footprint}
      {r : Except Interruption Unit} :
      Leads S answer (I.take actorId b) p l p₁ (.ok inner) →
      Worked (inner ++ rest) p₁ l' p' r → Worked (b :: rest) p (l ++ l') p' r

variable {I} {actorId} {S} {answer} {p p' : Scene σ ι × τ} {l : List Footprint} {bs : List Block}
  {r : Except Interruption Unit}

/-- There is something to be done next only for a repetition. It is done for its children, in the
form that the block has when it is begun. -/
theorem exists_of_take {b : Block} {inner : Forest}
    (h : Leads S answer (I.take actorId b) p l p' (.ok inner)) :
    inner = [] ∨ ∃ n now, p' = p ∧ .began ⟨p.1.state, now, p.1.state.current actorId b⟩ ∈ l ∧
      inner = (List.replicate n (p.1.state.current actorId b).children).flatten := by
  have hlatest : Leads S answer (latest actorId b) p [] p (.ok (p.1.state.current actorId b)) :=
    (Leads.look p).bind_silent (.pure _ p)
  obtain ⟨l₁, h₁, rfl⟩ := hlatest.rest h
  generalize p.1.state.current actorId b = c at h₁ ⊢
  obtain ⟨kind?, _, _, _, hkind, h₂, rfl⟩ := h₁.exists_of_bind_ok
  obtain ⟨rfl, rfl⟩ := hkind.of_ofExcept
  cases kind? with
  | none =>
    obtain ⟨_, _, _, _, _, h₃, _⟩ := h₂.exists_of_bind_ok
    cases ((Leads.pure [] _).unique h₃).2.2
    exact .inl rfl
  | some kind =>
    obtain ⟨l₃, h₃, rfl⟩ := (Leads.started c p).rest h₂
    by_cases hl : kind = .loop
    · rw [if_pos hl] at h₃
      obtain ⟨n, _, _, _, hn, h₄, rfl⟩ := h₃.exists_of_bind_ok
      obtain ⟨rfl, rfl⟩ := hn.of_ofExcept
      obtain ⟨-, rfl, hinner⟩ := (Leads.pure _ _).unique h₄
      exact .inr ⟨n, S.now p'.1.memory, rfl, by simp, Except.ok.inj hinner⟩
    · rw [if_neg hl] at h₃
      obtain ⟨_, _, _, _, _, h₄, _⟩ := h₃.exists_of_bind_ok
      cases ((Leads.pure [] _).unique h₄).2.2
      exact .inl rfl

/-- **With room enough** an agenda leads to where it is worked off. -/
theorem Worked.leads (h : Worked I actorId S answer bs p l p' r) :
    ∃ n, ∀ tasks, Allotted n bs tasks → Leads S answer (I.agenda actorId tasks) p l p' r := by
  induction h with
  | nil =>
    refine ⟨0, fun tasks htasks => ?_⟩
    obtain rfl := List.map_eq_nil_iff.mp htasks.blocks
    exact .pure () _
  | halt htake =>
    refine ⟨1, fun tasks htasks => ?_⟩
    obtain ⟨next, -, hagenda⟩ := htasks.exists_agenda_eq I actorId
    rw [hagenda]
    exact htake.bind_error
  | next htake _ ih =>
    obtain ⟨n, hn⟩ := ih
    refine ⟨n + 1, fun tasks htasks => ?_⟩
    obtain ⟨next, hnext, hagenda⟩ := htasks.exists_agenda_eq I actorId
    rw [hagenda]
    exact htake.bind (hn _ (hnext _))

end Interpreter

end SpriteStage
