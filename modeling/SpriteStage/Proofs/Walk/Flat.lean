import SpriteStage.Proofs.Walk.Course

/-!
# Flat programs

A program without repetitions is a list of instructions, each a block that repeats nothing. A
program with repetitions is unrolled into one: every repetition becomes its unrolled children, one
after the other, as often as its parameters say. A repetition that cannot say how often becomes an
instruction that fails, and a block of a kind that is not known becomes nothing.

Instructions are performed one after the other, each from the snapshot that the others left. If
nobody else acts, a run asks for just what its unrolled program asks for
(`Interpreter.run_eq_perform`).
-/

namespace SpriteStage

/-- A block that repeats nothing, or why a repetition fails. -/
abbrev Instruction := Except Fault Block

mutual

/-- The block without repetitions. -/
def Block.unroll : Block → List Instruction
  | ⟨id, kind, params, children⟩ =>
    match Block.kind? ⟨id, kind, params, children⟩ with
    | none => []
    | some .loop =>
      match Interpreter.count ⟨id, kind, params, children⟩ with
      | .error fault => [.error fault]
      | .ok n => (List.replicate n (Forest.unroll children)).flatten
    | some _ => [.ok ⟨id, kind, params, children⟩]
termination_by structural b => b

/-- The forest without repetitions. -/
def Forest.unroll : List Block → List Instruction
  | [] => []
  | b :: rest => b.unroll ++ Forest.unroll rest
termination_by structural f => f

end

namespace Block

variable {b : Block}

theorem unroll_unknown (h : b.kind? = none) : b.unroll = [] := by
  cases b
  rw [unroll, h]

theorem unroll_leaf (h : b.kind? ≠ none) (hl : b.kind? ≠ some .loop) : b.unroll = [.ok b] := by
  cases b
  rw [unroll]
  split
  · contradiction
  · contradiction
  · rfl

theorem unroll_failed {fault : Fault} (h : b.kind? = some .loop)
    (hc : Interpreter.count b = .error fault) : b.unroll = [.error fault] := by
  cases b
  rw [unroll, h, hc]

theorem unroll_loop {n : Nat} (h : b.kind? = some .loop) (hc : Interpreter.count b = .ok n) :
    b.unroll = (List.replicate n (Forest.unroll b.children)).flatten := by
  cases b
  rw [unroll, h, hc]

end Block

namespace Forest

@[simp] theorem unroll_nil : unroll [] = [] := rfl

@[simp] theorem unroll_cons (b : Block) (rest : Forest) :
    unroll (b :: rest) = b.unroll ++ unroll rest := rfl

theorem unroll_append (f g : Forest) : unroll (f ++ g) = unroll f ++ unroll g := by
  induction f with
  | nil => rfl
  | cons b rest ih => rw [List.cons_append, unroll_cons, unroll_cons, ih, List.append_assoc]

theorem unroll_replicate (n : Nat) (f : Forest) :
    unroll (List.replicate n f).flatten = (List.replicate n (unroll f)).flatten := by
  induction n with
  | zero => rfl
  | succ n ih =>
    rw [List.replicate_succ, List.replicate_succ, List.flatten_cons, List.flatten_cons,
      unroll_append, ih]

end Forest

namespace Snapshot

/-- The snapshot after a request that nobody else uses to act. -/
def afterRequest (s : Snapshot) : Request → Snapshot
  | .action a => s.after a
  | .wait _ => s

/-- The actor has just this program. -/
def HasForest (s : Snapshot) (actorId : Datum) (F : Forest) : Prop :=
  ∃ a, s.actor? actorId = some a ∧ a.blocks = F

end Snapshot

namespace Interpreter

/-- What comes of instructions: what was asked for, the snapshot in the end, and why they came to a
halt, if they did. -/
structure Performance where
  requests : List Request
  state : Snapshot
  fault : Option Fault

/-- Performs instructions one after the other, up to the first that fails. At each block the clock
is read. -/
def perform (I : Interpreter) (actorId : Datum) :
    List Instruction → List Number → Snapshot → Performance
  | [], _, s => ⟨[], s, none⟩
  | .error fault :: _, _, s => ⟨[], s, some fault⟩
  | .ok b :: rest, readings, s =>
    match I.leaf actorId s (readings.headD (.int 0)) b with
    | .error fault => ⟨[], s, some fault⟩
    | .ok rs =>
      let later := perform I actorId rest readings.tail (rs.foldl Snapshot.afterRequest s)
      { later with requests := rs ++ later.requests }

/-- What the clock showed when each block that repeats nothing was begun. -/
def readings (trail : List Footprint) : List Number :=
  (Footprint.starts trail).filterMap fun start =>
    if start.block.kind? = some .loop then none else some start.time

theorem readings_began_loop (start : Start) (h : start.block.kind? = some .loop)
    (t : List Footprint) : readings (.began start :: t) = readings t := by
  simp [readings, h]

theorem readings_began (start : Start) (h : start.block.kind? ≠ some .loop)
    (t : List Footprint) : readings (.began start :: t) = start.time :: readings t := by
  simp [readings, h]

theorem readings_asked (rs : List Request) (t : List Footprint) :
    readings (rs.map .asked ++ t) = readings t := by
  simp [readings]

/-- Nobody else changes the snapshot. -/
def Alone (s s' : Snapshot) : Prop := s' = s

variable {I : Interpreter} {actorId : Datum} {F : Forest} {s s' : Snapshot}

theorem eq_foldl_of_met {rs : List Request} (h : Met Alone rs s s') :
    s' = rs.foldl Snapshot.afterRequest s := by
  induction h with
  | nil => rfl
  | action _ ih => exact ih
  | wait hsame _ ih => cases hsame; exact ih

theorem hasForest_foldl {rs : List Request} (hown : ∀ r ∈ rs, Own actorId r)
    (hs : s.HasForest actorId F) : (rs.foldl Snapshot.afterRequest s).HasForest actorId F := by
  induction rs generalizing s with
  | nil => exact hs
  | cons r rest ih =>
    obtain ⟨hr, hrest⟩ := List.forall_mem_cons.mp hown
    refine ih hrest ?_
    cases hr with
    | change changes =>
      obtain ⟨a, ha, rfl⟩ := hs
      exact (Snapshot.match_updateActor (R := fun a b => b.blocks = a.blocks) (fun _ _ h => h) s
        actorId (.object changes)).actor? ha
    | wait => exact hs

/-- What the store holds under the identifier of a block of the program is the block. -/
theorem eq_of_holds (hs : s.HasForest actorId F) (hd : Forest.Distinct F) (hn : Forest.Named F)
    {b c : Block} (hb : b ∈ Forest.preorder F) (hc : s.Holds actorId c) (hcb : c.shape = b.shape) :
    c = b := by
  obtain ⟨a, ha, rfl⟩ := hs
  obtain ⟨a', ha', hfind⟩ := hc
  cases ha.symm.trans ha'
  rw [(Block.shape_eq_iff.mp hcb).1, hd.find?_self hb (hn b hb).id] at hfind
  cases hfind
  rfl

/-- Blocks of the program that are visited while nobody else acts are performed as the unrolled
program is. -/
theorem perform_of_visit (hd : Forest.Distinct F) (hn : Forest.Named F) {bs : List Block}
    {t : List Footprint} {e : Option Fault} (h : Visit I actorId Alone bs s t s' e)
    (hbs : ∀ b ∈ bs, b ∈ Forest.preorder F) (hs : s.HasForest actorId F) :
    I.perform actorId (Forest.unroll bs) (readings t) s = ⟨Footprint.requests t, s', e⟩ := by
  induction h with
  | nil => rfl
  | skip hk _ ih =>
    rw [Forest.unroll_cons, Block.unroll_unknown hk, List.nil_append]
    exact ih (List.forall_mem_cons.mp hbs).2 hs
  | @halt b c rest s now fault hc hcb hk heff =>
    have hb := (List.forall_mem_cons.mp hbs).1
    cases eq_of_holds hs hd hn hb hc hcb
    by_cases hl : b.kind? = some .loop
    · rw [Forest.unroll_cons, Block.unroll_failed hl (count_of_effect_error hl heff)]
      rfl
    · rw [Forest.unroll_cons, Block.unroll_leaf hk hl, List.singleton_append,
        readings_began ⟨s, now, b⟩ hl, perform, List.headD_cons,
        leaf_of_effect_error hl heff]
      rfl
  | @step b c rest inner s s₁ s' now rs t e hc hcb hk heff hmet _ ih =>
    obtain ⟨hb, hrest⟩ := List.forall_mem_cons.mp hbs
    cases eq_of_holds hs hd hn hb hc hcb
    cases eq_foldl_of_met hmet
    by_cases hl : b.kind? = some .loop
    · obtain ⟨n, hcount, rfl, rfl⟩ := count_of_effect_ok hl heff
      have hinner : ∀ c ∈ (List.replicate n b.children).flatten ++ rest,
          c ∈ Forest.preorder F := by
        intro c hmem
        rcases List.mem_append.mp hmem with hmem | hmem
        · obtain ⟨f, hf, hcf⟩ := List.mem_flatten.mp hmem
          cases List.eq_of_mem_replicate hf
          exact Forest.mem_preorder_children hb (Forest.mem_preorder_of_mem hcf)
        · exact hrest c hmem
      have hrec := ih hinner hs
      rw [Forest.unroll_append, Forest.unroll_replicate] at hrec
      rw [Forest.unroll_cons, Block.unroll_loop hl hcount,
        readings_began_loop ⟨s, now, b⟩ hl]
      exact hrec
    · obtain ⟨hleaf, rfl⟩ := leaf_of_effect_ok hl heff
      have hrec := ih hrest (hasForest_foldl (own_of_leaf hleaf) hs)
      rw [List.nil_append] at hrec
      rw [Forest.unroll_cons, Block.unroll_leaf hk hl, List.singleton_append,
        readings_began ⟨s, now, b⟩ hl, readings_asked, perform, List.headD_cons, hleaf]
      simp only [List.tail_cons, hrec]
      simp

/-- **A run is its flat program.** If the stage stands still but for the run, a run of an actor with
a program, in which no two blocks have one identifier, asks first for the running flag, the start
places and the turn of moves; then for what the unrolled program of the actor asks for, each block
from the snapshot that those before it left; and at last, whether the program came to its end or an
instruction failed, for the running flag to be cleared. -/
theorem run_eq_perform {σ ι τ : Type} [DecidableEq ι] {S : Surroundings σ ι}
    {answer : Company σ ι τ} (calm : S.Calm) (alone : answer.Within Alone) (I : Interpreter)
    {s : Snapshot} {p : Scene σ ι × τ} (hp : At s p) (typed : s.Typed)
    (idle : s.running = false) (ready : p.1.status ≠ .running)
    {address : Datum} {a : Actor} (found : s.addressed? address = some a)
    (nonempty : a.blocks ≠ []) (distinct : Forest.Distinct a.blocks) :
    let actorId := s.addressee address
    let trail := (I.run address).trail S answer p.1 p.2
    let s₀ := s.afterAll (I.opening s)
    ∃ a₀ p', s₀.actor? actorId = some a₀ ∧
      let flat := I.perform actorId (Forest.unroll a₀.blocks) (readings trail) s₀
      Footprint.requests trail =
        (I.opening s).map .action ++ flat.requests ++ [.action (.setRunning (.bool false))] ∧
      (I.run address).carry S answer p.1 p.2 = (p', .ok (resultOf flat.fault)) ∧
      p'.1.state = flat.state.after (.setRunning (.bool false)) ∧
      p'.1.status = statusOf flat.fault := by
  intro actorId trail s₀
  have hmem : a ∈ s.actors := Snapshot.mem_of_actor? found
  have hnamed : Forest.Named a.blocks := (typed a hmem).blocks.named
  have kept : ShapeKept Alone actorId (Forest.shape a.blocks) := by
    intro s s' hs hsame
    rwa [hsame]
  obtain ⟨t, s', e, p', hvisit, htrail, hcarry, hp', hstatus⟩ :=
    run_visits I calm alone hp typed (accept_eq_ok_iff.mpr ⟨idle, ready, found, nonempty⟩) distinct
      kept
  obtain ⟨a₀, ha₀, hshape⟩ := hasShape_opening I (s := s) ⟨a, found, rfl⟩
  have hflat : I.perform actorId (Forest.unroll a₀.blocks) (readings t) s₀ =
      ⟨Footprint.requests t, s', e⟩ :=
    perform_of_visit (Forest.distinct_of_shape_eq hshape.symm distinct)
      (Forest.named_shape_iff.mp (hshape ▸ Forest.named_shape_iff.mpr hnamed))
      (hvisit.congr_shape hshape) (fun b hb => Forest.mem_preorder_of_mem hb) ⟨a₀, ha₀, rfl⟩
  have hread : readings trail = readings t := by
    simp only [trail, htrail, readings, Footprint.starts_append, starts_traces, List.nil_append,
      List.append_nil]
  refine ⟨a₀, p', ha₀, ?_⟩
  rw [hread, hflat]
  refine ⟨?_, hcarry, hp'.state, hstatus⟩
  simp only [trail, htrail, Footprint.requests_append, requests_traces]
  rfl

/-- A stage with one actor, whose program shown something twice. -/
def parrot : Snapshot where
  actors := [{
    id := .str "cat"
    name := .str "Cat"
    blocks := [{
      id := .str "loop", kind := .str "repeat", params := .object [("times", .int 2)]
      children := [{
        id := .str "say", kind := .str "say"
        params := .object [("text", .str "Hi"), ("seconds", .int 2)] }] }] }]
  activeActorId := .str "cat"

theorem parrot_typed : parrot.Typed := by
  intro a ha
  cases List.mem_singleton.mp ha
  refine ⟨⟨_, rfl⟩, fun b hb => ?_⟩
  simp only [Forest.preorder_cons, Forest.preorder_nil, List.append_nil, List.mem_cons,
    List.not_mem_nil, or_false] at hb
  rcases hb with rfl | rfl
  all_goals exact ⟨⟨⟨_, rfl⟩, ⟨_, rfl⟩⟩, ⟨_, rfl⟩⟩

/-- The scene of the stage, before the run. -/
def parrotScene : Scene Unit Unit := { store := { state := parrot }, memory := () }

/-- What the parrot asks for: twice to show its bubble, to wait and to hide it. -/
theorem requests_parrot :
    let I : Interpreter := {}
    let shown : Action := .updateActor (.str "cat") (.object [("message",
      .object [("kind", .str "say"), ("text", .str "Hi"), ("expires_at", .float 2.0)])])
    let hidden : Action := .updateActor (.str "cat") (.object [("message", .null)])
    Footprint.requests ((I.run (.str "")).trail .silent .nobody parrotScene ()) =
      [.action (.setRunning (.bool true)), .action (.resetActors (.float 0.0) (.float 0.0) I.home),
        .action shown, .wait (.float 2.0), .action hidden,
        .action shown, .wait (.float 2.0), .action hidden,
        .action (.setRunning (.bool false))] := by
  intro I shown hidden
  have alone : (Company.nobody : Company Unit Unit Unit).Within Alone :=
    fun _ _ _ h => ⟨rfl, h, rfl⟩
  have found : parrot.addressed? (.str "") = parrot.actors.head? := rfl
  obtain ⟨a₀, p', ha₀, hreq, -⟩ := run_eq_perform Surroundings.silent_calm alone I
    (p := (parrotScene, ())) ⟨rfl, rfl⟩ parrot_typed rfl (by decide) found (by simp)
    (by unfold Forest.Distinct; decide)
  have hread : readings ((I.run (.str "")).trail .silent .nobody parrotScene ()) =
      [.float 0.0, .float 0.0] := by decide +kernel
  cases ha₀
  dsimp only at hreq
  rw [hread] at hreq
  exact hreq.trans rfl

end Interpreter

end SpriteStage
