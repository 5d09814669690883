import SpriteStage.Interpreter
import SpriteStage.Proofs.Forest.Order
import SpriteStage.Proofs.Walk.Trail

/-!
# What a block asks for

What a block that repeats nothing asks for depends on its parameters, on the walked actor as it is
then, and on the clock: one action and a wait, or, for a bubble, two actions around a wait
(`Interpreter.leaf`). The interpreter asks for just that, one after the other, or fails as the leaf
does and asks for nothing (`Interpreter.handle_heeds`).
-/

namespace SpriteStage

/-- The kind of the block, if it is one that can be run. -/
def Block.kind? (b : Block) : Option BlockKind :=
  match b.kind with
  | .str name => BlockKind.ofName? name
  | _ => none

theorem Block.kind?_congr {b c : Block} (h : b.kind = c.kind) : b.kind? = c.kind? := by
  rw [Block.kind?, Block.kind?, h]

theorem BlockKind.ofDatum_kind {b : Block} (h : b.kind.IsText) :
    BlockKind.ofDatum b.kind = .ok b.kind? := by
  obtain ⟨name, hn⟩ := h
  rw [Block.kind?, hn]
  rfl

/-- The block as the snapshot holds it; the block itself if it or its actor is gone. -/
def Snapshot.current (s : Snapshot) (actorId : Datum) (b : Block) : Block :=
  ((s.actor? actorId).bind fun a => Forest.find? b.id a.blocks).getD b

namespace Interpreter

variable (I : Interpreter) (actorId : Datum)

/-- The request to change the walked actor. -/
def toChange (changes : Fields) : Request := .action (.updateActor actorId (.object changes))

/-- What a block that repeats nothing asks for, in order, if the store holds `s` and the clock shows
`now`; or why it fails. -/
def leaf (s : Snapshot) (now : Number) (b : Block) : Except Fault (List Request) :=
  match b.kind? with
  | some .move =>
    match s.actor? actorId with
    | none => .ok []
    | some a => do
      let steps ← amount b "steps"
      let (x, y) ← ahead a steps
      return [toChange actorId [("x", .float x), ("y", .float y)], .wait I.pacing]
  | some .turn =>
    match s.actor? actorId with
    | none => .ok []
    | some a => do
      let degrees ← amount b "degrees"
      let direction ← a.direction.addFloat degrees
      return [toChange actorId [("direction", .float (Double.floorMod direction 360))],
        .wait I.pacing]
  | some .goto => do
    let x ← amount b "x"
    let y ← amount b "y"
    return [toChange actorId [("x", .float x), ("y", .float y)], .wait I.pacing]
  | some .say | some .think => do
    let seconds ← amount b "seconds"
    let seconds := Datum.float (if seconds > Double.zero then seconds else Double.zero)
    let text ← caption b
    let expiresAt ← seconds.addTo now
    let bubble : Bubble := { kind := b.kind, text := .str text, expiresAt := .num expiresAt }
    return [toChange actorId [("message", bubble.toDatum)], .wait seconds,
      toChange actorId [("message", .null)]]
  | some .loop | none => .ok []

/-- The request changes the walked actor or is a wait. -/
inductive Own (actorId : Datum) : Request → Prop
  | change (changes : Fields) : Own actorId (toChange actorId changes)
  | wait (seconds : Datum) : Own actorId (.wait seconds)

variable {I} {actorId} in
/-- A leaf asks for nothing but changes of the walked actor and waits. -/
theorem own_of_leaf {s : Snapshot} {now : Number} {b : Block} {rs : List Request}
    (h : I.leaf actorId s now b = .ok rs) : ∀ r ∈ rs, Own actorId r := by
  have stride (changes : Fields) :
      ∀ r ∈ [toChange actorId changes, .wait I.pacing], Own actorId r :=
    List.forall_mem_cons.mpr ⟨.change _, List.forall_mem_singleton.mpr (.wait _)⟩
  unfold leaf at h
  split at h
  · split at h
    · cases h; exact List.forall_mem_nil _
    · obtain ⟨steps, -, h⟩ := of_bind_eq_ok h
      obtain ⟨⟨x, y⟩, -, h⟩ := of_bind_eq_ok h
      cases h; exact stride _
  · split at h
    · cases h; exact List.forall_mem_nil _
    · obtain ⟨degrees, -, h⟩ := of_bind_eq_ok h
      obtain ⟨direction, -, h⟩ := of_bind_eq_ok h
      cases h; exact stride _
  · obtain ⟨x, -, h⟩ := of_bind_eq_ok h
    obtain ⟨y, -, h⟩ := of_bind_eq_ok h
    cases h; exact stride _
  all_goals first
    | cases h; exact List.forall_mem_nil _
    | obtain ⟨seconds, -, h⟩ := of_bind_eq_ok h
      obtain ⟨text, -, h⟩ := of_bind_eq_ok h
      obtain ⟨expiresAt, -, h⟩ := of_bind_eq_ok h
      cases h
      exact List.forall_mem_cons.mpr ⟨.change _, List.forall_mem_cons.mpr
        ⟨.wait _, List.forall_mem_singleton.mpr (.change _)⟩⟩

/-- How a block of a kind that repeats nothing is done. -/
def handle (b : Block) : BlockKind → Attempt Unit
  | .move => I.move actorId b
  | .turn => I.turn actorId b
  | .goto => I.goto actorId b
  | .say | .think => speak actorId b
  | .loop => pure ()

/-- How a repetition is done, with room for `room` repetitions inside each other. -/
def iterate : Nat → Block → Attempt Unit
  | 0, b => do
    let _ ← Attempt.ofExcept (count b)
    throw (.failed .nestedTooDeep)
  | room + 1, b => do
    let n ← Attempt.ofExcept (count b)
    Attempt.times n (Attempt.each (I.step actorId room) b.children)

/-- How a block of a kind is done once it has begun. -/
def attend (room : Nat) (b : Block) (kind : BlockKind) : Attempt Unit :=
  if kind = .loop then I.iterate actorId room b else I.handle actorId b kind

/-- A block is looked up, and is begun and done if its kind is known. -/
theorem step_eq (room : Nat) (b : Block) :
    I.step actorId room b = (do
      let c ← latest actorId b
      match ← Attempt.ofExcept (BlockKind.ofDatum c.kind) with
      | none => skip c
      | some kind =>
        Attempt.begin c
        I.attend actorId room c kind) := by
  cases room <;> rw [step]
  all_goals
    congr 1
    funext c
    congr 1
    funext kind
    cases kind with
    | none => rfl
    | some kind => cases kind <;> rfl

end Interpreter

/-- Requests are met one after the other, from one snapshot to another; during a wait others may act
as `others` allows. -/
inductive Met (others : Snapshot → Snapshot → Prop) : List Request → Snapshot → Snapshot → Prop
  | nil {s : Snapshot} : Met others [] s s
  | action {a : Action} {rest : List Request} {s s' : Snapshot} :
      Met others rest (s.after a) s' → Met others (.action a :: rest) s s'
  | wait {seconds : Datum} {rest : List Request} {s s₁ s' : Snapshot} :
      others s s₁ → Met others rest s₁ s' → Met others (.wait seconds :: rest) s s'

namespace Interpreter

variable {σ ι τ : Type} [DecidableEq ι] {S : Surroundings σ ι} {answer : Company σ ι τ}
  {others : Snapshot → Snapshot → Prop} {I : Interpreter} {actorId : Datum} {s : Snapshot}
  {p : Scene σ ι × τ} {b : Block}

theorem latest_leads (hp : At s p) (b : Block) :
    Leads S answer (latest actorId b) p [] p (.ok (s.current actorId b)) :=
  (Leads.snapshot hp).bind_silent (.pure _ p)

theorem change_leads (answer : Company σ ι τ) (actorId : Datum) (calm : S.Calm) (hp : At s p)
    (changes : Fields) :
    ∃ p', Leads S answer (change actorId changes) p [.asked (toChange actorId changes)] p' (.ok ()) ∧
      At (s.after (.updateActor actorId (.object changes))) p' :=
  Leads.dispatch calm hp rfl

/-- A change of the walked actor and a wait. -/
theorem stride_leads (calm : S.Calm) (within : answer.Within others) (hp : At s p)
    (changes : Fields) (seconds : Datum) :
    ∃ p' s', Leads S answer (do change actorId changes; Attempt.wait seconds) p
        ([toChange actorId changes, .wait seconds].map .asked) p' (.ok ()) ∧
      At s' p' ∧ Met others [toChange actorId changes, .wait seconds] s s' := by
  obtain ⟨p₁, h₁, hp₁⟩ := change_leads answer actorId calm hp changes
  obtain ⟨p₂, s', h₂, hp₂, hs⟩ := Leads.wait calm within hp₁ seconds
  exact ⟨p₂, s', h₁.bind h₂, hp₂, .action (.wait hs .nil)⟩

/-- The outcome of a block that may fail. -/
def outcome : Option Fault → Except Interruption Unit
  | none => .ok ()
  | some fault => .error (.failed fault)

/-- What is said of the walk of a leaf: it asks for what the leaf asks for, or fails with it. -/
def Heeds (S : Surroundings σ ι) (answer : Company σ ι τ) (others : Snapshot → Snapshot → Prop)
    (s : Snapshot) (p : Scene σ ι × τ) (x : Attempt Unit) (leaf : Except Fault (List Request)) :
    Prop :=
  match leaf with
  | .error fault => ∃ p', Leads S answer x p [] p' (.error (.failed fault)) ∧ At s p'
  | .ok rs => ∃ p' s', Leads S answer x p (rs.map .asked) p' (.ok ()) ∧ At s' p' ∧ Met others rs s s'

/-- What has to be computed first fails both, or neither. -/
theorem Heeds.compute {α : Type} {d : Except Fault α} {f : α → Attempt Unit}
    {g : α → Except Fault (List Request)} (hp : At s p)
    (h : ∀ a, d = .ok a → Heeds S answer others s p (f a) (g a)) :
    Heeds S answer others s p (Attempt.ofExcept d >>= f) (d >>= g) := by
  cases d with
  | error fault => exact ⟨p, (Leads.ofExcept_error rfl p).bind_error, hp⟩
  | ok a => exact h a rfl

theorem Heeds.nothing (hp : At s p) : Heeds S answer others s p (pure ()) (.ok []) :=
  ⟨p, s, .pure () p, hp, .nil⟩

/-- What leaves no trail and changes nothing can be left out of account. -/
theorem Heeds.silent {α : Type} {x : Attempt α} {a : α} {f : α → Attempt Unit}
    {d : Except Fault (List Request)} (hx : Leads S answer x p [] p (.ok a))
    (h : Heeds S answer others s p (f a) d) : Heeds S answer others s p (x >>= f) d := by
  cases d with
  | error fault =>
    obtain ⟨p', hf, hp'⟩ := h
    exact ⟨p', hx.bind_silent hf, hp'⟩
  | ok rs =>
    obtain ⟨p', s', hf, hp', hm⟩ := h
    exact ⟨p', s', hx.bind_silent hf, hp', hm⟩

theorem move_heeds (calm : S.Calm) (within : answer.Within others) (hp : At s p) (now : Number)
    (hk : b.kind? = some .move) :
    Heeds S answer others s p (I.move actorId b) (I.leaf actorId s now b) := by
  unfold move leaf
  rw [hk]
  refine Heeds.silent (.snapshot hp) ?_
  cases s.actor? actorId with
  | none => exact .nothing hp
  | some a =>
    refine Heeds.compute hp fun steps _ => Heeds.compute hp fun (x, y) _ => ?_
    exact stride_leads calm within hp _ _

theorem turn_heeds (calm : S.Calm) (within : answer.Within others) (hp : At s p) (now : Number)
    (hk : b.kind? = some .turn) :
    Heeds S answer others s p (I.turn actorId b) (I.leaf actorId s now b) := by
  unfold turn leaf
  rw [hk]
  refine Heeds.silent (.snapshot hp) ?_
  cases s.actor? actorId with
  | none => exact .nothing hp
  | some a =>
    refine Heeds.compute hp fun degrees _ => Heeds.compute hp fun direction _ => ?_
    exact stride_leads calm within hp _ _

theorem goto_heeds (calm : S.Calm) (within : answer.Within others) (hp : At s p) (now : Number)
    (hk : b.kind? = some .goto) :
    Heeds S answer others s p (I.goto actorId b) (I.leaf actorId s now b) := by
  unfold goto leaf
  rw [hk]
  refine Heeds.compute hp fun x _ => Heeds.compute hp fun y _ => ?_
  exact stride_leads calm within hp _ _

theorem speak_heeds (calm : S.Calm) (within : answer.Within others) (hp : At s p)
    (hk : b.kind? = some .say ∨ b.kind? = some .think) :
    Heeds S answer others s p (speak actorId b) (I.leaf actorId s (S.now p.1.memory) b) := by
  unfold speak leaf
  rcases hk with hk | hk <;> rw [hk]
  all_goals
    refine Heeds.compute hp fun seconds _ => Heeds.compute hp fun text _ => ?_
    refine Heeds.silent (.clock p) (Heeds.compute hp fun expiresAt _ => ?_)
    obtain ⟨p₁, h₁, hp₁⟩ := change_leads answer actorId calm hp _
    obtain ⟨p₂, s₂, h₂, hp₂, hs⟩ := Leads.wait calm within hp₁ _
    obtain ⟨p₃, h₃, hp₃⟩ := change_leads answer actorId calm hp₂ _
    exact ⟨p₃, _, h₁.bind (h₂.bind h₃), hp₃, .action (.wait hs (.action .nil))⟩

/-- **A block that repeats nothing** asks for what its leaf asks for, one after the other, or fails
as that does. -/
theorem handle_heeds (calm : S.Calm) (within : answer.Within others) (hp : At s p) {k : BlockKind}
    (hk : b.kind? = some k) (hl : k ≠ .loop) :
    Heeds S answer others s p (I.handle actorId b k) (I.leaf actorId s (S.now p.1.memory) b) := by
  cases k with
  | move => exact move_heeds calm within hp _ hk
  | turn => exact turn_heeds calm within hp _ hk
  | goto => exact goto_heeds calm within hp _ hk
  | loop => exact absurd rfl hl
  | say => exact speak_heeds calm within hp (.inl hk)
  | think => exact speak_heeds calm within hp (.inr hk)

end Interpreter

end SpriteStage
