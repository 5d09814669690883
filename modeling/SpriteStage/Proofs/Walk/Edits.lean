import SpriteStage.Proofs.Walk.Course
import Mathlib.Logic.Relation

/-!
# Edits during a run

While a run waits, others may change actors, put other parameters into blocks, turn moves, edit the
programs of other actors, and choose the active actor; only the list of actors and the shape of the
walked program are left to them as they are (`Spares`). Such edits never derail the run: every block
that is begun is the block that the store holds then, and the blocks come in the order in which the
program is unrolled, where each repetition counts with the parameters that it has when it is entered
(`Interpreter.run_follows_edits`).

What ends the run before its time are parameters that do not convert, but also an actor that others
have put where it cannot go on: nobody can go ahead in an infinite direction
(`Interpreter.infinite_direction_cuts`).
-/

namespace SpriteStage

/-- The action leaves the list of actors as it is, and what it does to the program of the actor is
to turn moves or to put parameters into a block. -/
inductive Spares (actorId : Datum) (s : Snapshot) : Action → Prop
  | swapMoves (first second : Datum) : Spares actorId s (.swapMoves first second)
  | updateActor (id changes : Datum) : Spares actorId s (.updateActor id changes)
  | updateParams (blockId params address : Datum) :
      Spares actorId s (.updateParams blockId params address)
  | resetActors (x y direction : Datum) : Spares actorId s (.resetActors x y direction)
  | selectActor (id : Datum) : Spares actorId s (.selectActor id)
  | setRunning (value : Datum) : Spares actorId s (.setRunning value)
  | addBlock (block : Block) {address : Datum} :
      ¬ actorId.sameValue (s.addressee address) → Spares actorId s (.addBlock block address)
  | removeBlock (blockId : Datum) {address : Datum} :
      ¬ actorId.sameValue (s.addressee address) → Spares actorId s (.removeBlock blockId address)
  | addChild (parentId : Datum) (block : Block) {address : Datum} :
      ¬ actorId.sameValue (s.addressee address) → Spares actorId s (.addChild parentId block address)
  | clearBlocks {address : Datum} :
      ¬ actorId.sameValue (s.addressee address) → Spares actorId s (.clearBlocks address)

/-- Any number of such actions, one after the other. -/
def Meanwhile (actorId : Datum) : Snapshot → Snapshot → Prop :=
  Relation.ReflTransGen fun s s' => ∃ a, Spares actorId s a ∧ s.after a = s'

namespace Snapshot

variable {s s' : Snapshot} {actorId address : Datum} {K : Forest} {change : Forest → Option Forest}

/-- A change of another program leaves that of the actor as it is. -/
theorem HasShape.changeBlocks?_other (hs : s.HasShape actorId K) (ht : actorId.IsText)
    (hne : ¬ actorId.sameValue (s.addressee address)) (h : s.changeBlocks? address change = some s') :
    s'.HasShape actorId K := by
  have hm : s.Match (fun a b => a.hasId actorId → a.SameShape b) s' := by
    refine match_changeBlocks? (fun _ _ => rfl) (fun a f hid _ hactor => ?_) h
    obtain ⟨name, rfl⟩ := ht
    have hid' : a.id = .str name := (Datum.sameValue_iff_str a.id name).mp hactor
    rw [← hid'] at hne
    exact absurd hid hne
  obtain ⟨a, ha, rfl⟩ := hs
  obtain ⟨b, hb, hab⟩ := hm.actor? ha
  exact ⟨b, hb, hab (hasId_of_actor? ha)⟩

/-- A change of parameters keeps the shape of every program. -/
theorem HasShape.updateParams (hs : s.HasShape actorId K) (blockId params address : Datum) :
    (s.after (.updateParams blockId params address)).HasShape actorId K := by
  refine after_of_after? (P := fun s' => s'.HasShape actorId K) hs fun s' h => ?_
  refine hs.of_match (match_changeBlocks? (fun _ => rfl) (fun a f _ hf => ?_) h)
  exact Forest.shape_modify? (fun b => b.shape_with_params _) hf

/-- No action that spares the actor changes the shape of its program. -/
theorem HasShape.after_of_spares {action : Action} (hs : s.HasShape actorId K) (ht : actorId.IsText)
    (h : Spares actorId s action) : (s.after action).HasShape actorId K := by
  have other {address : Datum} {change : Forest → Option Forest} {action : Action}
      (hne : ¬ actorId.sameValue (s.addressee address))
      (hafter : s.after? action = s.changeBlocks? address change) :
      (s.after action).HasShape actorId K :=
    after_of_after? (P := fun s' => s'.HasShape actorId K) hs fun s' h =>
      hs.changeBlocks?_other ht hne (hafter ▸ h)
  cases h with
  | swapMoves first second =>
    exact hs.of_match (match_swapMoves (fun a => Actor.sameShape_of_eq (a := a) rfl)
      (fun a => Forest.shape_turnMoves a.blocks) s first second)
  | updateActor id changes => exact hs.updateActor id changes
  | updateParams blockId params address => exact hs.updateParams blockId params address
  | resetActors x y direction =>
    exact hs.of_match (match_resetActors (fun _ _ => Actor.sameShape_of_eq) s x y direction)
  | selectActor id =>
    refine after_of_after? (P := fun s' => s'.HasShape actorId K) hs fun s' h => ?_
    simp only [after?, withActive?] at h
    split_ifs at h
    cases h
    exact hs
  | setRunning value => exact hs
  | addBlock block hne => exact other hne rfl
  | removeBlock blockId hne => exact other hne rfl
  | addChild parentId block hne => exact other hne rfl
  | clearBlocks hne => exact other hne (show _ = s.changeBlocks? _ fun _ => some [] from rfl)

end Snapshot

theorem shapeKept_meanwhile {actorId : Datum} (ht : actorId.IsText) (K : Forest) :
    ShapeKept (Meanwhile actorId) actorId K := by
  intro s s' hs h
  induction h with
  | refl => exact hs
  | tail _ hstep ih =>
    obtain ⟨a, ha, rfl⟩ := hstep
    exact ih.after_of_spares ht ha

/-- The starts are those of the blocks of the forest and of what is below them, each before its
children and those of a repetition as often as its parameters say at its start; a block of a kind
that is not known has no start. The start of `cut`, if there is one, is the last. -/
inductive Unrolls : Forest → List Start → Option Start → Prop
  | nil : Unrolls [] [] none
  | skip {b : Block} {rest : Forest} {starts : List Start} {cut : Option Start} :
      b.kind? = none → Unrolls rest starts cut → Unrolls (b :: rest) starts cut
  | leaf {b : Block} {rest : Forest} {start : Start} {starts : List Start} {cut : Option Start} :
      start.block.id = b.id → b.kind? ≠ none → b.kind? ≠ some .loop → Unrolls rest starts cut →
      Unrolls (b :: rest) (start :: starts) cut
  | loop {b : Block} {rest : Forest} {start : Start} {starts : List Start} {cut : Option Start}
      {n : Nat} :
      start.block.id = b.id → b.kind? = some .loop → Interpreter.count start.block = .ok n →
      Unrolls ((List.replicate n b.children).flatten ++ rest) starts cut →
      Unrolls (b :: rest) (start :: starts) cut
  | cut {b : Block} {rest : Forest} {start : Start} :
      start.block.id = b.id → b.kind? ≠ none → Unrolls (b :: rest) [start] (some start)

/-- Why the parameters of the block do not convert to what its kind takes. -/
def Block.paramsFault? (b : Block) : Option Fault :=
  match b.kind? with
  | some .move => Fault.of? (Interpreter.amount b "steps")
  | some .turn => Fault.of? (Interpreter.amount b "degrees")
  | some .goto => Fault.of? (Interpreter.amount b "x") <|> Fault.of? (Interpreter.amount b "y")
  | some .loop => Fault.of? (Interpreter.count b)
  | some .say | some .think =>
    Fault.of? (Interpreter.amount b "seconds") <|> Fault.of? (Interpreter.caption b)
  | none => none

/-- Why the actor, as it stands at the start, can neither go ahead nor turn as the block says. -/
def Start.poseFault? (start : Start) (actorId : Datum) : Option Fault :=
  (start.snapshot.actor? actorId).bind fun a =>
    match start.block.kind? with
    | some .move =>
      Fault.of? (Interpreter.amount start.block "steps" >>= Interpreter.ahead a)
    | some .turn =>
      Fault.of? (Interpreter.amount start.block "degrees" >>= a.direction.addFloat)
    | _ => none

namespace Interpreter

variable {I : Interpreter} {actorId : Datum} {others : Snapshot → Snapshot → Prop}

section

variable {start : Start} {fault : Fault}

theorem move_fails (hk : start.block.kind? = some .move)
    (h : I.leaf actorId start.snapshot start.time start.block = .error fault) :
    start.block.paramsFault? = some fault ∨ start.poseFault? actorId = some fault := by
  rw [Block.paramsFault?, Start.poseFault?, hk]
  unfold leaf at h
  rw [hk] at h
  cases ha : start.snapshot.actor? actorId with
  | none => rw [ha] at h; cases h
  | some a =>
    rw [ha] at h
    rcases of_bind_eq_error h with hsteps | ⟨steps, hsteps, h⟩
    · left
      rw [hsteps]
      rfl
    rcases of_bind_eq_error h with hahead | ⟨place, -, h⟩
    · right
      rw [Option.bind_some, hsteps]
      exact congrArg Fault.of? hahead
    · cases h

theorem turn_fails (hk : start.block.kind? = some .turn)
    (h : I.leaf actorId start.snapshot start.time start.block = .error fault) :
    start.block.paramsFault? = some fault ∨ start.poseFault? actorId = some fault := by
  rw [Block.paramsFault?, Start.poseFault?, hk]
  unfold leaf at h
  rw [hk] at h
  cases ha : start.snapshot.actor? actorId with
  | none => rw [ha] at h; cases h
  | some a =>
    rw [ha] at h
    rcases of_bind_eq_error h with hdegrees | ⟨degrees, hdegrees, h⟩
    · left
      rw [hdegrees]
      rfl
    rcases of_bind_eq_error h with hturn | ⟨direction, -, h⟩
    · right
      rw [Option.bind_some, hdegrees]
      exact congrArg Fault.of? hturn
    · cases h

theorem goto_fails (hk : start.block.kind? = some .goto)
    (h : I.leaf actorId start.snapshot start.time start.block = .error fault) :
    start.block.paramsFault? = some fault := by
  rw [Block.paramsFault?, hk]
  unfold leaf at h
  rw [hk] at h
  rcases of_bind_eq_error h with hx | ⟨x, hx, h⟩
  · rw [hx]
    rfl
  rcases of_bind_eq_error h with hy | ⟨y, -, h⟩
  · rw [hx, hy]
    rfl
  · cases h

/-- If the clock shows a double, the time at which a bubble is to go is a sum of doubles. -/
theorem speak_fails (hk : start.block.kind? = some .say ∨ start.block.kind? = some .think)
    (hclock : ∃ x, start.time = .float x)
    (h : I.leaf actorId start.snapshot start.time start.block = .error fault) :
    start.block.paramsFault? = some fault := by
  obtain ⟨x, hx⟩ := hclock
  unfold Block.paramsFault?
  unfold leaf at h
  rw [hx] at h
  rcases hk with hk | hk <;> rw [hk] at h ⊢
  all_goals
    rcases of_bind_eq_error h with hseconds | ⟨seconds, hseconds, h⟩
    · rw [hseconds]
      rfl
    rcases of_bind_eq_error h with htext | ⟨text, -, h⟩
    · rw [hseconds, htext]
      rfl
    rcases of_bind_eq_error h with hsum | ⟨expiresAt, -, h⟩
    · cases hsum
    · cases h

/-- If the clock shows a double, a block fails for its parameters or for the pose of its actor. -/
theorem fails_of_effect_error (hclock : ∃ x, start.time = .float x)
    (h : I.effect actorId start.snapshot start.time start.block = .error fault) :
    start.block.paramsFault? = some fault ∨ start.poseFault? actorId = some fault := by
  by_cases hl : start.block.kind? = some .loop
  · left
    rw [Block.paramsFault?, hl, count_of_effect_error hl h]
    rfl
  have hleaf := leaf_of_effect_error hl h
  cases hk : start.block.kind? with
  | none =>
    rw [leaf, hk] at hleaf
    cases hleaf
  | some kind =>
    cases kind with
    | move => exact move_fails hk hleaf
    | turn => exact turn_fails hk hleaf
    | goto => exact .inl (goto_fails hk hleaf)
    | loop => exact absurd hk hl
    | say => exact .inl (speak_fails (.inl hk) hclock hleaf)
    | think => exact .inl (speak_fails (.inr hk) hclock hleaf)

/-- With doubles for its place and direction, an actor cannot go ahead only if it looks in an
infinite direction. -/
theorem ahead_of_doubles {a : Actor} {x y d : Float} (hx : a.x = .float x) (hy : a.y = .float y)
    (hd : a.direction = .float d) (steps : Float) :
    ahead a steps =
      if (Double.radians d).isInf then .error .infiniteAngle
      else .ok (x + steps * (Double.radians d).cos, y + steps * (Double.radians d).sin) := by
  unfold ahead
  rw [hd, hx, hy]
  show (if (Double.radians d).isInf = true then _ else _) = _
  split_ifs
  · rfl
  · rfl

/-- With doubles for the place and the direction of its actor, only a block that moves fails without
any fault of its parameters, and only if that direction is infinite. -/
theorem poseFault?_of_doubles {a : Actor} {x y d : Float}
    (ha : start.snapshot.actor? actorId = some a) (hx : a.x = .float x) (hy : a.y = .float y)
    (hd : a.direction = .float d) (hparams : start.block.paramsFault? = none)
    (h : start.poseFault? actorId = some fault) :
    start.block.kind? = some .move ∧ (Double.radians d).isInf ∧ fault = .infiniteAngle := by
  rw [Start.poseFault?, ha, Option.bind_some] at h
  unfold Block.paramsFault? at hparams
  split at h
  · rename_i hk
    rw [hk] at hparams
    cases hsteps : amount start.block "steps" with
    | error e => rw [hsteps] at hparams; cases hparams
    | ok steps =>
      rw [hsteps] at h
      change Fault.of? (ahead a steps) = some fault at h
      rw [ahead_of_doubles hx hy hd] at h
      split_ifs at h with hinf
      · cases h
        exact ⟨hk, hinf, rfl⟩
      · cases h
  · rename_i hk
    rw [hk] at hparams
    cases hdegrees : amount start.block "degrees" with
    | error e => rw [hdegrees] at hparams; cases hparams
    | ok degrees => rw [hdegrees, hd] at h; cases h
  · cases h

end

section

variable {bs : List Block} {s s' : Snapshot} {t : List Footprint} {e : Option Fault}

/-- Every block that is begun is the block that the store holds then. -/
theorem holds_of_visit (h : Visit I actorId others bs s t s' e) :
    ∀ start ∈ Footprint.starts t, start.snapshot.Holds actorId start.block := by
  induction h with
  | nil => exact List.forall_mem_nil _
  | skip _ _ ih => exact ih
  | halt hc => exact List.forall_mem_singleton.mpr hc
  | @step b c rest inner s s₁ s' now rs t e hc _ _ _ _ _ ih =>
    rw [Footprint.starts_cons_began, Footprint.starts_append, Footprint.starts_asked,
      List.nil_append]
    exact List.forall_mem_cons.mpr ⟨hc, ih⟩

variable (I) (actorId) in
/-- After the start of each block stands what the block asks for in the form that it has then, and
then the next start; a block that fails is the last. -/
inductive Faithful : List Footprint → Prop
  | nil : Faithful []
  | failed {start : Start} {fault : Fault} :
      I.effect actorId start.snapshot start.time start.block = .error fault →
      Faithful [.began start]
  | done {start : Start} {rs : List Request} {inner : Forest} {t : List Footprint} :
      I.effect actorId start.snapshot start.time start.block = .ok (rs, inner) → Faithful t →
      Faithful (.began start :: (rs.map .asked ++ t))

theorem faithful_of_visit (h : Visit I actorId others bs s t s' e) : Faithful I actorId t := by
  induction h with
  | nil => exact .nil
  | skip _ _ ih => exact ih
  | @halt b c rest s now fault _ _ _ heff =>
    exact (.failed heff : Faithful I actorId [.began ⟨s, now, c⟩])
  | @step b c rest inner s s₁ s' now rs t e _ _ _ heff _ _ ih =>
    exact (.done heff ih : Faithful I actorId (.began ⟨s, now, c⟩ :: _))

variable (I) (actorId) in
/-- The blocks were done if nothing was cut off; and they were cut off at a block that failed. -/
inductive Ended : Option Start → Option Fault → Prop
  | done : Ended none none
  | failed {start : Start} {fault : Fault} :
      I.effect actorId start.snapshot start.time start.block = .error fault →
      Ended (some start) (some fault)

/-- The starts come in the order in which a program of the same shape is unrolled. -/
theorem unrolls_of_visit (h : Visit I actorId others bs s t s' e) {cs : List Block}
    (hs : Forest.shape cs = Forest.shape bs) :
    ∃ cut, Unrolls cs (Footprint.starts t) cut ∧ Ended I actorId cut e := by
  induction h generalizing cs with
  | nil =>
    cases cs with
    | nil => exact ⟨none, .nil, .done⟩
    | cons => cases hs
  | @skip b rest _ _ _ _ hk _ ih =>
    cases cs with
    | nil => cases hs
    | cons c cs =>
      obtain ⟨hcb, hrest⟩ := List.cons.inj hs
      have hkind : c.kind? = b.kind? := Block.kind?_congr (Block.shape_eq_iff.mp hcb).2.1
      obtain ⟨cut, hunrolls, hended⟩ := ih hrest
      exact ⟨cut, .skip (hkind.trans hk) hunrolls, hended⟩
  | @halt b d rest s now fault _ hdb hk heff =>
    cases cs with
    | nil => cases hs
    | cons c cs =>
      obtain ⟨hcb, -⟩ := List.cons.inj hs
      have hkind : c.kind? = b.kind? := Block.kind?_congr (Block.shape_eq_iff.mp hcb).2.1
      have hid : d.id = c.id := (Block.shape_eq_iff.mp (hdb.trans hcb.symm)).1
      exact ⟨some ⟨s, now, d⟩, .cut hid (hkind ▸ hk), .failed heff⟩
  | @step b d rest inner s s₁ s' now rs t e _ hdb hk heff _ _ ih =>
    cases cs with
    | nil => cases hs
    | cons c cs =>
      obtain ⟨hcb, hrest⟩ := List.cons.inj hs
      obtain ⟨hid, hdc, hchildren⟩ := Block.shape_eq_iff.mp (hdb.trans hcb.symm)
      have hkind : c.kind? = b.kind? := Block.kind?_congr (Block.shape_eq_iff.mp hcb).2.1
      have hdkind : d.kind? = c.kind? := Block.kind?_congr hdc
      rw [Footprint.starts_cons_began, Footprint.starts_append, Footprint.starts_asked,
        List.nil_append]
      by_cases hl : c.kind? = some .loop
      · obtain ⟨n, hcount, -, rfl⟩ := count_of_effect_ok (hdkind.trans hl) heff
        have hshape : Forest.shape ((List.replicate n c.children).flatten ++ cs) =
            Forest.shape ((List.replicate n d.children).flatten ++ rest) := by
          rw [Forest.shape_append, Forest.shape_append, Forest.shape_replicate,
            Forest.shape_replicate, hchildren, hrest]
        obtain ⟨cut, hunrolls, hended⟩ := ih hshape
        exact ⟨cut, .loop hid hl hcount hunrolls, hended⟩
      · obtain ⟨-, rfl⟩ := leaf_of_effect_ok (hdkind.symm ▸ hl) heff
        obtain ⟨cut, hunrolls, hended⟩ := ih hrest
        exact ⟨cut, .leaf hid (hkind ▸ hk) hl hunrolls, hended⟩

end

end Interpreter

theorem Unrolls.cut_mem {f : Forest} {starts : List Start} {start : Start}
    (h : Unrolls f starts (some start)) : start ∈ starts := by
  generalize hcut : some start = cut at h
  induction h with
  | nil => cases hcut
  | skip _ _ ih => exact ih hcut
  | leaf _ _ _ _ ih => exact List.mem_cons_of_mem _ (ih hcut)
  | loop _ _ _ _ ih => exact List.mem_cons_of_mem _ (ih hcut)
  | cut => cases hcut; exact List.mem_singleton.mpr rfl

namespace Interpreter

/-- How a run ends whose blocks were cut off at a start, or were not. -/
inductive Outcome (actorId : Datum) : Option Start → RunResult → Prop
  | complete : Outcome actorId none .complete
  | broken {start : Start} {fault : Fault} :
      start.block.paramsFault? = some fault ∨ start.poseFault? actorId = some fault →
      Outcome actorId (some start) (.broken fault)

/-- **Edits take effect at the next block and never derail a run.** Whatever others dispatch while
the run waits, as long as it spares the list of actors and the shape of the program: every block is
begun as the store holds it then, and the blocks come in the order in which the program that the
actor had is unrolled, each repetition as often as its parameters say when it is entered. The run is
cut off, if at all, at the first block whose parameters do not convert or for which the actor has
been put where it cannot go on. -/
theorem run_follows_edits {σ ι τ : Type} [DecidableEq ι] {S : Surroundings σ ι}
    {answer : Company σ ι τ} (calm : S.Calm) (clock : ∀ memory, ∃ x, S.now memory = .float x)
    (I : Interpreter) {s : Snapshot} {p : Scene σ ι × τ} (hp : At s p) (typed : s.Typed)
    (idle : s.running = false) (ready : p.1.status ≠ .running) {address : Datum} {a : Actor}
    (found : s.addressed? address = some a) (nonempty : a.blocks ≠ [])
    (distinct : Forest.Distinct a.blocks)
    (within : answer.Within (Meanwhile (s.addressee address))) :
    ∃ t cut result,
      (I.run address).trail S answer p.1 p.2 =
        traces (I.opening s) ++ t ++ traces [.setRunning (.bool false)] ∧
      ((I.run address).carry S answer p.1 p.2).2 = .ok result ∧
      (∀ start ∈ Footprint.starts t, start.snapshot.Holds (s.addressee address) start.block) ∧
      Faithful I (s.addressee address) t ∧
      Unrolls a.blocks (Footprint.starts t) cut ∧ Outcome (s.addressee address) cut result := by
  obtain ⟨t, s', e, p', hvisit, htrail, hcarry, -⟩ :=
    run_visits I calm within hp typed (accept_eq_ok_iff.mpr ⟨idle, ready, found, nonempty⟩) distinct
      (shapeKept_meanwhile (typed.isText found) _)
  obtain ⟨cut, hunrolls, hended⟩ := unrolls_of_visit hvisit rfl
  refine ⟨t, cut, resultOf e, htrail, congrArg Prod.snd hcarry, holds_of_visit hvisit,
    faithful_of_visit hvisit, hunrolls, ?_⟩
  cases hended with
  | done => exact .complete
  | @failed start fault heff =>
    have hmem : start ∈ Footprint.starts ((I.run address).trail S answer p.1 p.2) := by
      rw [htrail]
      simp [hunrolls.cut_mem]
    obtain ⟨memory, htime⟩ := Walk.time_of_mem_starts S answer _ _ _ hmem
    obtain ⟨x, hx⟩ := clock memory
    exact .broken (fails_of_effect_error ⟨x, htime.trans hx⟩ heff)

end Interpreter

/-- An action that spares the actor whatever the snapshot is. -/
abbrev Spared (actorId : Datum) := { a : Action // ∀ s, Spares actorId s a }

/-- Others keep to a schedule: at each wait they dispatch the actions of its next batch. -/
def Company.scheduled {σ ι : Type} [DecidableEq ι] (S : Surroundings σ ι) (actorId : Datum) :
    Company σ ι (List (List (Spared actorId))) :=
  fun _ sc batches =>
    (((batches.headD []).foldl (fun sc a => (sc.dispatch S.toAudience a.1).1) sc, batches.tail), none)

theorem Company.scheduled_within {σ ι : Type} [DecidableEq ι] {S : Surroundings σ ι}
    (calm : S.Calm) (actorId : Datum) : (scheduled S actorId).Within (Meanwhile actorId) := by
  have hbatch (batch : List (Spared actorId)) (sc : Scene σ ι) (hkeeps : sc.store.Keeps) :
      let sc' := batch.foldl (fun sc a => (sc.dispatch S.toAudience a.1).1) sc
      sc'.store.Keeps ∧ Meanwhile actorId sc.state sc'.state := by
    induction batch generalizing sc with
    | nil => exact ⟨hkeeps, .refl⟩
    | cons a rest ih =>
      obtain ⟨hstate, hlimit, -⟩ := Audience.dispatch_quiet calm.quiet a.1 (h := sc.toHall) hkeeps
      obtain ⟨hkeeps', hrest⟩ := ih (sc.dispatch S.toAudience a.1).1
        ((congrArg Store.limitFault? hlimit).trans hkeeps)
      exact ⟨hkeeps', .head ⟨a.1, a.2 sc.state, hstate.symm⟩ hrest⟩
  intro seconds sc batches hkeeps
  exact ⟨rfl, hbatch (batches.headD []) sc hkeeps⟩

namespace Interpreter

/-- A stage with one actor, who goes to a place, then ahead, and to another place. -/
def drifter : Snapshot where
  actors := [{
    id := .str "cat"
    name := .str "Cat"
    blocks := [
      { id := .str "go", kind := .str "goto", params := .object [("x", .int 1), ("y", .int 2)] },
      { id := .str "ahead", kind := .str "move", params := .object [("steps", .int 10)] },
      { id := .str "back", kind := .str "goto",
        params := .object [("x", .int 3), ("y", .int 4)] }] }]
  activeActorId := .str "cat"

theorem drifter_typed : drifter.Typed := by
  intro a ha
  cases List.mem_singleton.mp ha
  refine ⟨⟨_, rfl⟩, fun b hb => ?_⟩
  simp only [Forest.preorder_cons, Forest.preorder_nil, List.nil_append, List.append_nil,
    List.mem_cons, List.not_mem_nil, or_false] at hb
  rcases hb with rfl | rfl | rfl
  all_goals exact ⟨⟨⟨_, rfl⟩, ⟨_, rfl⟩⟩, ⟨_, rfl⟩⟩

/-- The scene of the stage, before the run. -/
def drifterScene : Scene Unit Unit := { store := { state := drifter }, memory := () }

/-- Somebody turns the actor to an infinite direction during the first wait. -/
def spin : List (List (Spared (.str "cat"))) :=
  [[⟨.updateActor (.str "cat") (.object [("direction", .float Double.infinity)]),
    fun _ => .updateActor _ _⟩]]

/-- The run of the drifter keeps to its program, for all that is done to its direction. -/
theorem drifter_follows_edits :
    let I : Interpreter := {}
    let answer := Company.scheduled .silent (.str "cat")
    ∃ t cut result,
      (I.run (.str "")).trail .silent answer drifterScene spin =
        traces (I.opening drifter) ++ t ++ traces [.setRunning (.bool false)] ∧
      ((I.run (.str "")).carry .silent answer drifterScene spin).2 = .ok result ∧
      (∀ start ∈ Footprint.starts t, start.snapshot.Holds (.str "cat") start.block) ∧
      Faithful I (.str "cat") t ∧
      Unrolls (drifter.actors.flatMap (·.blocks)) (Footprint.starts t) cut ∧
      Outcome (.str "cat") cut result := by
  intro I answer
  have found : drifter.addressed? (.str "") = drifter.actors.head? := rfl
  exact run_follows_edits Surroundings.silent_calm (fun _ => ⟨0.0, rfl⟩) I
    (p := (drifterScene, spin)) ⟨rfl, rfl⟩ drifter_typed rfl (by decide) found (by simp)
    (by unfold Forest.Distinct; decide) (Company.scheduled_within Surroundings.silent_calm _)

/-- **Parameters are not all that can end a run.** The parameters of the first two blocks of the
drifter convert, but the run ends at the second of them and the third is never begun, because the
direction of the actor is infinite by then. -/
theorem infinite_direction_cuts :
    let I : Interpreter := {}
    let answer := Company.scheduled .silent (.str "cat")
    let starts := Footprint.starts ((I.run (.str "")).trail .silent answer drifterScene spin)
    starts.map (·.block.kind?) = [some .goto, some .move] ∧
      starts.map (·.block.paramsFault?) = [none, none] ∧
      ((I.run (.str "")).carry .silent answer drifterScene spin).2 =
        .ok (.broken .infiniteAngle) := by
  refine ⟨?_, ?_, ?_⟩
  · decide +kernel
  · decide +kernel
  · decide +kernel

end Interpreter

end SpriteStage
