import SpriteStage.Proofs.Stage.Work

/-!
# Sessions

A session is what becomes of a stage: its operations in any order, with any data, and between them
turns of runs and tick loops and ends of waits, in any order too. None of them takes it away that
the scene is sound, so every snapshot of a session is well-formed (`Session.snapshots_wellFormed`).
-/

namespace SpriteStage

/-- What a user can do with a stage. -/
inductive Operation where
  | addBlock (kind address : Datum)
  | removeBlock (blockId address : Datum)
  | updateBlock (blockId params address : Datum)
  | addChild (parentId kind address : Datum)
  | clearBlocks (address : Datum)
  | addActor
  | removeActor (actorId : Datum)
  | selectActor (actorId : Datum)
  /-- Asks for a run and waits for its end, which others need not do. -/
  | run (address : Datum)
  | startRun (address : Datum)
  | stop

/-- What becomes of the stage, whatever the answer is. -/
def Operation.perform (s : Stage) : Operation → Stage
  | addBlock kind address => ((Stage.addBlock kind address).run.run s).2
  | removeBlock blockId address => ((Stage.removeBlock blockId address).run.run s).2
  | updateBlock blockId params address => ((Stage.updateBlock blockId params address).run.run s).2
  | addChild parentId kind address => ((Stage.addChild parentId kind address).run.run s).2
  | clearBlocks address => ((Stage.clearBlocks address).run.run s).2
  | addActor => (Stage.addActor.run.run s).2
  | removeActor actorId => ((Stage.removeActor actorId).run.run s).2
  | selectActor actorId => ((Stage.selectActor actorId).run.run s).2
  | run address => { s with scene := (StageScene.addRun address s.scene).2 }
  | startRun address => (s.startRun address).2
  | stop => (Stage.stop.run.run s).2

/-- The work of an operation that is an edit. -/
def Operation.edit? : Operation → Option (Stage.Work Answer)
  | addBlock kind address => some (Stage.addBlock kind address)
  | removeBlock blockId address => some (Stage.removeBlock blockId address)
  | updateBlock blockId params address => some (Stage.updateBlock blockId params address)
  | addChild parentId kind address => some (Stage.addChild parentId kind address)
  | clearBlocks address => some (Stage.clearBlocks address)
  | addActor => some Stage.addActor
  | removeActor actorId => some (Stage.removeActor actorId)
  | selectActor _ | run _ | startRun _ | stop => none

/-- The action is one that a user asks for: an edit, another active actor, or to stop. -/
inductive Action.Asked (D : Supply → Prop) : Action → Prop
  | edit {a : Action} : a.Edit D → Asked D a
  | selectActor (actorId : Datum) : Asked D (.selectActor actorId)
  | stop : Asked D (.setRunning (.bool false))

theorem Action.Asked.sound {D : Supply → Prop} {a : Action} (h : a.Asked D) : a.Sound := by
  cases h with
  | edit h => exact h.sound
  | _ => trivial

namespace Operation

theorem guarded_of_edit? {o : Operation} {w : Stage.Work Answer} (h : o.edit? = some w) :
    w.Guarded (fun _ => True) fun _ => True := by
  cases o with
  | addBlock => cases h; exact Stage.guarded_addBlock (fun _ => trivial) _ _
  | removeBlock => cases h; exact Stage.guarded_removeBlock _ _
  | updateBlock => cases h; exact Stage.guarded_updateBlock trivial (fun _ _ => trivial) _
  | addChild => cases h; exact Stage.guarded_addChild trivial (fun _ => trivial) _ _ _
  | clearBlocks => cases h; exact Stage.guarded_clearBlocks _
  | addActor => cases h; exact Stage.guarded_addActor fun _ => trivial
  | removeActor => cases h; exact Stage.guarded_removeActor _
  | _ => cases h

theorem isEdit_of_edit? {o : Operation} {w : Stage.Work Answer} (h : o.edit? = some w) :
    w.IsEdit := .of_guarded (guarded_of_edit? h)

theorem perform_of_edit? {o : Operation} {w : Stage.Work Answer} (h : o.edit? = some w)
    (s : Stage) : o.perform s = (w.run.run s).2 := by
  cases o <;> cases h <;> rfl

variable {s : Stage}

/-- An operation dispatches what a user can ask for and takes notes, or it brings in a further run.
-/
theorem perform_cases {D : Supply → Prop} (hD : Supply.Kept D) (hs : D s.supply) (o : Operation) :
    D (o.perform s).supply ∧ (s.scene.Works (Action.Asked D) (o.perform s).scene ∨
      ∃ address, (o.perform s).scene = (StageScene.addRun address s.scene).2) := by
  cases hedit : o.edit? with
  | some w =>
    obtain ⟨hworks, hsupply⟩ := (isEdit_of_edit? hedit).works hD hs
    rw [perform_of_edit? hedit]
    exact ⟨hsupply, .inl (hworks.mono fun _ => .edit)⟩
  | none =>
    cases o with
    | selectActor actorId =>
      obtain ⟨hworks, hsupply, -⟩ := Stage.yields_selectActor D actorId s hs
      refine ⟨hsupply, .inl (hworks.mono ?_)⟩
      rintro a rfl
      exact .selectActor actorId
    | run address => exact ⟨hs, .inr ⟨address, rfl⟩⟩
    | startRun address =>
      have hperform : perform s (.startRun address) = (s.startRun address).2 := rfl
      rcases s.startRun_cases address with h | h <;> rw [hperform, h]
      · exact ⟨hs, .inl .refl⟩
      · exact ⟨hs, .inr ⟨address, rfl⟩⟩
    | stop =>
      obtain ⟨hworks, hsupply, -⟩ := Stage.yields_stop D s hs
      refine ⟨hsupply, .inl (hworks.mono ?_)⟩
      rintro a rfl
      exact .stop
    | _ => cases hedit

/-- All operations are aside from walks. -/
theorem perform_aside (s : Stage) (o : Operation) :
    s.scene.Aside (Action.Asked fun _ => True) (o.perform s).scene := by
  obtain ⟨-, hworks | ⟨address, hscene⟩⟩ := perform_cases Supply.kept_true (s := s) trivial o
  · exact hworks.aside
  · rw [hscene]
    exact StageScene.addRun_aside address s.scene

end Operation

namespace Session

/-- What happens next on a stage. -/
inductive Occurrence where
  /-- A user does something. -/
  | operation (o : Operation)
  /-- The one at a position of the queue goes on to its next wait or its end. -/
  | turn (position : Nat)
  /-- A wait ends at a time, of itself or interrupted. -/
  | wake (who : Turn) (interruption : Option Interruption) (now : Number)

/-- Lets the one at a position of the queue go first. -/
def called (position : Nat) (b : Backstage) : Backstage :=
  { b with ready := b.ready[position]?.toList ++ b.ready.eraseIdx position }

/-- What becomes of the stage. -/
def Occurrence.follow (s : Stage) : Occurrence → Stage
  | .operation o => o.perform s
  | .turn position =>
    { s with scene := StageScene.turn s.interpreter (s.scene.mapMemory (called position)) }
  | .wake who interruption now =>
    { s with scene := s.scene.mapMemory fun b => StageScene.rouse who interruption { b with now } }

/-- The stage at the beginning, with an empty history of any limit. -/
def opened (I : Interpreter) (supply : Supply) (tick limit : Datum) (now : Number)
    (scheduling : Bool) : Stage :=
  let stage := Stage.create .initial { now, detector := { tick }, scheduling } I supply
  { stage with scene := { stage.scene with store := { stage.scene.store with limit } } }

/-- The stage after all this happened, in order. -/
def after (happened : List Occurrence) (s : Stage) : Stage := happened.foldl Occurrence.follow s

section Enduring

variable {P : Action → Prop} {K : Store Listener → Prop} {s : Stage}

theorem follow_enduring (hK : Store.Endures P K) (hasked : ∀ a, a.Asked (fun _ => True) → P a)
    (hacted : ∀ home a, Action.Acted home a → P a) (hs : s.scene.Enduring P K) (o : Occurrence) :
    (o.follow s).scene.Enduring P K := by
  cases o with
  | operation o => exact hs.aside hK hasked (o.perform_aside s)
  | turn position =>
    have hcalled : StageScene.Enduring P K (s.scene.mapMemory (called position)) :=
      ⟨hs.record, hs.walks⟩
    exact hcalled.turn hK hacted s.interpreter
  | wake who interruption now => exact hs.rouse hK who interruption now

/-- **What endures lasts through a session**, if it endures what users ask for and what runs do. -/
theorem after_enduring (hK : Store.Endures P K) (hasked : ∀ a, a.Asked (fun _ => True) → P a)
    (hacted : ∀ home a, Action.Acted home a → P a) (hs : s.scene.Enduring P K)
    (happened : List Occurrence) : (after happened s).scene.Enduring P K := by
  unfold after
  induction happened generalizing s with
  | nil => exact hs
  | cons o rest ih => exact ih (follow_enduring hK hasked hacted hs o)

end Enduring

theorem after_sound {s : Stage} (hs : s.scene.Sound) (happened : List Occurrence) :
    (after happened s).scene.Sound := by
  rw [StageScene.sound_iff] at hs ⊢
  exact after_enduring StageScene.wellFormed_endures (fun _ => Action.Asked.sound)
    (fun _ _ => Action.Acted.sound) hs happened

theorem initial_wellFormed : Snapshot.WellFormed .initial where
  nonempty := nofun
  texts a ha := by
    cases List.mem_singleton.mp ha
    exact ⟨_, rfl⟩
  distinct := List.pairwise_singleton _ _
  active := ⟨_, List.mem_singleton_self _, rfl⟩
  programs a ha := by
    cases List.mem_singleton.mp ha
    exact Forest.sound_nil

theorem opened_sound (I : Interpreter) (supply : Supply) (tick limit : Datum) (now : Number)
    (scheduling : Bool) : (opened I supply tick limit now scheduling).scene.Sound := by
  have hstate : (opened I supply tick limit now scheduling).scene.store.state = .initial := rfl
  have hhistory : (opened I supply tick limit now scheduling).scene.store.history = [] := rfl
  refine ⟨fun s hs => ?_, fun resume hresume => nomatch hresume⟩
  rw [hhistory] at hs
  rw [List.mem_singleton.mp hs, hstate]
  exact initial_wellFormed

/-- **Every snapshot of a session is well-formed**, whatever the operations are given, whatever
identifiers are drawn, and in whatever order runs and tick loops go on between them. -/
theorem snapshots_wellFormed (I : Interpreter) (supply : Supply) (tick limit : Datum) (now : Number)
    (scheduling : Bool) (happened : List Occurrence) :
    let store := (after happened (opened I supply tick limit now scheduling)).scene.store
    ∀ s ∈ store.state :: store.history, s.WellFormed :=
  (after_sound (opened_sound I supply tick limit now scheduling) happened).snapshots

/-- The third block would have the identifier of the second one, and the actor is taken away from
its walk once the run is stopped. -/
def crossed : Stage :=
  after [.operation (.addBlock (.str "repeat") .null),
    .operation (.addChild (.str "aaaaaaaaa") (.str "move") .null),
    .operation (.addChild (.str "aaaaaaaaa") (.str "turn") .null),
    .operation .addActor,
    .operation (.startRun (.str "sprite1")), .turn 0,
    .operation .stop,
    .operation (.removeActor (.str "sprite1")),
    .wake (.run 0) none (.float 1000.5), .turn 1]
    (opened {} { given := ["aaaaaaaaa", "bbbbbbbbb", "bbbbbbbbb"] } (.float 0.1) (.int 50)
      (.float 1000.0) true)

theorem crossed_wellFormed :
    crossed.scene.store.history.map (·.actors.map fun a => Forest.size a.blocks) =
        [[0], [1], [2], [2, 0], [2, 0], [2, 0], [2, 0], [2, 0], [0]] ∧
      crossed.state.WellFormed := by
  refine ⟨by decide +kernel, ?_⟩
  exact snapshots_wellFormed _ _ _ _ _ _ _ _ List.mem_cons_self

/-! ### The schedule

To wait for the end of a run, or to let everybody go on who can, is nothing but turns and wakes.
-/

variable {s s' s'' : Stage}

/-- The one stage comes of the other in a session. -/
def Leads (s s' : Stage) : Prop := ∃ happened, after happened s = s'

theorem Leads.refl (s : Stage) : Leads s s := ⟨[], rfl⟩

theorem Leads.trans (h : Leads s s') (h' : Leads s' s'') : Leads s s'' := by
  obtain ⟨happened, rfl⟩ := h
  obtain ⟨happened', rfl⟩ := h'
  exact ⟨happened ++ happened', List.foldl_append⟩

theorem leads_follow (s : Stage) (o : Occurrence) : Leads s (o.follow s) := ⟨[o], rfl⟩

theorem called_zero (b : Backstage) : called 0 b = b := by
  have hready : b.ready[0]?.toList ++ b.ready.eraseIdx 0 = b.ready := by
    cases b.ready <;> rfl
  unfold called
  rw [hready]

theorem leads_turn (s : Stage) :
    Leads s { s with scene := StageScene.turn s.interpreter s.scene } := by
  have hturn := leads_follow s (.turn 0)
  simp only [Occurrence.follow, Scene.mapMemory, called_zero] at hturn
  exact hturn

theorem leads_turns (n : Nat) (s : Stage) :
    Leads s { s with scene := StageScene.turns s.interpreter n s.scene } := by
  induction n generalizing s with
  | zero => exact .refl s
  | succ n ih =>
    unfold StageScene.turns
    split_ifs
    · exact .refl s
    · exact (leads_turn s).trans (ih _)

theorem leads_settle (s : Stage) : Leads s s.settle := leads_turns _ s

theorem leads_wake? {sc : StageScene} (h : StageScene.wake? s.interpreter s.scene = some sc) :
    Leads s { s with scene := sc } := by
  obtain ⟨sleeper, -, rfl⟩ := Option.map_eq_some_iff.mp h
  exact (leads_follow s (.wake sleeper.turn none _)).trans (leads_settle _)

theorem leads_wakeUntil (stop : StageScene → Bool) (n : Nat) (s : Stage) :
    Leads s { s with scene := (StageScene.wakeUntil s.interpreter stop n s.scene).2 } := by
  induction n generalizing s with
  | zero => exact .refl s
  | succ n ih =>
    unfold StageScene.wakeUntil
    split_ifs
    · exact .refl s
    · cases h : StageScene.wake? s.interpreter s.scene with
      | none => exact .refl s
      | some sc => exact (leads_wake? h).trans (ih _)

theorem leads_proceed (n : Nat) (s : Stage) : Leads s (s.proceed n).2 :=
  (leads_settle s).trans (leads_wakeUntil _ n s.settle)

theorem leads_runThrough (address : Datum) (n : Nat) (s : Stage) :
    Leads s (s.runThrough address n).2 :=
  ((leads_follow s (.operation (.run address))).trans (leads_settle _)).trans
    (leads_wakeUntil _ n _)

end Session

end SpriteStage
