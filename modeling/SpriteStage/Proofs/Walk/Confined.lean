import SpriteStage.Proofs.Snapshot.Unposed
import SpriteStage.Proofs.Walk.Steps
import SpriteStage.Proofs.Walk.Underway

/-!
# Walks write their own actor only

A run takes its opening steps, does the blocks of its actor and clears the running flag. Between the
opening and the closing it changes nothing but the pose of its actor, and nothing at all while the
actor is not there. So apart from that pose, what the store holds at any point of the run is what
the opening, the interludes and the closing have made of it (`Interpreter.run_confined`).
-/

namespace SpriteStage

variable {σ ι α : Type} [DecidableEq ι]

namespace Walk

/-- Whatever the walk sees and is answered, it dispatches these actions and no others before it
comes to its end, and it does not wait. -/
inductive Issues : List Action → Walk α → Prop
  | done (value : α) : Issues [] (.done value)
  | dispatch {a : Action} {rest : List Action} {next : Option Fault → Walk α} :
      (∀ fault, (next fault).Issues rest) → Issues (a :: rest) (.dispatch a next)
  | enter {actions : List Action} (status : Status) {next : Walk α} :
      next.Issues actions → Issues actions (.enter status next)
  | log {actions : List Action} (line : String) {next : Walk α} :
      next.Issues actions → Issues actions (.log line next)
  | notify {actions : List Action} (text : String) {next : Walk α} :
      next.Issues actions → Issues actions (.notify text next)

variable {S : Surroundings σ ι} {w w' : Walk α} {sc sc' : Scene σ ι}

/-- A step dispatches the next of the actions, or none. -/
theorem Issues.step {actions : List Action} (h : w.Issues actions) (aloof : S.toAudience.Aloof)
    (hstep : w.step? S sc = some (w', sc')) :
    ∃ sent rest, actions = sent ++ rest ∧ w'.Issues rest ∧ sc'.state = sc.state.afterAll sent := by
  cases h with
  | done value => cases hstep
  | @dispatch a rest next hnext =>
    cases hstep
    exact ⟨[a], rest, rfl, hnext _, Audience.dispatch_state aloof a sc.toHall⟩
  | enter status hnext | log line hnext | notify text hnext =>
    cases hstep
    exact ⟨[], actions, rfl, hnext, rfl⟩

end Walk

/-- Whether a walk has come to its end. -/
def Pause.isEnded : Pause α → Bool
  | .ended _ => true
  | .waiting .. => false

namespace Interpreter

theorem clearing_issues {next : Walk (Except Interruption α)} (h : next.Issues []) :
    (clearing next).Issues [.clearing] := by
  refine .dispatch fun fault => ?_
  cases fault with
  | none => exact h
  | some fault => exact .done _

/-- However the blocks have ended, the status is set, and then the flag is cleared and nothing else
is dispatched. -/
theorem exists_finish_eq (actorId : Datum) (outcome : Except Interruption Unit) :
    ∃ status next, finish actorId outcome = .enter status next ∧ next.Issues [.clearing] := by
  match outcome with
  | .ok () => exact ⟨_, _, rfl, clearing_issues <| .log _ <| .notify _ <| .done _⟩
  | .error (.failed fault) => exact ⟨_, _, rfl, .log _ <| .notify _ <| clearing_issues <| .done _⟩
  | .error .cancelled => exact ⟨_, _, rfl, clearing_issues <| .done _⟩

theorem finish_issues (actorId : Datum) (outcome : Except Interruption Unit) :
    (finish actorId outcome).Issues [.clearing] := by
  obtain ⟨status, next, hfinish, hnext⟩ := exists_finish_eq actorId outcome
  rw [hfinish]
  exact .enter status hnext

/-- With this snapshot and status before it, the walk dispatches these actions and then visits the
blocks of its actor, within what blocks can do for it; if one of the actions fails, it closes. -/
inductive Opens (actorId : Datum) :
    Snapshot → Status → List Action → Walk (Except Interruption RunResult) → Prop
  | visit {s : Snapshot} {status : Status} {x : Walk (Except Interruption Unit)} :
      x.Within (Action.OfBlock actorId) → Opens actorId s status [] (x.bind (finish actorId))
  | look {s : Snapshot} {status : Status} {actions : List Action}
      {next : Snapshot → Status → Walk (Except Interruption RunResult)} :
      Opens actorId s status actions (next s status) → Opens actorId s status actions (.look next)
  | dispatch {s : Snapshot} {status : Status} {a : Action} {actions : List Action}
      {next : Option Fault → Walk (Except Interruption RunResult)} :
      Opens actorId (s.after a) status actions (next none) →
      (∀ fault, (next (some fault)).Issues [.clearing]) →
      Opens actorId s status (a :: actions) (.dispatch a next)
  | enter {s : Snapshot} {old status : Status} {actions : List Action}
      {next : Walk (Except Interruption RunResult)} :
      Opens actorId s status actions next → Opens actorId s old actions (.enter status next)
  | log {s : Snapshot} {status : Status} {actions : List Action} (line : String)
      {next : Walk (Except Interruption RunResult)} :
      Opens actorId s status actions next → Opens actorId s status actions (.log line next)
  | notify {s : Snapshot} {status : Status} {actions : List Action} (text : String)
      {next : Walk (Except Interruption RunResult)} :
      Opens actorId s status actions next → Opens actorId s status actions (.notify text next)

variable (I : Interpreter) {actorId address : Datum} {s : Snapshot} {status : Status} {a : Actor}

/-- What the interpreter does for an actor opens with the opening steps. -/
theorem animate_opens (actorId : Datum) (s : Snapshot) (status : Status) (a : Actor) :
    Opens actorId s status (I.opening s) ((I.animate actorId a).run.bind (finish actorId)) := by
  let reset (a : Actor) : Actor :=
    { a with x := .float 0.0, y := .float 0.0, direction := I.home, message := .null }
  let s₂ := (s.after (.setRunning (.bool true))).after
    (.resetActors (.float 0.0) (.float 0.0) I.home)
  have hswap : s₂.swapping = s.swapping :=
    Snapshot.swapping_map (g := reset) (fun _ => rfl) (fun _ => rfl) (fun _ => rfl) rfl
  have hblocks (room : Nat) :
      (Attempt.each (I.step actorId room) a.blocks).Within (Action.OfBlock actorId) :=
    (Attempt.Made.each (I.step_made actorId room) a.blocks).within
  refine .dispatch (.dispatch (.look ?_) fun fault => finish_issues actorId _)
    fun fault => finish_issues actorId _
  show Opens actorId s₂ status s.swapping _
  rw [← hswap, swapping_eq]
  dsimp only [Walk.bind, Function.comp_apply, ExceptT.bindCont]
  cases pairToSwap? s₂ with
  | none => exact .visit (hblocks _)
  | some pair =>
    exact .dispatch (.log _ (.notify _ (.visit (hblocks _)))) fun fault => finish_issues actorId _

/-- A run that is not refused opens with the opening steps. -/
theorem run_opens (haccept : accept s status address = .ok a) :
    Opens (s.addressee address) s status (I.opening s) (I.run address) := by
  refine .look ?_
  simp only [haccept]
  exact .enter (.log _ (I.animate_opens _ s .running a))

/-- A walk that opens and waits has opened. -/
theorem Opens.of_wait {actions : List Action} {seconds : Datum}
    {next : Option Interruption → Walk (Except Interruption RunResult)}
    (h : Opens actorId s status actions (.wait seconds next)) :
    actions = [] ∧ ∀ interruption s' status', Opens actorId s' status' [] (next interruption) := by
  generalize hw : Walk.wait seconds next = w at h
  cases h with
  | visit hx =>
    refine ⟨rfl, fun interruption s' status' => ?_⟩
    cases hx with
    | done outcome =>
      obtain ⟨_, _, hfinish, -⟩ := exists_finish_eq actorId outcome
      cases hw.trans hfinish
    | wait seconds hnext =>
      cases hw
      exact .visit (hnext interruption)
    | _ => cases hw
  | _ => cases hw

/-- A walk that opens or visits its blocks is not at its end. -/
theorem Opens.ne_done {actions : List Action} {w : Walk (Except Interruption RunResult)}
    (h : Opens actorId s status actions w) (value : Except Interruption RunResult) :
    w ≠ .done value := by
  cases h with
  | @visit _ _ x _ =>
    cases x with
    | done outcome =>
      obtain ⟨_, _, hfinish, -⟩ := exists_finish_eq actorId outcome
      rw [Walk.bind, hfinish]
      rintro ⟨⟩
    | _ => rintro ⟨⟩
  | _ => rintro ⟨⟩

variable {S : Surroundings σ ι} {w w' : Walk (Except Interruption RunResult)}
  {sc sc' : Scene σ ι}

/-- A step of a walk that visits the blocks of its actor changes at most the pose of the actor. -/
theorem visit_step {x : Walk (Except Interruption Unit)} (hx : x.Within (Action.OfBlock actorId))
    (aloof : S.toAudience.Aloof) (hstep : (x.bind (finish actorId)).step? S sc = some (w', sc')) :
    (Opens actorId sc'.state sc'.status [] w' ∨ w'.Issues [.clearing]) ∧
      sc'.state.unposed actorId = sc.state.unposed actorId := by
  cases hx with
  | done outcome =>
    obtain ⟨status, next, hfinish, hnext⟩ := exists_finish_eq actorId outcome
    rw [Walk.bind, hfinish] at hstep
    cases hstep
    exact ⟨.inr hnext, rfl⟩
  | @dispatch a next ha hnext =>
    cases hstep
    refine ⟨.inl (.visit (hnext _)), ?_⟩
    have hsent : (sc.dispatch S.toAudience a).1.state = sc.state.after a :=
      Audience.dispatch_state aloof a sc.toHall
    exact (congrArg _ hsent).trans (Snapshot.unposed_of_block ha sc.state)
  | wait seconds hnext =>
    obtain ⟨fault, -, hpoint⟩ := Option.map_eq_some_iff.mp hstep
    cases hpoint
    exact ⟨.inl (.visit (hnext _)), rfl⟩
  | look hnext =>
    cases hstep
    exact ⟨.inl (.visit (hnext _ _)), rfl⟩
  | clock hnext =>
    cases hstep
    exact ⟨.inl (.visit (hnext _)), rfl⟩
  | begin block hnext | log line hnext | notify text hnext =>
    cases hstep
    exact ⟨.inl (.visit hnext), rfl⟩

/-- A step of an opening walk dispatches the next of the actions, or changes at most the pose of the
actor. -/
theorem Opens.step {actions : List Action} (h : Opens actorId sc.state sc.status actions w)
    (aloof : S.toAudience.Aloof) (hstep : w.step? S sc = some (w', sc')) :
    ∃ sent rest, actions = sent ++ rest ∧
      (Opens actorId sc'.state sc'.status rest w' ∨ w'.Issues [.clearing]) ∧
      sc'.state.unposed actorId = (sc.state.afterAll sent).unposed actorId := by
  generalize hs : sc.state = s, hstatus : sc.status = status at h
  cases h with
  | visit hx => exact ⟨[], [], rfl, hs ▸ visit_step hx aloof hstep⟩
  | look hnext =>
    cases hstep
    subst hs hstatus
    exact ⟨[], actions, rfl, .inl hnext, rfl⟩
  | @dispatch _ _ a rest next hnext hfailed =>
    have hsent : (sc.dispatch S.toAudience a).1.state = s.after a := by
      rw [← hs]
      exact Audience.dispatch_state aloof a sc.toHall
    rw [Walk.step?_dispatch] at hstep
    obtain ⟨rfl, rfl⟩ := Prod.mk.inj (Option.some.inj hstep)
    refine ⟨[a], rest, rfl, ?_, congrArg (Snapshot.unposed actorId) hsent⟩
    cases Dispatched.fault? (sc.dispatch S.toAudience a).2 with
    | none =>
      rw [hsent, Scene.dispatch_status, hstatus]
      exact .inl hnext
    | some fault => exact .inr (hfailed fault)
  | enter hnext =>
    cases hstep
    exact ⟨[], actions, rfl, .inl (hs ▸ hnext), congrArg _ hs⟩
  | log line hnext | notify text hnext =>
    cases hstep
    exact ⟨[], actions, rfl, .inl (hs ▸ hstatus ▸ hnext), congrArg _ hs⟩

/-- Where a walk can be that opened with these actions in this snapshot. -/
inductive Tracked (actorId : Datum) (opening : List Action) (s : Snapshot)
    (is : List (Interlude σ)) (w : Walk (Except Interruption RunResult)) (sc : Scene σ ι) : Prop
  /-- It opens, or visits the blocks of its actor. -/
  | visiting {sent todo : List Action} :
      opening = sent ++ todo → (todo ≠ [] → is = []) →
      Opens actorId sc.state sc.status todo w →
      sc.state.unposed actorId =
        (s.afterAll (sent ++ is.flatMap (·.actions))).unposed actorId →
      Tracked actorId opening s is w sc
  /-- It closes. -/
  | closing {sent cleared todo : List Action} :
      sent <+: opening → (sent ≠ opening → is = []) →
      [Action.clearing] = cleared ++ todo → w.Issues todo →
      sc.state.unposed actorId =
        (s.afterAll (sent ++ is.flatMap (·.actions) ++ cleared)).unposed actorId →
      Tracked actorId opening s is w sc

variable {opening : List Action} {is : List (Interlude σ)}

theorem Tracked.step (h : Tracked actorId opening s is w sc) (aloof : S.toAudience.Aloof)
    (hstep : w.step? S sc = some (w', sc')) : Tracked actorId opening s is w' sc' := by
  cases h with
  | @visiting sent todo hopening his hw hs =>
    obtain ⟨dispatched, rest, rfl, hw', hs'⟩ := hw.step aloof hstep
    have hopening' : opening = (sent ++ dispatched) ++ rest := by simp [hopening]
    have his' : rest ≠ [] → is = [] := fun hrest => his (by simp [hrest])
    have hs'' : sc'.state.unposed actorId =
        (s.afterAll (sent ++ dispatched ++ is.flatMap (·.actions))).unposed actorId := by
      rw [hs', Snapshot.afterAll_congr_unposed hs, ← Snapshot.afterAll_append]
      -- what is sent now comes before all interludes, since there were none yet
      cases dispatched with
      | nil => simp
      | cons action dispatched => simp [his (by simp)]
    rcases hw' with hw' | hw'
    · exact .visiting hopening' his' hw' hs''
    · refine .closing ⟨rest, hopening'.symm⟩ (fun hsent => his' fun hrest => hsent ?_) rfl hw'
        (by rwa [List.append_nil])
      rw [hopening', hrest, List.append_nil]
  | @closing sent cleared todo hsent his hclearing hw hs =>
    obtain ⟨dispatched, rest, rfl, hw', hs'⟩ := hw.step aloof hstep
    refine .closing hsent his (hclearing.trans (List.append_assoc _ _ _).symm) hw' ?_
    rw [hs', Snapshot.afterAll_congr_unposed hs, ← Snapshot.afterAll_append, List.append_assoc,
      List.append_assoc]

/-- A walk that has come to wait has opened and does not close yet. -/
theorem Tracked.of_waiting (h : Tracked actorId opening s is w sc) (aloof : S.toAudience.Aloof)
    {seconds : Datum} {resume : Option Interruption → Walk (Except Interruption RunResult)}
    (hwait : w.advance S sc = (sc', .waiting seconds resume)) :
    (∀ interruption s' status', Opens actorId s' status' [] (resume interruption)) ∧
      sc'.state.unposed actorId =
        (s.afterAll (opening ++ is.flatMap (·.actions))).unposed actorId := by
  obtain ⟨w₁, sc₁, h₁, hstuck, hadvance⟩ :=
    Walk.exists_advance_eq (fun h hstep => h.step aloof hstep) h
  obtain ⟨value, -, hended⟩ | ⟨seconds', next, rfl, hwaits⟩ := Walk.advance_of_stuck hstuck
  · cases hwait.symm.trans (hadvance.trans hended)
  · cases hwait.symm.trans (hadvance.trans hwaits)
    cases h₁ with
    | @visiting sent todo hopening his hw hs =>
      obtain ⟨rfl, hnext⟩ := hw.of_wait
      rw [List.append_nil] at hopening
      exact ⟨hnext, hopening ▸ hs⟩
    | closing _ _ _ hw _ => cases hw

theorem Tracked.interlude (h : Tracked actorId opening s is w sc) (aloof : S.toAudience.Aloof)
    {seconds : Datum} {resume : Option Interruption → Walk (Except Interruption RunResult)}
    (hwait : w.advance S sc = (sc', .waiting seconds resume)) (i : Interlude σ) :
    Tracked actorId opening s (is ++ [i]) (resume i.interruption) (i.run S sc') := by
  obtain ⟨hresume, hs⟩ := h.of_waiting aloof hwait
  refine .visiting (List.append_nil opening).symm (fun h => absurd rfl h) (hresume _ _ _) ?_
  rw [Interlude.run_state aloof, List.flatMap_append, List.flatMap_singleton, ← List.append_assoc,
    Snapshot.afterAll_append]
  exact Snapshot.afterAll_congr_unposed hs i.actions

/-- A walk that opens can be tracked all the way. -/
theorem Opens.tracked (hw : Opens actorId sc.state sc.status opening w) (aloof : S.toAudience.Aloof)
    (h : w.Reaches S sc is w' sc') : Tracked actorId opening sc.state is w' sc' := by
  induction h with
  | start =>
    have hopening : opening = [] ++ opening := rfl
    exact .visiting hopening (fun _ => rfl) hw rfl
  | step _ hstep ih => exact ih.step aloof hstep
  | interlude i _ hwait ih => exact ih.interlude aloof hwait i

/-- What a run has dispatched of its closing when this is left of it: nothing while it waits, and
all of it at its end. -/
structure Cleared (cleared : List Action) (w : Walk (Except Interruption RunResult)) : Prop where
  part : cleared <+: [.clearing]
  waiting : ∀ seconds next, w = .wait seconds next → cleared = []
  ended : ∀ value, w = .done value → cleared = [.clearing]

/-- The closing has nothing to do with who is there. -/
theorem Cleared.actor? {cleared : List Action} (h : Cleared cleared w) (s : Snapshot) (id : Datum) :
    (s.afterAll cleared).actor? id = s.actor? id := by
  obtain ⟨todo, htodo⟩ := h.part
  obtain ⟨rfl, -⟩ | ⟨rfl, -⟩ := List.append_eq_singleton_iff.mp htodo
  · rfl
  · cases id <;> rfl

/-- Apart from the pose of its actor, what the store holds at any point of a walk that opened is
what the opening, the interludes and the closing have made of it. -/
theorem Opens.confined (hw : Opens actorId sc.state sc.status opening w)
    (aloof : S.toAudience.Aloof) (h : w.Reaches S sc is w' sc') :
    ∃ sent cleared, sent <+: opening ∧ (is ≠ [] → sent = opening) ∧
      (∀ seconds next, w' = .wait seconds next → sent = opening) ∧ Cleared cleared w' ∧
      sc'.state.unposed actorId =
        (sc.state.afterAll (sent ++ is.flatMap (·.actions) ++ cleared)).unposed actorId := by
  cases hw.tracked aloof h with
  | @visiting sent todo hopening his hw' hs =>
    have hsent (htodo : todo = []) : sent = opening := by rw [hopening, htodo, List.append_nil]
    refine ⟨sent, [], ⟨todo, hopening.symm⟩, fun hne => ?_, fun seconds next hwait => ?_,
      ⟨List.nil_prefix, fun _ _ _ => rfl, fun value hdone => ?_⟩, by simpa using hs⟩
    · exact hsent (by_contra fun htodo => hne (his htodo))
    · subst hwait
      exact hsent hw'.of_wait.1
    · exact absurd hdone (hw'.ne_done value)
  | @closing sent cleared todo hsent his hclearing hw' hs =>
    refine ⟨sent, cleared, hsent, fun hne => ?_, fun seconds next hwait => ?_,
      ⟨⟨todo, hclearing.symm⟩, fun seconds next hwait => ?_, fun value hdone => ?_⟩, hs⟩
    · exact by_contra fun h => hne (his h)
    · subst hwait
      cases hw'
    · subst hwait
      cases hw'
    · subst hdone
      cases hw'
      simpa using hclearing.symm

/-- A run that is refused has not looked yet, or it has and comes to its end without a dispatch. -/
def Refused (I : Interpreter) (address : Datum) (sc : Scene σ ι)
    (w : Walk (Except Interruption RunResult)) (sc' : Scene σ ι) : Prop :=
  w = I.run address ∧ sc' = sc ∨ w.Issues [] ∧ sc'.state = sc.state

theorem Refused.step {cause : RunRefusal} {w₁ w₂ : Walk (Except Interruption RunResult)}
    {sc₁ sc₂ : Scene σ ι} (h : Refused I address sc w₁ sc₁) (aloof : S.toAudience.Aloof)
    (haccept : accept sc.state sc.status address = .error cause)
    (hstep : w₁.step? S sc₁ = some (w₂, sc₂)) : Refused I address sc w₂ sc₂ := by
  rcases h with ⟨rfl, rfl⟩ | ⟨hw, hs⟩
  · rw [run, Walk.step?, haccept] at hstep
    obtain ⟨rfl, rfl⟩ := Prod.mk.inj (Option.some.inj hstep)
    refine .inr ⟨?_, rfl⟩
    cases cause <;> first | exact .notify _ (.done _) | exact .done _
  · obtain ⟨sent, rest, hnil, hw', hs'⟩ := hw.step aloof hstep
    obtain ⟨rfl, rfl⟩ := List.append_eq_nil_iff.mp hnil.symm
    exact .inr ⟨hw', hs'.trans hs⟩

/-- A run that is refused does not wait, and leaves the store alone. -/
theorem refused_of_reaches (aloof : S.toAudience.Aloof) {cause : RunRefusal}
    (haccept : accept sc.state sc.status address = .error cause)
    (h : (I.run address).Reaches S sc is w sc') : Refused I address sc w sc' ∧ is = [] := by
  induction h with
  | start => exact ⟨.inl ⟨rfl, rfl⟩, rfl⟩
  | step _ hstep ih => exact ⟨ih.1.step I aloof haccept hstep, ih.2⟩
  | interlude i _ hwait ih =>
    obtain ⟨w₁, sc₁, h₁, hstuck, hadvance⟩ :=
      Walk.exists_advance_eq (fun h hstep => Refused.step I h aloof haccept hstep) ih.1
    obtain ⟨value, -, hended⟩ | ⟨seconds, next, rfl, -⟩ := Walk.advance_of_stuck hstuck
    · cases hwait.symm.trans (hadvance.trans hended)
    · obtain ⟨hrun, -⟩ | ⟨hissues, -⟩ := h₁
      · cases hrun
      · cases hissues

/-- **A walk writes its own actor only.** Whatever listeners fail, so long as they dispatch nothing
themselves, whatever others do while the walk waits, and however its waits end: apart from the pose
of the walked actor, what the store holds at any point of a run is what its opening steps, the
interludes and its closing have made of what there was at the beginning; and between one wait and
the next, or the end, the walk changes no more than that pose, but for the clearing of the flag at
its end; and it does not change that either if the actor is not there. A run that is refused changes
nothing. -/
theorem run_confined (I : Interpreter) (aloof : S.toAudience.Aloof) {address : Datum}
    (h : (I.run address).Reaches S sc is w sc') :
    let actorId := sc.state.addressee address
    match accept sc.state sc.status address with
    | .error _ => is = [] ∧ sc'.state = sc.state
    | .ok _ =>
      (∃ opened cleared, opened <+: I.opening sc.state ∧ (is ≠ [] → opened = I.opening sc.state) ∧
        (∀ seconds next, w = .wait seconds next → opened = I.opening sc.state) ∧
        Cleared cleared w ∧
        sc'.state.unposed actorId =
          (sc.state.afterAll (opened ++ is.flatMap (·.actions) ++ cleared)).unposed actorId) ∧
      ∀ {sc₁ seconds resume}, w.advance S sc' = (sc₁, .waiting seconds resume) →
        ∀ (i : Interlude σ) {w₂ sc₂},
          (resume i.interruption).Reaches S (i.run S sc₁) [] w₂ sc₂ →
          ∃ cleared, Cleared cleared w₂ ∧
            sc₂.state.unposed actorId =
              ((i.run S sc₁).state.afterAll cleared).unposed actorId ∧
            ((i.run S sc₁).state.actor? actorId = none →
              sc₂.state = (i.run S sc₁).state.afterAll cleared) := by
  intro actorId
  cases haccept : accept sc.state sc.status address with
  | error cause =>
    obtain ⟨⟨-, rfl⟩ | ⟨-, hs⟩, his⟩ := I.refused_of_reaches aloof haccept h
    · exact ⟨his, rfl⟩
    · exact ⟨his, hs⟩
  | ok a =>
    have hopens : Opens actorId sc.state sc.status (I.opening sc.state) (I.run address) :=
      I.run_opens haccept
    refine ⟨hopens.confined aloof h, ?_⟩
    intro sc₁ seconds resume hwait i w₂ sc₂ hreaches
    obtain ⟨hresume, -⟩ := (hopens.tracked aloof h).of_waiting aloof hwait
    obtain ⟨opened, cleared, hopened, -, -, hcleared, hs⟩ :=
      (hresume i.interruption _ _).confined aloof hreaches
    obtain rfl := List.prefix_nil.mp hopened
    rw [List.nil_append, List.flatMap_nil, List.nil_append] at hs
    refine ⟨cleared, hcleared, hs, fun habsent => ?_⟩
    obtain ⟨-, -, ha, -⟩ := accept_eq_ok_iff.mp haccept
    have hid : actorId ≠ .null := (Snapshot.actor?_eq_some_iff.mp ha).1
    exact Snapshot.eq_of_unposed_eq hs hid ((hcleared.actor? _ _).trans habsent)

/-- An actor that is to go to two places. -/
def rover : Actor where
  id := .str "rover"
  name := .str "Rover"
  blocks := [
    { id := .str "there", kind := .str "goto", params := .object [("x", .float 5.0)] },
    { id := .str "back", kind := .str "goto", params := .object [("x", .float 0.0)] }]

/-- The rover on a stage with somebody else. -/
def roverScene : Scene Unit Unit where
  store := { state := {
    actors := [rover, { id := .str "idler", name := .str "Idler" }]
    activeActorId := rover.id } }
  memory := ()

/-- The rover is taken away at its first wait. If it is brought back and the run is called off, the
stage is at the end what the opening, those two actions and the closing have made of it, but for
the pose of the rover. If it stays away and the run goes on, then up to the next wait nothing
changes. -/
theorem rover_confined :
    let I : Interpreter := { spare := 0 }
    let S := Surroundings.silent
    let back : Interlude Unit :=
      ⟨[.dispatch (.removeActor rover.id), .dispatch (.addActor rover)], some .cancelled⟩
    let gone : Interlude Unit := ⟨[.dispatch (.removeActor rover.id)], none⟩
    ∃ sc seconds resume,
      (I.run (.str "")).advance S roverScene = (sc, .waiting seconds resume) ∧
      ((resume back.interruption).advance S (back.run S sc)).1.state.unposed rover.id =
        (roverScene.state.afterAll
          (I.opening roverScene.state ++ back.actions ++ [.clearing])).unposed rover.id ∧
      ((resume gone.interruption).advance S (gone.run S sc)).1.state = (gone.run S sc).state := by
  intro I S back gone
  have aloof : S.toAudience.Aloof := Surroundings.silent_calm.quiet.aloof
  have hstart : (I.run (.str "")).Reaches S roverScene [] (I.run (.str "")) roverScene := .start
  have hpauses : (match (I.run (.str "")).advance S roverScene with
      | (sc, .waiting _ resume) =>
        ((resume back.interruption).advance S (back.run S sc)).2.isEnded &&
          !((resume gone.interruption).advance S (gone.run S sc)).2.isEnded &&
          ((gone.run S sc).state.actor? rover.id).isNone
      | (_, .ended _) => false) = true := by decide +kernel
  obtain ⟨sc, pause, hwait⟩ : ∃ sc pause, (I.run (.str "")).advance S roverScene = (sc, pause) :=
    ⟨_, _, rfl⟩
  rw [hwait] at hpauses
  cases pause with
  | ended value => cases hpauses
  | waiting seconds resume =>
    simp only [Bool.and_eq_true, Bool.not_eq_true', Option.isNone_iff_eq_none] at hpauses
    obtain ⟨⟨hback, hgone⟩, habsent⟩ := hpauses
    refine ⟨sc, seconds, resume, hwait, ?_, ?_⟩
    · obtain ⟨w, sc', hreaches, hstate, hpause⟩ :=
        (hstart.interlude back hwait).exists_of_advance
      obtain ⟨opened, cleared, -, hopened, -, hcleared, hs⟩ :=
        (run_confined I aloof hreaches).1
      obtain ⟨value, hw, -⟩ | ⟨_, _, -, hwaits⟩ := hpause
      · rw [hopened (by simp), hcleared.ended value hw, List.nil_append,
          List.flatMap_singleton] at hs
        rw [hstate]
        exact hs
      · rw [hwaits] at hback
        cases hback
    · have hresumed : (resume gone.interruption).Reaches S (gone.run S sc) []
          (resume gone.interruption) (gone.run S sc) := .start
      obtain ⟨w, sc', hreaches, hstate, hpause⟩ := hresumed.exists_of_advance
      obtain ⟨cleared, hcleared, -, hs⟩ :=
        (run_confined I aloof hstart).2 hwait gone hreaches
      obtain ⟨value, -, hended⟩ | ⟨seconds', next, hw, -⟩ := hpause
      · rw [hended] at hgone
        cases hgone
      · rw [hstate, hs habsent, hcleared.waiting seconds' next hw]
        rfl

end Interpreter

end SpriteStage
