import SpriteStage.Web.Handling
import SpriteStage.Proofs.Stage.Session

/-!
# How requests are answered

What a handler does is to answer for an operation of the stage, unless its request is refused or
fails before the stage has to do with it (`Web.Answering`). What such an answer says can always be
written. Two handlers are apart: the one shows the stage, and what it shows may have a number that
is too long to be written; the other starts a run.
-/

namespace SpriteStage

/-! ### What answers say -/

theorem Datum.isWritable_object (fields : Fields) : (Datum.object fields).isWritable ↔
    ∀ field ∈ fields, field.1.isWritable ∧ field.2.isWritable := by
  show fieldsWritable fields ↔ _
  induction fields with
  | nil => exact ⟨nofun, fun _ => rfl⟩
  | cons field rest ih =>
    rw [fieldsWritable, Bool.and_eq_true, Bool.and_eq_true, ih, List.forall_mem_cons]

namespace Answer

variable {K K' : Datum → Prop} {a : Answer}

theorem Names.mono (h : a.Names K) (hK : ∀ id, K id → K' id) : a.Names K' := by
  cases a with
  | refused => exact h
  | done notice detail =>
    cases detail with
    | nothing => exact h
    | made | found | actor => exact hK _ h

/-- All that an answer says, under keys that are texts, is of a kind, if truth values and texts are,
and the identifiers that it names. -/
theorem forall_toFields (hnull : K .null) (hbool : ∀ b, K (.bool b)) (hstr : ∀ s, K (.str s))
    (h : a.Names K) :
    ∀ field ∈ a.toFields, (∃ name : String, field.1 = .text name) ∧ K field.2 := by
  have hnotice (notice : Option String) : K (Datum.ofText? notice) := by
    cases notice with
    | none => exact hnull
    | some text => exact hstr text
  have hfield {name : String} {d : Datum} (hd : K d) :
      (∃ name' : String, Key.text name = .text name') ∧ K d := ⟨⟨name, rfl⟩, hd⟩
  cases a with
  | refused cause notice =>
    simp only [toFields, List.forall_mem_cons]
    exact ⟨hfield (hbool _), hfield (hstr _), hfield (hnotice notice), nofun⟩
  | done notice detail =>
    refine List.forall_mem_cons.mpr ⟨hfield (hbool _),
      List.forall_mem_cons.mpr ⟨hfield (hnotice notice), ?_⟩⟩
    cases detail with
    | nothing => exact nofun
    | made | actor => exact List.forall_mem_singleton.mpr (hfield h)
    | found =>
      exact List.forall_mem_cons.mpr ⟨hfield h, List.forall_mem_singleton.mpr (hfield (hbool _))⟩

/-- An answer can be written if the identifiers can that it names. -/
theorem isWritable_toFields (h : a.Names (·.isWritable)) :
    (Datum.object a.toFields).isWritable := by
  refine (Datum.isWritable_object _).mpr fun field hfield => ?_
  obtain ⟨⟨name, hname⟩, hvalue⟩ :=
    forall_toFields (K := (·.isWritable)) rfl (fun _ => rfl) (fun _ => rfl) h field hfield
  exact ⟨hname ▸ rfl, hvalue⟩

end Answer

namespace Web

open Stage (Work)

/-! ### Responses -/

/-- Sending changes nothing, and it comes to a response if the data can be written. -/
theorem run_send (status : Nat) (d : Datum) (s : Stage) : (send status d).run.run s =
    (if d.isWritable then .ok (.json status d) else .error .tooLongToWrite, s) := by
  unfold send Json.write Datum.writing
  split_ifs <;> rfl

theorem send_eq {status : Nat} {d : Datum} (h : d.isWritable) :
    send status d = pure (.json status d) := by
  unfold send Json.write Datum.writing
  rw [if_pos h]
  rfl

/-- The response that carries an answer. -/
def reply (a : Answer) : Response := .json (statusOfAnswer a) (.object a.toFields)

theorem respond_eq {a : Answer} (h : a.Names (·.isWritable)) : respond a = pure (reply a) :=
  send_eq (Answer.isWritable_toFields h)

/-! ### Routing -/

/-- The handler that a request is routed to, and its target taken apart. -/
def Request.handler? (r : Request) : Option (Target × Handler) := do
  let t ← (Target.parse r.target).toOption
  let route ← Route.ofSegments? t.segments
  let h ← route.methods.lookup r.method
  return (t, h)

/-- A request has a handler that performs it, or it leaves the stage as it is. -/
theorem handle_cases (r : Request) :
    (r.handler? = none ∧ ∀ s, ((handle r).run.run s).2 = s) ∨
      ∃ t h, r.handler? = some (t, h) ∧ handle r = perform r t h := by
  have hbind (t : Target) (f : Target → Work Response) :
      (ExceptT.mk (pure (.ok t)) >>= f) = f t := rfl
  unfold Request.handler? handle
  cases Target.parse r.target with
  | error fault => exact .inl ⟨rfl, fun _ => rfl⟩
  | ok t =>
    rw [hbind]
    cases hroute : Route.ofSegments? t.segments with
    | none => exact .inl ⟨by simp [Except.toOption, hroute], fun _ => rfl⟩
    | some route =>
      cases hlookup : route.methods.lookup r.method with
      | none =>
        simp only [hlookup]
        exact .inl ⟨by simp [Except.toOption, hroute, hlookup], fun _ => rfl⟩
      | some h =>
        simp only [hlookup]
        exact .inr ⟨t, h, by simp [Except.toOption, hroute, hlookup], rfl⟩

theorem handle_of_handler? {r : Request} {t : Target} {h : Handler}
    (hr : r.handler? = some (t, h)) : handle r = perform r t h := by
  obtain ⟨hnone, -⟩ | ⟨t', h', hsome, hperform⟩ := handle_cases r
  · cases hr.symm.trans hnone
  · cases hr.symm.trans hsome
    exact hperform

/-! ### Operations that are answered for -/

/-- The work answers for an operation, unless the request is refused or fails first: what the
operation carries into the snapshot is of a kind, and what it names are identifiers of a kind that
can be written. -/
inductive Answering (J K : Datum → Prop) : Work Response → Prop
  | failed (fault : Fault) : Answering J K (throw fault)
  | refused (cause : Refusal) : Answering J K (pure (refusal cause))
  | answered {w : Work Answer} :
      (∀ D, Supply.Kept D → w.Script D (fun a => a.Asked D ∧ a.Carries J)
        (·.Names fun id => K id ∧ id.isWritable)) →
      Answering J K (w >>= respond)

/-- The parameters in the body of the request, if there are any, are of a kind. -/
def Request.Brings (J : Datum → Prop) (r : Request) : Prop :=
  ∀ fields params, readBody r.body = .ok (some fields) →
    bodyField fields "params" = .object params → J (.object params)

namespace Answering

variable {J K : Datum → Prop}

theorem withBody (r : Request) {next : Fields → Work Response}
    (hnext : ∀ fields, readBody r.body = .ok (some fields) → Answering J K (next fields)) :
    Answering J K (withBody r next) := by
  unfold Web.withBody
  cases hread : readBody r.body with
  | error fault => exact .failed fault
  | ok body =>
    cases body with
    | none => exact .refused .badRequest
    | some fields => exact hnext fields hread

theorem guarded {w : Work Answer} (h : w.Guarded J fun id => K id ∧ id.isWritable) :
    Answering J K (w >>= respond) :=
  .answered fun _ hD => (h.script hD).mono (fun _ ha => ⟨.edit ha.1, ha.2⟩) fun _ hanswer => hanswer

theorem withKind (r : Request) {next : Datum → Datum → Work Answer}
    (hnext : ∀ kind address, (next kind address).Guarded J fun id => K id ∧ id.isWritable) :
    Answering J K (withKind r next) := by
  refine withBody r fun fields _ => ?_
  split
  · exact guarded (hnext _ _)
  · exact .refused .badRequest

theorem perform {r : Request} (hr : r.Brings J) (hJ : ∀ id, J (.str id)) (hnull : K .null)
    (hK : ∀ id, K (.str id)) (t : Target) {h : Handler} (hview : h ≠ .view) (hrun : h ≠ .startRun) :
    Answering J K (perform r t h) := by
  have hnull' : K .null ∧ Datum.isWritable .null := ⟨hnull, rfl⟩
  have hK' (id : String) : K (.str id) ∧ Datum.isWritable (.str id) := ⟨hK id, rfl⟩
  cases h with
  | view => exact absurd rfl hview
  | addBlock => exact withKind r (Stage.guarded_addBlock hK')
  | clearBlocks => exact guarded (Stage.guarded_clearBlocks _)
  | updateBlock id =>
    refine withBody r fun fields hfields => ?_
    split
    · rename_i params hparams
      refine guarded (Stage.guarded_updateBlock (hK' id) (fun entries hentries => ?_) _)
      cases hentries
      exact hr fields params hfields hparams
    · exact .refused .badRequest
  | removeBlock id => exact guarded (Stage.guarded_removeBlock _ _)
  | addChild id => exact withKind r (Stage.guarded_addChild hnull' hK' _)
  | addActor => exact guarded (Stage.guarded_addActor hK')
  | removeActor id => exact guarded (Stage.guarded_removeActor _)
  | selectActor id =>
    refine .answered fun D _ => (Stage.script_selectActor (hK' id)).mono ?_ fun _ h => h.names
    rintro a rfl
    exact ⟨.selectActor _, hJ id⟩
  | startRun => exact absurd rfl hrun
  | stop =>
    refine .answered fun D _ => Stage.script_stop.mono ?_ fun _ h => h.names
    rintro a rfl
    exact ⟨.stop, trivial⟩

/-- What an answer is given for is what a client asks for, and the response has a property that all
refusals have and all replies of the kind. -/
theorem yields {D : Supply → Prop} {Q : Response → Prop} {w : Work Response} (h : Answering J K w)
    (hD : Supply.Kept D) (hrefused : ∀ cause, Q (refusal cause))
    (hanswered : ∀ a : Answer, a.Names K → Q (reply a)) :
    w.Yields D (fun a => a.Asked D ∧ a.Carries J) Q := by
  cases h with
  | failed fault => exact .throw fault
  | refused cause => exact .pure (hrefused cause)
  | answered hscript =>
    refine (hscript D hD).yields.bind fun a ha => ?_
    rw [respond_eq (ha.mono fun _ hid => hid.2)]
    exact .pure (hanswered a (ha.mono fun _ hid => hid.1))

end Answering

/-- All handlers but two answer for an operation. -/
theorem answering_perform (r : Request) (t : Target) {h : Handler} (hview : h ≠ .view)
    (hrun : h ≠ .startRun) : Answering (fun _ => True) (fun _ => True) (perform r t h) :=
  .perform (fun _ _ _ _ => trivial) (fun _ => trivial) trivial (fun _ => trivial) t hview hrun

/-- To show the stage is to send the view. -/
theorem run_view (r : Request) (t : Target) (s : Stage) :
    (perform r t .view).run.run s =
      (if s.state.view.isWritable then .ok (.json 200 s.state.view) else .error .tooLongToWrite,
        s) := by
  have hview : perform r t .view = Work.state >>= fun state => send 200 state.view := rfl
  rw [hview, Stage.Work.run_bind]
  exact run_send 200 s.state.view s

/-! ### Bodies -/

section Bodies

variable {r : Request} {next : Fields → Work Response}

theorem run_withBody_error {fault : Fault} (h : readBody r.body = .error fault) (s : Stage) :
    (withBody r next).run.run s = (.error fault, s) := by
  unfold withBody
  rw [h]
  rfl

theorem run_withBody_none (h : readBody r.body = .ok none) (s : Stage) :
    (withBody r next).run.run s = (.ok (refusal .badRequest), s) := by
  unfold withBody
  rw [h]
  rfl

theorem withBody_some {fields : Fields} (h : readBody r.body = .ok (some fields)) :
    withBody r next = next fields := by
  unfold withBody
  rw [h]
  rfl

end Bodies

/-! ### Runs -/

/-- The response to a request that started a run. -/
def started : Response :=
  Response.json 202 (.object [("success", .bool true), ("started", .bool true)])

/-- The response to a request to start a run, if it was started or not. -/
def startResponse (wasStarted : Bool) : Response :=
  if wasStarted then started else refusal .alreadyRunning

/-- What comes of a request to start a run: it is refused or fails before the stage has to do with
it, or the stage is asked. -/
theorem perform_startRun_cases (r : Request) (t : Target) (s : Stage) :
    (∃ result, (perform r t .startRun).run.run s = (result, s) ∧
      ∀ resp, result = .ok resp → resp = refusal .badRequest) ∨
    ∃ address, (perform r t .startRun).run.run s =
      (.ok (startResponse (s.startRun address).1), (s.startRun address).2) := by
  unfold perform
  cases hread : readBody r.body with
  | error fault => exact .inl ⟨_, run_withBody_error hread s, nofun⟩
  | ok body =>
    cases body with
    | none =>
      refine .inl ⟨_, run_withBody_none hread s, fun resp hresp => ?_⟩
      cases hresp
      rfl
    | some fields => exact .inr ⟨_, congrArg (fun w => w.run.run s) (withBody_some hread)⟩

/-- A request to start a run leaves the store and the supply as they are, and is told that a run was
started or that it is refused. -/
theorem perform_startRun (r : Request) (t : Target) (s : Stage) :
    let ran := (perform r t .startRun).run.run s
    ran.2.scene.store = s.scene.store ∧ ran.2.supply = s.supply ∧
      ∀ resp, ran.1 = .ok resp → resp = started ∨ ∃ cause, resp = refusal cause := by
  obtain ⟨result, hran, hresult⟩ | ⟨address, hran⟩ := perform_startRun_cases r t s
  · simp only [hran]
    exact ⟨trivial, trivial, fun resp hresp => .inr ⟨_, hresult resp hresp⟩⟩
  · have hstage : (s.startRun address).2.scene.store = s.scene.store ∧
        (s.startRun address).2.supply = s.supply := by
      obtain hstart | hstart := s.startRun_cases address <;> rw [hstart] <;> exact ⟨rfl, rfl⟩
    simp only [hran]
    refine ⟨hstage.1, hstage.2, ?_⟩
    rintro _ ⟨⟩
    cases (s.startRun address).1 with
    | true => exact .inl rfl
    | false => exact .inr ⟨.alreadyRunning, rfl⟩

/-- **What comes of a request** is aside from walks: it is what a user can ask for. -/
theorem handle_aside (r : Request) (s : Stage) :
    s.scene.Aside (Action.Asked fun _ => True) ((handle r).run.run s).2.scene := by
  obtain ⟨-, hsame⟩ | ⟨t, h, -, hperform⟩ := handle_cases r
  · rw [hsame]
    exact .refl _
  rw [hperform]
  by_cases hview : h = .view
  · subst hview
    rw [run_view]
    exact .refl _
  by_cases hrun : h = .startRun
  · subst hrun
    obtain ⟨result, hran, -⟩ | ⟨address, hran⟩ := perform_startRun_cases r t s
    · rw [hran]
      exact .refl _
    · rw [hran]
      exact Operation.perform_aside s (.startRun address)
  · obtain ⟨hworks, -, -⟩ := (answering_perform r t hview hrun).yields (Q := fun _ => True)
      Supply.kept_true (fun _ => trivial) (fun _ _ => trivial) s trivial
    exact hworks.aside.mono fun _ ha => ha.1

end Web

end SpriteStage
