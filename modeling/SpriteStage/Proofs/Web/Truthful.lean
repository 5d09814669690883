import SpriteStage.Proofs.Stage.Sparing
import SpriteStage.Proofs.Web.Answering

/-!
# What a response tells

A response whose status tells of a failure tells the truth: the snapshot and the history are as they
were before the request. And the fields of a response agree with its status
(`Response.Truthful`), so that a client may look at either (`Web.handle_truthful`).
-/

namespace SpriteStage.Web

open Stage (Work)

/-- The response carries fields that agree with its status: whether the request was carried out and,
if it was not, what stood in the way. -/
def Response.Truthful (resp : Response) : Prop :=
  ∃ fields : Fields, resp = .json resp.status (.object fields) ∧
    fields.get? "success" = some (.bool (resp.status = 200 || resp.status = 202)) ∧
    (resp.status = 409 ↔ ∃ error ∈ ["running", "already_running", "last_actor"],
      fields.get? "error" = some (.str error)) ∧
    (resp.status = 404 ↔ fields.get? "error" = some (.str "not_found"))

/-- The response tells of a success. -/
def Response.Fine (resp : Response) : Prop := resp.status < 400

/-! ### Fields and status -/

theorem truthful_of_success {status : Nat} {fields : Fields} (hstatus : status = 200 ∨ status = 202)
    (hsuccess : fields.get? "success" = some (.bool true)) (herror : fields.get? "error" = none) :
    (Response.json status (.object fields)).Truthful := by
  refine ⟨fields, rfl, ?_⟩
  rcases hstatus with rfl | rfl <;> simp [Response.json, hsuccess, herror]

theorem truthful_of_refusal {cause : Refusal} {fields : Fields}
    (hsuccess : fields.get? "success" = some (.bool false))
    (herror : fields.get? "error" = some (.str cause.code)) :
    (Response.json (statusOf cause) (.object fields)).Truthful := by
  refine ⟨fields, rfl, ?_⟩
  cases cause <;> simp [Response.json, statusOf, Refusal.code, hsuccess, herror]

theorem truthful_reply (a : Answer) : (reply a).Truthful := by
  cases a with
  | done notice detail => exact truthful_of_success (.inl rfl) rfl (by cases detail <;> rfl)
  | refused cause notice => exact truthful_of_refusal rfl rfl

theorem truthful_refusal (cause : Refusal) : (refusal cause).Truthful :=
  truthful_of_refusal rfl rfl

/-- A response that carries an answer tells of a success if the answer does. -/
theorem fine_reply (a : Answer) (h : a.success) : (reply a).Fine := by
  cases a with
  | done notice detail =>
    show 200 < 400
    decide
  | refused cause notice => cases h

/-! ### Handlers -/

/-- Whatever the work comes to has the property. -/
def Comes {α : Type} (Q : α → Prop) (w : Work α) : Prop :=
  ∀ (s : Stage) (a : α), (w.run.run s).1 = .ok a → Q a

theorem spares_send {Q : Response → Prop} (status : Nat) (d : Datum) :
    Stage.Work.Spares (send status d) Q := by
  intro s
  rw [run_send]
  exact .inl (.refl _)

/-- If the answer tells of a success, there is a response, and it does so, too. -/
theorem spares_respond {w : Work Answer}
    (hw : w.Spares fun a => a.success ∧ a.Names (·.isWritable)) :
    Stage.Work.Spares (w >>= respond) Response.Fine := by
  refine hw.bind (fun a => spares_send _ _) fun a ⟨hsuccess, hnames⟩ => ?_
  rw [respond_eq hnames]
  exact .pure (fine_reply a hsuccess)

section Answering

variable {J K : Datum → Prop} {w : Work Response}

theorem Answering.spares (h : Answering J K w) : w.Spares Response.Fine := by
  cases h with
  | failed fault => exact .throw fault
  | refused cause => exact .pure _
  | answered hscript =>
    have hwritable := (hscript _ Supply.kept_true).mono (fun _ ha => ha)
      fun answer (hanswer : answer.Names _) => hanswer.mono fun _ hid => hid.2
    exact spares_respond hwritable.spares

theorem Answering.comes (h : Answering J K w) : Comes Response.Truthful w := by
  intro s
  obtain ⟨-, -, htruthful⟩ :=
    h.yields Supply.kept_true truthful_refusal (fun a _ => truthful_reply a) s trivial
  exact htruthful

end Answering

/-- No handler leaves a trace of a failure. -/
theorem spares_perform (r : Request) (t : Target) (h : Handler) :
    Stage.Work.Spares (perform r t h) Response.Fine := by
  by_cases hview : h = .view
  · subst hview
    exact Stage.Work.Spares.state.followed fun s => spares_send _ _
  by_cases hrun : h = .startRun
  · subst hrun
    intro s
    obtain ⟨hstore, -⟩ := perform_startRun r t s
    exact .inl (hstore ▸ .refl _)
  exact (answering_perform r t hview hrun).spares

/-- All handlers but the one that shows the stage answer truthfully. -/
theorem comes_perform (r : Request) (t : Target) {h : Handler} (hview : h ≠ .view) :
    Comes Response.Truthful (perform r t h) := by
  by_cases hrun : h = .startRun
  · subst hrun
    intro s resp hresp
    obtain ⟨-, -, htold⟩ := perform_startRun r t s
    obtain rfl | ⟨cause, rfl⟩ := htold resp hresp
    · exact truthful_of_success (.inr rfl) rfl rfl
    · exact truthful_refusal cause
  · exact (answering_perform r t hview hrun).comes

/-! ### Requests -/

theorem spares_handle (r : Request) : Stage.Work.Spares (handle r) Response.Fine := by
  obtain ⟨-, hsame⟩ | ⟨t, h, -, hperform⟩ := handle_cases r
  · intro s
    rw [hsame]
    exact .inl (.refl _)
  · exact hperform ▸ spares_perform r t h

/-- **Failures are atomic and responses are truthful.** If the status of a response is 400 or above,
the snapshot and the history are as they were; the fields of a response agree with its status, but
for the view of the stage, which is no answer. Also where there is no response, since the handler
failed, they are as they were, as long as the store can keep its history. -/
theorem handle_truthful (r : Request) (s : Stage) :
    let s' := ((handle r).run.run s).2
    let same := s'.state = s.state ∧ s'.scene.store.history = s.scene.store.history
    (∀ resp, ((handle r).run.run s).1 = .ok resp →
      (400 ≤ resp.status → same) ∧
        ∀ t h, r.handler? = some (t, h) → h ≠ .view → resp.Truthful) ∧
      ∀ fault, ((handle r).run.run s).1 = .error fault → s.scene.store.Keeps → same := by
  intro s' same
  have hsame (h : s.scene.store.SameRecord s'.scene.store) : same := ⟨h.state, h.history⟩
  refine ⟨fun resp hresp => ⟨fun hstatus => ?_, fun t h hr hview => ?_⟩,
    fun fault hfault hkeeps => ?_⟩
  · obtain hrecord | ⟨fine, hfine, hlow⟩ | ⟨⟨fault, hfault⟩, -⟩ := spares_handle r s
    · exact hsame hrecord
    · cases hresp.symm.trans hfine
      exact absurd hlow (Nat.not_lt.mpr hstatus)
    · cases hresp.symm.trans hfault
  · rw [handle_of_handler? hr] at hresp
    exact comes_perform r t hview s resp hresp
  · obtain hrecord | ⟨fine, hfine, -⟩ | ⟨-, hlimit⟩ := spares_handle r s
    · exact hsame hrecord
    · cases hfault.symm.trans hfine
    · exact absurd hkeeps hlimit

/-- A block that is not there is to be taken out: the dispatch comes to nothing. -/
theorem ghost_truthful :
    let r : Request := ⟨"DELETE", "/blocks/ghost?actor_id=sprite1", []⟩
    let s := Stage.create .initial {} {} {}
    let s' := ((handle r).run.run s).2
    ∃ resp, ((handle r).run.run s).1 = .ok resp ∧ resp.status = 404 ∧ resp.Truthful ∧
      s'.state = s.state ∧ s'.scene.store.history = [] := by
  intro r s s'
  obtain ⟨htells, -⟩ := handle_truthful r s
  have hstatus : ((handle r).run.run s).1.toOption.map (·.status) = some 404 := by decide +kernel
  have hrouted : r.handler?.any (fun routed => routed.2 matches .removeBlock "ghost") := by
    decide +kernel
  cases hrun : ((handle r).run.run s).1 with
  | error fault =>
    rw [hrun] at hstatus
    cases hstatus
  | ok resp =>
    rw [hrun] at hstatus
    have h404 : resp.status = 404 := Option.some.inj hstatus
    obtain ⟨hsame, htruthful⟩ := htells resp hrun
    obtain ⟨hstate, hhistory⟩ := hsame (by omega)
    refine ⟨resp, rfl, h404, ?_, hstate, hhistory⟩
    cases hr : r.handler? with
    | none =>
      rw [hr] at hrouted
      cases hrouted
    | some routed =>
      refine htruthful routed.1 routed.2 hr fun hview => ?_
      rw [hr, Option.any_some, hview] at hrouted
      cases hrouted

end SpriteStage.Web
