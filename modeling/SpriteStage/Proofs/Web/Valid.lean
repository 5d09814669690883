import SpriteStage.Proofs.Snapshot.Finite
import SpriteStage.Proofs.Stage.Asked
import SpriteStage.Proofs.Web.Answering

/-!
# Responses that are JSON

Every handler writes its response as JSON, and succeeds in it as long as each number that it writes
has digits. So all responses are JSON but perhaps the view of the stage, which is JSON if, and only
if, the snapshot can be viewed without such a number (`Web.responses_isJson`). Nothing keeps the
others out of a snapshot: a number in a body may be larger than all doubles and is read as an
infinity, and the view writes that as a bare word (`Web.overflow_not_isJson`). They come in by the
bodies of requests, by the places of new actors and by what programs compute, and in no other way.
-/

namespace SpriteStage

/-! ### What is read -/

namespace Json

theorem settle_list (items : List Datum) : settle (.list items) = .list (items.map settle) := by
  have hitems : settleItems items = items.map settle := by
    induction items with
    | nil => rfl
    | cons item rest ih => rw [settleItems, ih, List.map_cons]
  rw [settle, hitems]

theorem settle_object (fields : Fields) : settle (.object fields) =
    .object (Fields.merge [] (fields.map fun field => (field.1, settle field.2))) := by
  have hfields : settleFields fields = fields.map fun field => (field.1, settle field.2) := by
    induction fields with
    | nil => rfl
    | cons field rest ih => rw [settleFields, ih, List.map_cons]
  rw [settle, hfields]

/-- To leave fields out brings no number in. -/
theorem isFinite_settle {d : Datum} (h : d.isFinite) : (settle d).isFinite := by
  induction d using Datum.induct with
  | list items ih =>
    rw [Datum.isFinite_list] at h
    rw [settle_list, Datum.isFinite_list]
    exact List.forall_mem_map.mpr fun item hitem => ih item hitem (h item hitem)
  | object fields ih =>
    rw [Datum.isFinite_object] at h
    rw [settle_object]
    refine Fields.isFinite_merge rfl ((Datum.isFinite_object _).mpr ?_)
    exact List.forall_mem_map.mpr fun field hfield => ih field hfield (h field hfield)
  | _ => exact h

end Json

namespace Web

open Stage (Work)

/-! ### What comes in by requests -/

/-- If the places to come have digits, so have those that are left. -/
theorem kept_isFinite : Supply.Kept (·.isFinite) where
  block hs h := by
    obtain ⟨id, k, -, hrandoms⟩ := Block.create_cases h
    rw [Supply.isFinite, hrandoms]
    exact hs
  actor hs h := (Actor.isFinite_create hs h).2

theorem isFinite_of_asked {a : Action} (h : a.Asked (·.isFinite)) (hc : a.Carries (·.isFinite)) :
    a.isFinite := by
  cases h with
  | edit h =>
    cases a with
    | addBlock | addChild =>
      obtain ⟨_, _, _, -, hcreate⟩ := h
      exact Block.isFinite_create hcreate
    | addActor =>
      obtain ⟨_, _, _, hs, hcreate⟩ := h
      exact (Actor.isFinite_create hs hcreate).1
    | updateParams => exact hc
    | removeBlock | clearBlocks | removeActor => rfl
    | _ => cases h
  | selectActor actorId => exact hc
  | stop => rfl

/-- Finite actions leave the snapshot of a store finite. -/
theorem finite_of_follows {ι : Type} {store store' : Store ι}
    (h : store.Follows (·.isFinite) store') (hs : store.state.Finite) : store'.state.Finite := by
  refine h.keeps (J := fun store => store.state.Finite) (fun s₁ s₂ a ha hrecord hfinite => ?_) hs
  rw [hrecord.state, Store.carried_state]
  exact hfinite.after ha

/-! ### Handlers -/

/-- The body of the response is JSON. -/
def Response.IsJson (resp : Response) : Prop := Json.IsText resp.body.toList

theorem isJson_json_iff {status : Nat} {d : Datum} :
    (Response.json status d).IsJson ↔ d.isFinite := Json.isText_textOf_iff d

theorem isJson_refusal (cause : Refusal) : (refusal cause).IsJson := isJson_json_iff.mpr rfl

/-- A response is JSON if the answer that it carries names blocks and actors by finite
identifiers. -/
theorem isJson_reply {a : Answer} (h : a.Names (·.isFinite)) : (reply a).IsJson := by
  have hfields := Answer.forall_toFields (K := (·.isFinite)) rfl (fun _ => rfl) (fun _ => rfl) h
  exact isJson_json_iff.mpr
    ((Datum.isFinite_object _).mpr fun field hfield => (hfields field hfield).2)

/-- All handlers but the one that shows the stage respond with JSON, whatever is on the stage. -/
theorem isJson_perform {r : Request} {t : Target} {h : Handler} (hview : h ≠ .view) {s : Stage}
    {resp : Response} (hresp : ((perform r t h).run.run s).1 = .ok resp) : resp.IsJson := by
  by_cases hrun : h = .startRun
  · subst hrun
    obtain ⟨-, -, htold⟩ := perform_startRun r t s
    obtain rfl | ⟨cause, rfl⟩ := htold resp hresp
    · exact isJson_json_iff.mpr rfl
    · exact isJson_refusal cause
  · have hr : r.Brings fun _ => True := fun _ _ _ _ => trivial
    have hanswering := Answering.perform hr (fun _ => trivial) (K := (·.isFinite)) rfl
      (fun _ => rfl) t hview hrun
    obtain ⟨-, -, hjson⟩ := hanswering.yields Supply.kept_true isJson_refusal
      (fun _ => isJson_reply) s trivial
    exact hjson resp hresp

/-- The handler that shows the stage responds with JSON if the view has no number without digits,
and only then. -/
theorem isJson_view_iff {r : Request} {t : Target} {s : Stage} {resp : Response}
    (hresp : ((perform r t .view).run.run s).1 = .ok resp) :
    resp.IsJson ↔ s.state.view.isFinite := by
  rw [run_view] at hresp
  split_ifs at hresp
  cases hresp
  exact isJson_json_iff

/-! ### Requests -/

/-- Whether each number in the body has digits, wherever in the body it stands: one that another
takes the place of, under an equal key, counts as well. -/
def Request.isFinite (r : Request) : Bool :=
  match (Text.decodeUtf8? r.body).map Json.readAll with
  | some (.ok d) => d.isFinite
  | _ => true

/-- The fields of a body are settled from all that it holds. -/
theorem exists_settle_eq {body : List UInt8} {fields : Fields}
    (h : readBody body = .ok (some fields)) (hne : fields ≠ []) :
    ∃ d, (Text.decodeUtf8? body).map Json.readAll = some (.ok d) ∧
      Json.settle d = .object fields := by
  unfold readBody at h
  split_ifs at h
  · cases h
    exact absurd rfl hne
  split at h
  · cases h
  rename_i cs hcs
  split at h
  · cases h
  · cases h
  · rename_i found hread
    cases h
    cases hall : Json.readAll cs with
    | error problem =>
      rw [Json.read, hall] at hread
      cases hread
    | ok d =>
      rw [Json.read, hall] at hread
      exact ⟨d, by rw [hcs, Option.map_some, hall], Except.ok.inj hread⟩
  · cases h
    exact absurd rfl hne

theorem Request.brings_isFinite {r : Request} (hr : r.isFinite) : r.Brings (·.isFinite) := by
  intro fields params hfields hparams
  rw [← hparams, bodyField]
  cases hget : fields.get? "params" with
  | none => rfl
  | some value =>
    have hne : fields ≠ [] := by
      rintro rfl
      cases hget
    obtain ⟨d, hall, hsettle⟩ := exists_settle_eq hfields hne
    rw [isFinite, hall] at hr
    exact Fields.isFinite_of_get? (hsettle ▸ Json.isFinite_settle hr) hget

/-- A request leaves the snapshot finite, if each number that it may bring in has digits. -/
theorem finite_handle {r : Request} (hr : r.isFinite) {s : Stage} (hs : s.state.Finite)
    (hsupply : s.supply.isFinite) :
    ((handle r).run.run s).2.state.Finite ∧ ((handle r).run.run s).2.supply.isFinite := by
  obtain ⟨-, hsame⟩ | ⟨t, h, -, hperform⟩ := handle_cases r
  · rw [hsame]
    exact ⟨hs, hsupply⟩
  rw [hperform]
  by_cases hview : h = .view
  · subst hview
    rw [run_view]
    exact ⟨hs, hsupply⟩
  by_cases hrun : h = .startRun
  · subst hrun
    obtain ⟨hstore, hsupply', -⟩ := perform_startRun r t s
    rw [Stage.state, Scene.state, hstore, hsupply']
    exact ⟨hs, hsupply⟩
  have hanswering := Answering.perform (Request.brings_isFinite hr) (fun _ => rfl)
    (K := (·.isFinite)) rfl (fun _ => rfl) t hview hrun
  obtain ⟨hworks, hsupply', -⟩ := hanswering.yields kept_isFinite isJson_refusal
    (fun _ => isJson_reply) s hsupply
  have hfollows := hworks.aside.store.mono fun a ha => isFinite_of_asked ha.1 ha.2
  exact ⟨finite_of_follows hfollows hs, hsupply'⟩

/-! ### Sessions -/

/-- What happens next on a stage that only requests have to do with. -/
inductive Occurrence where
  | request (r : Request)
  /-- The one at a position of the queue goes on to its next wait or its end. -/
  | turn (position : Nat)
  /-- A wait ends at a time, of itself or interrupted. -/
  | wake (who : Turn) (interruption : Option Interruption) (now : Number)

/-- What becomes of the stage. -/
def Occurrence.follow (s : Stage) : Occurrence → Stage
  | request r => ((handle r).run.run s).2
  | turn position => (Session.Occurrence.turn position).follow s
  | wake who interruption now => (Session.Occurrence.wake who interruption now).follow s

/-- Whether each number has digits that comes in by a request, or by what the walk asks for that
goes on in a turn. -/
def Occurrence.isFinite (s : Stage) : Occurrence → Bool
  | request r => r.isFinite
  | turn position =>
    (Theatre.Occurrence.asked ⟨s, []⟩ (.onStage (.turn position))).all fun
      | .action a => a.isFinite
      | _ => true
  | wake .. => true

/-- The stage after all this happened, in order. -/
def after (happened : List Occurrence) (s : Stage) : Stage := happened.foldl Occurrence.follow s

/-- Whether each number has digits that comes in while all this happens, in order. -/
def isFinite : List Occurrence → Stage → Bool
  | [], _ => true
  | o :: rest, s => o.isFinite s && isFinite rest (o.follow s)

/-- As long as what comes in is finite, so is what is there. -/
theorem follow_finite {s : Stage} (hs : s.state.Finite) (hsupply : s.supply.isFinite)
    {o : Occurrence} (ho : o.isFinite s) :
    (o.follow s).state.Finite ∧ (o.follow s).supply.isFinite := by
  cases o with
  | request r => exact finite_handle ho hs hsupply
  | turn position =>
    let th : Theatre := ⟨s, []⟩
    have hasked : ∀ a, .action a ∈ Theatre.Occurrence.asked th (.onStage (.turn position)) →
        a.isFinite := fun a ha => List.all_eq_true.mp ho _ ha
    exact ⟨finite_of_follows (th.follows_asked (fun _ _ => rfl) hasked) hs, hsupply⟩
  | wake who interruption now => exact ⟨hs, hsupply⟩

theorem after_finite {s : Stage} (hs : s.state.Finite) (hsupply : s.supply.isFinite)
    {happened : List Occurrence} (h : isFinite happened s) : (after happened s).state.Finite := by
  unfold after
  induction happened generalizing s with
  | nil => exact hs
  | cons o rest ih =>
    obtain ⟨ho, hrest⟩ := Bool.and_eq_true_iff.mp h
    obtain ⟨hs', hsupply'⟩ := follow_finite hs hsupply ho
    exact ih hs' hsupply' hrest

/-- **Responses are JSON**, but for a view of numbers without digits. Whatever requests came before,
and wherever the runs are that they started: the response of a handler is JSON, unless it is the
view of the stage and there is a number without digits to be shown. There is none if none has come
in. -/
theorem responses_isJson (I : Interpreter) (supply : Supply) (tick limit : Datum) (now : Number)
    (scheduling : Bool) (happened : List Occurrence) {r : Request} {t : Target} {h : Handler}
    (hr : r.handler? = some (t, h)) {resp : Response} :
    let start := Session.opened I supply tick limit now scheduling
    let s := after happened start
    ((handle r).run.run s).1 = .ok resp →
      (resp.IsJson ↔ (h = .view → s.state.view.isFinite)) ∧
        (supply.isFinite → isFinite happened start → resp.IsJson) := by
  intro start s hresp
  rw [handle_of_handler? hr] at hresp
  have hiff : resp.IsJson ↔ (h = .view → s.state.view.isFinite) := by
    by_cases hview : h = .view
    · subst hview
      rw [isJson_view_iff hresp]
      exact ⟨fun hfinite _ => hfinite, fun hfinite => hfinite rfl⟩
    · exact ⟨fun _ heq => absurd heq hview, fun _ => isJson_perform hview hresp⟩
  refine ⟨hiff, fun hsupply hhappened => hiff.mpr fun _ => ?_⟩
  have hstart : start.state.Finite := Snapshot.finite_initial
  have hfinite : s.state.Finite := after_finite hstart hsupply hhappened
  exact hfinite.view

/-- A block is put in and told where to go, a run is started and has its first turn, and the stage
is shown meanwhile. -/
theorem errand_isJson :
    let start := Session.opened {} {} (.float 0.1) (.int 50) (.float 1000.0) true
    let happened : List Occurrence := [
      .request ⟨"POST", "/blocks", Text.encodeUtf8 "\x7b\x22kind\x22: \x22goto\x22\x7d".toList⟩,
      .request ⟨"PATCH", "/blocks/000000010",
        Text.encodeUtf8 "\x7b\x22params\x22: \x7b\x22x\x22: 2.5e1\x7d\x7d".toList⟩,
      .request ⟨"POST", "/run", []⟩,
      .turn 0]
    let r : Request := ⟨"GET", "/state", []⟩
    isFinite happened start ∧
      ∃ resp, ((handle r).run.run (after happened start)).1 = .ok resp ∧ resp.IsJson := by
  intro start happened r
  have hfinite : isFinite happened start := by decide +kernel
  obtain ⟨⟨t, h⟩, hr⟩ := Option.isSome_iff_exists.mp
    (show r.handler?.isSome by decide +kernel)
  have hran : ((handle r).run.run (after happened start)).1.toOption.isSome := by decide +kernel
  refine ⟨hfinite, ?_⟩
  cases hresp : ((handle r).run.run (after happened start)).1 with
  | error fault =>
    rw [hresp] at hran
    cases hran
  | ok resp =>
    obtain ⟨-, hjson⟩ := responses_isJson {} {} (.float 0.1) (.int 50) (.float 1000.0) true happened
      hr hresp
    exact ⟨resp, rfl, hjson rfl hfinite⟩

/-- The body that gives a block more steps than any double. -/
def overflow : List Char := "\x7b\x22params\x22: \x7b\x22steps\x22: 1e999\x7d\x7d".toList

open Json in
theorem isText_overflow : IsText overflow := by
  have hone : Digits ['1'] := ⟨List.cons_ne_nil _ _, by simp⟩
  have hnines : Digits ['9', '9', '9'] := ⟨List.cons_ne_nil _ _, by simp⟩
  have hexponent : Exponent ('e' :: ([] ++ ['9', '9', '9'])) :=
    .present List.mem_cons_self List.mem_cons_self hnines
  have hnumeral := Numeral.positive (.mk (.inr ⟨hone, by decide⟩) .absent hexponent)
  have hsteps := Derives.object (.lastMember (derives_member "steps" (.number hnumeral)))
  have hparams := Derives.object (.lastMember (derives_member "params" hsteps))
  refine (congrArg IsText ?_).mp (IsText.of_value hparams)
  decide +kernel

/-- **A number beyond all doubles is shown as a bare word**, though all that came in was JSON. -/
theorem overflow_not_isJson :
    let start := Session.opened {} {} (.float 0.1) (.int 50) (.float 1000.0) true
    let kind := "\x7b\x22kind\x22: \x22move\x22\x7d".toList
    let posted : Request := ⟨"POST", "/blocks", Text.encodeUtf8 kind⟩
    let patched : Request := ⟨"PATCH", "/blocks/000000010", Text.encodeUtf8 overflow⟩
    let r : Request := ⟨"GET", "/state", []⟩
    Json.IsText kind ∧ Json.IsText overflow ∧
      ∃ resp, ((handle r).run.run (after [.request posted, .request patched] start)).1 = .ok resp ∧
        resp.contentType = "application/json" ∧ ¬ resp.IsJson := by
  intro start kind posted patched r
  let s := after [.request posted, .request patched] start
  have hkind : kind = (Json.textOf (.object [("kind", .str "move")])).toList := by decide +kernel
  refine ⟨hkind ▸ (Json.isText_textOf_iff _).mpr rfl, isText_overflow, ?_⟩
  have hrouted : r.handler?.any (fun routed => routed.2 matches .view) := by decide +kernel
  have hview : s.state.view.isFinite = false := by decide +kernel
  have hwritable : s.state.view.isWritable := by decide +kernel
  obtain ⟨⟨t, h⟩, hr, hh⟩ := (Option.any_eq_true _ _).mp hrouted
  show ∃ resp, ((handle r).run.run s).1 = .ok resp ∧ _
  clear_value s
  cases h with
  | view =>
    rw [handle_of_handler? hr, run_view, if_pos hwritable]
    refine ⟨_, rfl, rfl, fun hjson => ?_⟩
    have hfinite := isJson_json_iff.mp hjson
    cases hview.symm.trans hfinite
  | _ => cases hh

end Web

end SpriteStage
