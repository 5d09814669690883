import SpriteStage.Proofs.Json.Complete
import SpriteStage.Proofs.Stage.Order
import SpriteStage.Proofs.Web.Valid

/-!
# Bodies of requests

Four handlers read the body of their request. A body that is no text, or no JSON, is refused and
leaves the stage as it is. Whatever else a body holds, there is a response, with one exception:
where the reader meets a whole number of more digits than it reads, the handler fails
(`Web.answered_iff`).
-/

namespace SpriteStage.Web

open Stage (Work)

/-- Whether the handler reads the body of its request. -/
def Handler.readsBody : Handler → Bool
  | .addBlock | .updateBlock _ | .addChild _ | .startRun => true
  | _ => false

/-- The body is there and is no text, or a text that is no JSON. -/
def Request.IsMalformed (r : Request) : Prop :=
  r.body ≠ [] ∧ ∀ cs, Text.decodeUtf8? r.body = some cs → Json.read cs = .error .malformed

/-- The body is a text that is refused for a whole number of so many digits. -/
def Request.IsTooLong (r : Request) (digits : Nat) : Prop :=
  ∃ cs, Text.decodeUtf8? r.body = some cs ∧ Json.read cs = .error (.tooLong digits)

/-- A body that is JSON is not malformed. -/
theorem Request.IsMalformed.not_isText {r : Request} (h : r.IsMalformed) {cs : List Char}
    (hcs : Text.decodeUtf8? r.body = some cs) : ¬ Json.IsText cs := by
  intro htext
  have hmalformed := h.2 cs hcs
  obtain ⟨d, hd⟩ | ⟨digits, hdigits⟩ := Json.read_of_isText htext
  · cases hmalformed.symm.trans hd
  · cases hmalformed.symm.trans hdigits

/-! ### Reading -/

section Reading

variable {r : Request} {digits : Nat}

theorem Request.IsTooLong.body_ne_nil (h : r.IsTooLong digits) : r.body ≠ [] := by
  intro hnil
  obtain ⟨cs, hcs, hread⟩ := h
  rw [hnil] at hcs
  cases hcs
  cases hread

theorem readBody_of_isMalformed (h : r.IsMalformed) : readBody r.body = .ok none := by
  obtain ⟨hne, hread⟩ := h
  rw [readBody, List.isEmpty_eq_false_iff.mpr hne]
  cases hcs : Text.decodeUtf8? r.body with
  | none => rfl
  | some cs => simp [hread cs hcs]

theorem readBody_of_isTooLong (h : r.IsTooLong digits) :
    readBody r.body = .error (.tooManyDigits digits) := by
  rw [readBody, List.isEmpty_eq_false_iff.mpr h.body_ne_nil]
  obtain ⟨cs, hcs, hread⟩ := h
  simp [hcs, hread]

/-- There is no other way for a body to be a failure. -/
theorem exists_isTooLong {fault : Fault} (h : readBody r.body = .error fault) :
    ∃ digits, r.IsTooLong digits := by
  unfold readBody at h
  split_ifs at h
  split at h
  · cases h
  · rename_i cs hcs
    split at h
    · cases h
    · rename_i digits hread
      exact ⟨digits, cs, hcs, hread⟩
    · cases h
    · cases h

end Reading

/-! ### Handlers -/

/-- Work that returns an answer returns a response, if what the answer names can be written. -/
theorem returns_respond {w : Work Answer} (hw : w.Returns)
    (hnames : w.Guarded (fun _ => True) (·.isWritable)) : Work.Returns (w >>= respond) := by
  intro s hs
  obtain ⟨answer, hanswer⟩ := hw s hs
  obtain ⟨-, -, htold⟩ := (hnames.script Supply.kept_true).yields s trivial
  rw [Stage.Work.run_bind]
  generalize w.run.run s = ran at hanswer htold
  obtain ⟨result, s'⟩ := ran
  subst hanswer
  dsimp only
  rw [respond_eq (htold answer rfl)]
  exact ⟨reply answer, rfl⟩

/-- What a handler does that reads a body comes to a response on a stage in order, once the body has
been read. -/
theorem exists_perform_eq (r : Request) (t : Target) {h : Handler} (hreads : h.readsBody) :
    ∃ next, perform r t h = withBody r next ∧ ∀ fields, (next fields).Returns := by
  have hrefused : Work.Returns (pure (refusal .badRequest)) := fun s _ => ⟨_, rfl⟩
  have hkind {next : Datum → Datum → Work Answer}
      (hnext : ∀ kind address, (next (.str kind) address).Returns)
      (hnames : ∀ kind address, (next kind address).Guarded (fun _ => True) (·.isWritable)) :
      ∃ inner, withKind r next = withBody r inner ∧ ∀ fields, (inner fields).Returns := by
    refine ⟨_, rfl, fun fields => ?_⟩
    split
    · exact returns_respond (hnext _ _) (hnames _ _)
    · exact hrefused
  have hid (id : String) : Datum.isWritable (.str id) := rfl
  have hnull : Datum.isWritable .null := rfl
  cases h with
  | addBlock => exact hkind Stage.returns_addBlock (Stage.guarded_addBlock hid)
  | addChild id =>
    exact hkind (Stage.returns_addChild (.str id)) (Stage.guarded_addChild hnull hid _)
  | updateBlock id =>
    refine ⟨_, rfl, fun fields => ?_⟩
    split
    · exact returns_respond (Stage.returns_updateBlock _ _ _)
        (Stage.guarded_updateBlock (hid id) (fun _ _ => trivial) _)
    · exact hrefused
  | startRun => exact ⟨_, rfl, fun fields s _ => ⟨_, rfl⟩⟩
  | _ => cases hreads

section Handlers

variable {r : Request} {t : Target} {h : Handler}

theorem run_of_isMalformed (hr : r.handler? = some (t, h)) (hreads : h.readsBody)
    (hmalformed : r.IsMalformed) (s : Stage) :
    (handle r).run.run s = (.ok (refusal .badRequest), s) := by
  obtain ⟨next, hperform, -⟩ := exists_perform_eq r t hreads
  rw [handle_of_handler? hr, hperform]
  exact run_withBody_none (readBody_of_isMalformed hmalformed) s

theorem run_of_isTooLong (hr : r.handler? = some (t, h)) (hreads : h.readsBody) {digits : Nat}
    (hlong : r.IsTooLong digits) (s : Stage) :
    (handle r).run.run s = (.error (.tooManyDigits digits), s) := by
  obtain ⟨next, hperform, -⟩ := exists_perform_eq r t hreads
  rw [handle_of_handler? hr, hperform]
  exact run_withBody_error (readBody_of_isTooLong hlong) s

/-- Without a number of too many digits there is a response, on a stage in order. -/
theorem exists_response (hr : r.handler? = some (t, h)) (hreads : h.readsBody)
    (hshort : ∀ digits, ¬ r.IsTooLong digits) {s : Stage} (hs : s.scene.store.InOrder) :
    ∃ resp, ((handle r).run.run s).1 = .ok resp := by
  obtain ⟨next, hperform, hnext⟩ := exists_perform_eq r t hreads
  rw [handle_of_handler? hr, hperform]
  cases hread : readBody r.body with
  | error fault =>
    obtain ⟨digits, hlong⟩ := exists_isTooLong hread
    exact absurd hlong (hshort digits)
  | ok body =>
    cases body with
    | none => exact ⟨_, congrArg Prod.fst (run_withBody_none hread s)⟩
    | some fields =>
      rw [withBody_some hread]
      exact hnext fields s hs

end Handlers

/-! ### Sessions -/

/-- What endures lasts while requests come in and runs go on. -/
theorem after_enduring {P : Action → Prop} {K : Store Listener → Prop} (hK : Store.Endures P K)
    (hasked : ∀ a, a.Asked (fun _ => True) → P a) (hacted : ∀ home a, Action.Acted home a → P a)
    {s : Stage} (hs : s.scene.Enduring P K) (happened : List Occurrence) :
    (after happened s).scene.Enduring P K := by
  unfold after
  induction happened generalizing s with
  | nil => exact hs
  | cons o rest ih =>
    refine ih ?_
    cases o with
    | request r => exact hs.aside hK hasked (handle_aside r s)
    | turn position => exact Session.follow_enduring hK hasked hacted hs (.turn position)
    | wake who interruption now =>
      exact Session.follow_enduring hK hasked hacted hs (.wake who interruption now)

/-- **A body that is no JSON is refused, and one with too long a number is a failure.** Whatever
came before: if a handler reads the body of its request, then it refuses a malformed one, and it
responds exactly if it meets no whole number of too many digits. In both cases the stage is as it
was. -/
theorem answered_iff (I : Interpreter) (supply : Supply) (tick : Datum) (limit : Int)
    (now : Number) (scheduling : Bool) (happened : List Occurrence) {r : Request} {t : Target}
    {h : Handler} (hr : r.handler? = some (t, h)) (hreads : h.readsBody) :
    let s := after happened (Session.opened I supply tick (.int limit) now scheduling)
    let ran := (handle r).run.run s
    (r.IsMalformed → ran = (.ok (.json 400
        (.object [("success", .bool false), ("error", .str "bad_request")])), s)) ∧
      (∀ digits, r.IsTooLong digits → ran = (.error (.tooManyDigits digits), s)) ∧
      ((∃ resp, ran.1 = .ok resp) ↔ ∀ digits, ¬ r.IsTooLong digits) := by
  intro s ran
  have hs : s.scene.store.InOrder :=
    (after_enduring Store.inOrder_endures (fun _ => Action.Asked.typing)
      (fun _ _ => Action.Acted.typing)
      (Session.opened_inOrder I supply tick limit now scheduling) happened).record
  have hlong {digits : Nat} (hlong : r.IsTooLong digits) := run_of_isTooLong hr hreads hlong s
  refine ⟨fun hmalformed => run_of_isMalformed hr hreads hmalformed s, fun _ => hlong, ?_, ?_⟩
  · rintro ⟨resp, hresp⟩ digits htooLong
    cases (congrArg Prod.fst (hlong htooLong)).symm.trans hresp
  · exact fun hshort => exists_response hr hreads hshort hs

/-- A body that is no text, after a block was put in. -/
theorem garbled_answered :
    let kind := Text.encodeUtf8 "\x7b\x22kind\x22: \x22goto\x22\x7d".toList
    let s := after [.request ⟨"POST", "/blocks", kind⟩]
      (Session.opened {} {} (.float 0.1) (.int 50) (.float 1000.0) true)
    let r : Request := ⟨"PATCH", "/blocks/000000010", [0x7b, 0xff]⟩
    Forest.size (s.state.actors.flatMap (·.blocks)) = 1 ∧ r.IsMalformed ∧
      (handle r).run.run s = (.ok (.json 400
        (.object [("success", .bool false), ("error", .str "bad_request")])), s) := by
  intro kind s r
  have hnone : Text.decodeUtf8? r.body = none := by decide +kernel
  have hmalformed : r.IsMalformed := by
    refine ⟨List.cons_ne_nil _ _, fun cs hcs => ?_⟩
    cases hnone.symm.trans hcs
  have hrouted : r.handler?.any fun routed => routed.2.readsBody := by decide +kernel
  obtain ⟨⟨t, h⟩, hr, hreads⟩ := (Option.any_eq_true _ _).mp hrouted
  obtain ⟨hrefused, -⟩ := answered_iff {} {} (.float 0.1) 50 (.float 1000.0) true
    [.request ⟨"POST", "/blocks", kind⟩] hr hreads
  exact ⟨by decide +kernel, hmalformed, hrefused hmalformed⟩

/-- **A number of 4301 digits is a failure**, where the body is read. -/
theorem long_number_unanswered :
    let s := Session.opened {} {} (.float 0.1) (.int 50) (.float 1000.0) true
    let r : Request := ⟨"POST", "/run", List.replicate 4301 0x31⟩
    (r.handler?.any fun routed => routed.2.readsBody) ∧
      ¬ ∃ resp, ((handle r).run.run s).1 = .ok resp := by
  intro s r
  have hrouted : r.handler?.any fun routed => routed.2.readsBody := by decide +kernel
  have hread : (Text.decodeUtf8? r.body).any
      fun cs => Json.read cs matches .error (.tooLong 4301) := by decide +kernel
  have hlong : r.IsTooLong 4301 := by
    obtain ⟨cs, hcs, hrefused⟩ := (Option.any_eq_true _ _).mp hread
    refine ⟨cs, hcs, ?_⟩
    split at hrefused
    · assumption
    · cases hrefused
  obtain ⟨⟨t, h⟩, hr, hreads⟩ := (Option.any_eq_true _ _).mp hrouted
  refine ⟨hrouted, ?_⟩
  rintro ⟨resp, hresp⟩
  rw [run_of_isTooLong hr hreads hlong s] at hresp
  cases hresp

end SpriteStage.Web
