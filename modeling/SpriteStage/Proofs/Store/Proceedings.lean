import SpriteStage.Proofs.Store.History

/-!
# The proceedings of a dispatch

What happens in the course of one dispatch is a list of incidents: the snapshot is replaced, an
entry is told of a replacement, a listener fails (`Audience.proceedingsWithin`). A listener that is
told may dispatch in its turn, so that the proceedings of one dispatch can stand in the midst of
those of another. Their replacements are the chronicle (`Audience.replacements_proceedingsWithin`),
and what the entries are told is what they hear (`Audience.noted_dispatchWithin`).

Where nobody fails, proceedings are well formed (`Incident.Telling`): a replacement is followed by
the telling of each entry, in order, and what comes of a telling comes before the next one.
-/

namespace SpriteStage

/-- Something that happens in the course of a dispatch. -/
inductive Incident (ι : Type) where
  /-- The snapshot is replaced while `entries` are in the list, and while those of `pending` have
  yet to be told of the replacement before, out of which this one comes. -/
  | replaced (pending : List ι) (t : Transition) (entries : List ι)
  /-- An entry of a listener is told of a transition. -/
  | told (listener : ι) (t : Transition)
  /-- A listener fails. -/
  | failed (fault : Fault)

variable {σ ι : Type}

namespace Incident

/-- The transition of an incident that is a replacement. -/
def replacement? : Incident ι → Option Transition
  | replaced _ t _ => some t
  | _ => none

/-- Who is told of what, if an incident is that. -/
def telling? : Incident ι → Option (ι × Transition)
  | told listener t => some (listener, t)
  | _ => none

/-- The replacements, in order. -/
def replacements (is : List (Incident ι)) : List Transition := is.filterMap replacement?

/-- Who is told of what, in order. -/
def heard (is : List (Incident ι)) : List (ι × Transition) := is.filterMap telling?

/-- Who is told of the replacement of this number, in order. -/
def tellings (revision : Nat) (is : List (Incident ι)) : List (ι × Transition) :=
  (heard is).filter (·.2.revision = revision)

/-- Whether an incident is that a listener fails. -/
def fails : Incident ι → Bool
  | failed _ => true
  | _ => false

/-- No listener fails. -/
def Calm (is : List (Incident ι)) : Prop := ∀ incident ∈ is, ¬ incident.fails

instance (is : List (Incident ι)) : Decidable (Calm is) :=
  inferInstanceAs (Decidable (∀ incident ∈ is, ¬ incident.fails))

@[simp] theorem replacements_nil : replacements ([] : List (Incident ι)) = [] := rfl

@[simp] theorem replacements_append (is js : List (Incident ι)) :
    replacements (is ++ js) = replacements is ++ replacements js := List.filterMap_append

@[simp] theorem replacements_cons_replaced (pending : List ι) (t : Transition)
    (entries : List ι) (is : List (Incident ι)) :
    replacements (.replaced pending t entries :: is) = t :: replacements is := rfl

@[simp] theorem replacements_cons_told (listener : ι) (t : Transition)
    (is : List (Incident ι)) :
    replacements (.told listener t :: is) = replacements is := rfl

theorem mem_replacements {is : List (Incident ι)} {pending : List ι} {t : Transition}
    {entries : List ι} (h : .replaced pending t entries ∈ is) : t ∈ replacements is :=
  List.mem_filterMap.mpr ⟨_, h, rfl⟩

@[simp] theorem heard_nil : heard ([] : List (Incident ι)) = [] := rfl

@[simp] theorem heard_append (is js : List (Incident ι)) : heard (is ++ js) = heard is ++ heard js :=
  List.filterMap_append

@[simp] theorem heard_cons_replaced (pending : List ι) (t : Transition) (entries : List ι)
    (is : List (Incident ι)) : heard (.replaced pending t entries :: is) = heard is := rfl

@[simp] theorem heard_cons_told (listener : ι) (t : Transition)
    (is : List (Incident ι)) :
    heard (.told listener t :: is) = (listener, t) :: heard is := rfl

@[simp] theorem tellings_append (revision : Nat) (is js : List (Incident ι)) :
    tellings revision (is ++ js) = tellings revision is ++ tellings revision js := by
  simp [tellings]

@[simp] theorem tellings_cons_replaced (revision : Nat) (pending : List ι) (t : Transition)
    (entries : List ι) (is : List (Incident ι)) :
    tellings revision (.replaced pending t entries :: is) = tellings revision is := rfl

theorem tellings_cons_told (revision : Nat) (listener : ι) (t : Transition)
    (is : List (Incident ι)) :
    tellings revision (.told listener t :: is) =
      if t.revision = revision then (listener, t) :: tellings revision is
      else tellings revision is := by
  by_cases h : t.revision = revision <;> simp [tellings, h]

/-- Nobody is told of what none of the tellings is about. -/
theorem tellings_eq_nil {revision : Nat} {is : List (Incident ι)}
    (h : ∀ call ∈ heard is, call.2.revision ≠ revision) : tellings revision is = [] :=
  List.filter_eq_nil_iff.mpr fun call hcall => by simpa using h call hcall

theorem calm_append_iff {is js : List (Incident ι)} : Calm (is ++ js) ↔ Calm is ∧ Calm js :=
  List.forall_mem_append

theorem Calm.tail {incident : Incident ι} {is : List (Incident ι)} (h : Calm (incident :: is)) :
    Calm is :=
  (List.forall_mem_cons.mp h).2

end Incident

namespace Audience

variable [DecidableEq ι]

section

variable (send : Action → Hall σ ι → Hall σ ι × Dispatched)

/-- What happens while a reaction is carried out; `proceed` is what happens in a dispatch. -/
def reacted (proceed : Action → Hall σ ι → List (Incident ι)) :
    Reaction ι → Hall σ ι → List (Incident ι)
  | .done, _ => []
  | .raise fault, _ => [.failed fault]
  | .dispatch action next, h =>
    proceed action h ++
      reacted proceed (next (Dispatched.fault? (send action h).2)) (send action h).1
  | .subscribe listener next, h =>
    reacted proceed next { h with store := h.store.subscribe listener }
  | .unsubscribe listener next, h =>
    reacted proceed next { h with store := h.store.unsubscribe listener }

/-- What happens while the entries of a list are told, up to the first that fails. -/
def tidings (proceed : List ι → Action → Hall σ ι → List (Incident ι)) (A : Audience σ ι)
    (t : Transition) : List ι → Hall σ ι → List (Incident ι)
  | [], _ => []
  | listener :: rest, h =>
    let (memory, reaction) := A.hear listener t h.store h.memory
    .told listener t :: (reacted send (proceed rest) reaction { h with memory } ++
      match perform send reaction { h with memory } with
      | (h, none) => tidings proceed A t rest h
      | (_, some _) => [])

end

/-- What happens in the course of a dispatch with room for so many dispatches inside each other,
while the entries of `pending` have yet to be told of the replacement out of which it comes. -/
def proceedingsWithin (A : Audience σ ι) :
    Nat → List ι → Action → Hall σ ι → List (Incident ι)
  | 0, _, _, _ => []
  | room + 1, pending, action, h =>
    match h.store.state.attempt action with
    | .ok (some next) =>
      .replaced pending (h.store.announced action next) h.store.listeners ::
        match Store.limitFault? h.store.limit with
        | some _ => []
        | none => tidings (dispatchWithin A room) (proceedingsWithin A room) A
            (h.store.announced action next) h.store.listeners (A.replaced action next h)
    | _ => []

variable {send : Action → Hall σ ι → Hall σ ι × Dispatched}
  {proceed : Action → Hall σ ι → List (Incident ι)} {A : Audience σ ι}
  {room : Nat} {pending : List ι} {action : Action} {h : Hall σ ι}

theorem tell_cons (t : Transition) (listener : ι) (rest : List ι) (h : Hall σ ι) :
    tell A send t (listener :: rest) h =
      match perform send (A.hear listener t h.store h.memory).2
          { h with memory := (A.hear listener t h.store h.memory).1 } with
      | (h, none) => tell A send t rest h
      | (h, some fault) => (h, some fault) := rfl

theorem tidings_cons {proceed : List ι → Action → Hall σ ι → List (Incident ι)}
    (t : Transition) (listener : ι) (rest : List ι) (h : Hall σ ι) :
    tidings send proceed A t (listener :: rest) h =
      .told listener t :: (reacted send (proceed rest) (A.hear listener t h.store h.memory).2
          { h with memory := (A.hear listener t h.store h.memory).1 } ++
        match perform send (A.hear listener t h.store h.memory).2
            { h with memory := (A.hear listener t h.store h.memory).1 } with
        | (h, none) => tidings send proceed A t rest h
        | (_, some _) => []) := rfl

theorem proceedingsWithin_of_some {next : Snapshot}
    (ha : h.store.state.attempt action = .ok (some next)) (keeps : h.store.Keeps) :
    A.proceedingsWithin (room + 1) pending action h =
      .replaced pending (h.store.announced action next) h.store.listeners ::
        tidings (dispatchWithin A room) (proceedingsWithin A room) A
          (h.store.announced action next) h.store.listeners (A.replaced action next h) := by
  have hl : Store.limitFault? h.store.limit = none := keeps
  simp only [proceedingsWithin, ha, hl]

/-- In a dispatch that is not carried out nothing happens, and the store stays as it is. -/
theorem proceedingsWithin_of_not_some
    (ha : ∀ next, h.store.state.attempt action ≠ .ok (some next)) :
    A.proceedingsWithin room pending action h = [] ∧
      (A.dispatchWithin room action h).1.store = h.store := by
  cases room with
  | zero => exact ⟨rfl, rfl⟩
  | succ room =>
    rw [proceedingsWithin]
    match hnext : h.store.state.attempt action with
    | .ok (some next) => exact absurd hnext (ha next)
    | .ok none =>
      rw [dispatchWithin_of_none hnext]
      exact ⟨rfl, A.remarked_store action h⟩
    | .error fault =>
      rw [dispatchWithin_of_error hnext]
      exact ⟨rfl, A.remarked_store action h⟩

/-! ### The chronicle -/

theorem replacements_reacted {sent : Action → Hall σ ι → List Transition}
    (hproceed : ∀ a h, Incident.replacements (proceed a h) = sent a h) (r : Reaction ι)
    (h : Hall σ ι) :
    Incident.replacements (reacted send proceed r h) = performed send sent r h := by
  induction r generalizing h with
  | done => rfl
  | raise fault => rfl
  | dispatch action next ih => rw [reacted, performed, Incident.replacements_append, hproceed, ih]
  | subscribe listener next ih => exact ih _
  | unsubscribe listener next ih => exact ih _

theorem replacements_tidings {proceed : List ι → Action → Hall σ ι → List (Incident ι)}
    {sent : Action → Hall σ ι → List Transition}
    (hproceed : ∀ pending a h, Incident.replacements (proceed pending a h) = sent a h)
    (t : Transition) (listeners : List ι) (h : Hall σ ι) :
    Incident.replacements (tidings send proceed A t listeners h) =
      told send sent A t listeners h := by
  induction listeners generalizing h with
  | nil => rfl
  | cons listener rest ih =>
    rw [tidings, told, Incident.replacements_cons_told, Incident.replacements_append,
      replacements_reacted (hproceed _)]
    congr 1
    cases perform send (A.hear listener t h.store h.memory).2
        { h with memory := (A.hear listener t h.store h.memory).1 } with
    | mk h' fault =>
      cases fault with
      | none => exact ih h'
      | some fault => rfl

/-- **The replacements** among the proceedings are the chronicle. -/
theorem replacements_proceedingsWithin (A : Audience σ ι) (room : Nat) (pending : List ι)
    (action : Action) (h : Hall σ ι) :
    Incident.replacements (A.proceedingsWithin room pending action h) =
      A.chronicleWithin room action h := by
  induction room generalizing pending action h with
  | zero => rfl
  | succ room ih =>
    rw [proceedingsWithin, chronicleWithin]
    cases h.store.state.attempt action with
    | error fault => rfl
    | ok next? =>
      cases next? with
      | none => rfl
      | some next =>
        rw [Incident.replacements_cons_replaced]
        congr 1
        cases Store.limitFault? h.store.limit with
        | some fault => rfl
        | none => exact replacements_tidings ih _ _ _

/-! ### What the entries hear -/

omit [DecidableEq ι] in
/-- The audience that notes besides who is told of what. -/
def noted (A : Audience σ ι) : Audience (σ × List (ι × Transition)) ι where
  hear listener t store memory :=
    let (heard, reaction) := A.hear listener t store memory.1
    ((heard, memory.2 ++ [(listener, t)]), reaction)
  log line memory := (A.log line memory.1, memory.2)

end Audience

/-- The hall with notes of who was told of what. -/
def Hall.noting (h : Hall σ ι) (notes : List (ι × Transition)) :
    Hall (σ × List (ι × Transition)) ι := ⟨h.store, (h.memory, notes)⟩

namespace Audience

variable [DecidableEq ι] {send : Action → Hall σ ι → Hall σ ι × Dispatched}

omit [DecidableEq ι] in
theorem noted_remarked (A : Audience σ ι) (action : Action) (h : Hall σ ι)
    (notes : List (ι × Transition)) :
    A.noted.remarked action (h.noting notes) = (A.remarked action h).noting notes := by
  unfold remarked
  cases action.remark? <;> rfl

theorem noted_perform {proceed : Action → Hall σ ι → List (Incident ι)}
    {send' : Action → Hall (σ × List (ι × Transition)) ι →
      Hall (σ × List (ι × Transition)) ι × Dispatched}
    (hsend : ∀ a h notes, send' a (h.noting notes) =
      ((send a h).1.noting (notes ++ Incident.heard (proceed a h)), (send a h).2))
    (r : Reaction ι) (h : Hall σ ι) (notes : List (ι × Transition)) :
    perform send' r (h.noting notes) =
      ((perform send r h).1.noting (notes ++ Incident.heard (reacted send proceed r h)),
        (perform send r h).2) := by
  induction r generalizing h notes with
  | done => exact congrArg (fun n => (h.noting n, none)) (List.append_nil notes).symm
  | raise fault => exact congrArg (fun n => (h.noting n, some fault)) (List.append_nil notes).symm
  | dispatch action next ih =>
    rw [perform, hsend]
    simp only [ih, perform, reacted, Incident.heard_append, List.append_assoc]
  | subscribe listener next ih => exact ih { h with store := h.store.subscribe listener } notes
  | unsubscribe listener next ih => exact ih { h with store := h.store.unsubscribe listener } notes

theorem noted_tell {A : Audience σ ι}
    {proceed : List ι → Action → Hall σ ι → List (Incident ι)}
    {send' : Action → Hall (σ × List (ι × Transition)) ι →
      Hall (σ × List (ι × Transition)) ι × Dispatched}
    (hsend : ∀ pending a h notes, send' a (h.noting notes) =
      ((send a h).1.noting (notes ++ Incident.heard (proceed pending a h)), (send a h).2))
    (t : Transition) (listeners : List ι) (h : Hall σ ι) (notes : List (ι × Transition)) :
    tell A.noted send' t listeners (h.noting notes) =
      ((tell A send t listeners h).1.noting
          (notes ++ Incident.heard (tidings send proceed A t listeners h)),
        (tell A send t listeners h).2) := by
  induction listeners generalizing h notes with
  | nil => exact congrArg (fun n => (h.noting n, none)) (List.append_nil notes).symm
  | cons listener rest ih =>
    have hperform : perform send'
        (A.noted.hear listener t (h.noting notes).store (h.noting notes).memory).2
        { h.noting notes with
          memory := (A.noted.hear listener t (h.noting notes).store (h.noting notes).memory).1 } =
        _ :=
      noted_perform (hsend rest) (A.hear listener t h.store h.memory).2
        { h with memory := (A.hear listener t h.store h.memory).1 } (notes ++ [(listener, t)])
    rw [tell_cons, hperform, tell_cons, tidings_cons, Incident.heard_cons_told,
      Incident.heard_append]
    obtain ⟨h', fault⟩ := perform send (A.hear listener t h.store h.memory).2
      { h with memory := (A.hear listener t h.store h.memory).1 }
    cases fault with
    | none => simp [ih]
    | some fault => simp

/-- **What the entries hear** in a dispatch is what its proceedings say that they are told. -/
theorem noted_dispatchWithin (A : Audience σ ι) (room : Nat) (pending : List ι) (action : Action)
    (h : Hall σ ι) (notes : List (ι × Transition)) :
    A.noted.dispatchWithin room action (h.noting notes) =
      ((A.dispatchWithin room action h).1.noting
          (notes ++ Incident.heard (A.proceedingsWithin room pending action h)),
        (A.dispatchWithin room action h).2) := by
  induction room generalizing pending action h notes with
  | zero => exact congrArg (fun n => (h.noting n, _)) (List.append_nil notes).symm
  | succ room ih =>
    have hnotes : notes ++ Incident.heard ([] : List (Incident ι)) = notes := List.append_nil notes
    match ha : h.store.state.attempt action with
    | .error fault =>
      have ha' : (h.noting notes).store.state.attempt action = .error fault := ha
      rw [dispatchWithin_of_error ha, dispatchWithin_of_error ha', noted_remarked,
        (proceedingsWithin_of_not_some (by rw [ha]; nofun)).1, hnotes]
    | .ok none =>
      have ha' : (h.noting notes).store.state.attempt action = .ok none := ha
      rw [dispatchWithin_of_none ha, dispatchWithin_of_none ha', noted_remarked,
        (proceedingsWithin_of_not_some (by rw [ha]; nofun)).1, hnotes]
    | .ok (some next) =>
      have ha' : (h.noting notes).store.state.attempt action = .ok (some next) := ha
      have hreplaced : A.noted.replaced action next (h.noting notes) =
          (A.replaced action next h).noting notes := by
        rw [replaced, noted_remarked]
        rfl
      cases hl : Store.limitFault? h.store.limit with
      | some fault =>
        rw [dispatchWithin_of_limitFault ha hl, dispatchWithin_of_limitFault ha' hl, hreplaced,
          proceedingsWithin, ha]
        simp only [hl, Incident.heard_cons_replaced, hnotes]
      | none =>
        rw [dispatchWithin_of_some ha hl, dispatchWithin_of_some ha' hl, hreplaced,
          proceedingsWithin_of_some ha hl, Incident.heard_cons_replaced]
        have htell := noted_tell (A := A) ih (h.store.announced action next) h.store.listeners
          (A.replaced action next h) notes
        refine (congrArg (conclude next) htell).trans ?_
        obtain ⟨h', _ | fault⟩ := tell A (A.dispatchWithin room)
          (h.store.announced action next) h.store.listeners (A.replaced action next h) <;> rfl

end Audience

/-! ### Proceedings in which nobody fails -/

namespace Incident

/-- The entries that are left to be told of a transition are told of it in order. Before the next is
told, what was told last may lead to replacements, each of them with the telling of its own entries.
Replacements are numbered, from `lo` on to `hi`. -/
inductive Telling : Transition → List ι → Nat → List (Incident ι) → Nat → Prop
  | done {t : Transition} {lo : Nat} : Telling t [] lo [] lo
  | told {t : Transition} {lo hi : Nat} {listener : ι} {rest : List ι} {is : List (Incident ι)} :
      Telling t rest lo is hi → Telling t (listener :: rest) lo (.told listener t :: is) hi
  | replaced {t u : Transition} {lo mid hi : Nat} {rest entries : List ι}
      {is js : List (Incident ι)} : u.revision = lo + 1 → Telling u entries (lo + 1) is mid →
      Telling t rest mid js hi →
      Telling t rest lo (.replaced rest u entries :: (is ++ js)) hi

/-- What happens in a dispatch: nothing, or a replacement and the telling of all entries. -/
inductive Episode (pending : List ι) (lo : Nat) : List (Incident ι) → Nat → Prop
  | nothing : Episode pending lo [] lo
  | replaced {u : Transition} {entries : List ι} {is : List (Incident ι)} {hi : Nat} :
      u.revision = lo + 1 → Telling u entries (lo + 1) is hi →
      Episode pending lo (.replaced pending u entries :: is) hi

/-- A dispatch of the entry that was told last comes before the next telling. -/
theorem Episode.append {lo mid hi : Nat} {is js : List (Incident ι)} {t : Transition}
    {rest : List ι} (h : Episode rest lo is mid) (hrest : Telling t rest mid js hi) :
    Telling t rest lo (is ++ js) hi := by
  cases h with
  | nothing => exact hrest
  | replaced hu htelling => exact .replaced hu htelling hrest

end Incident

/-- From its beginning to its end, a course keeps the limit of the history. -/
theorem Store.Course.limit {P : Action → Prop} {s s' : Store ι} {ts : List Transition}
    (h : Store.Course P s ts s') : s'.limit = s.limit := by
  induction h with
  | nil hsame => exact hsame.limit
  | cons _ _ _ ih => exact ih

namespace Audience

open Incident (Calm Telling Episode)

variable [DecidableEq ι] {send : Action → Hall σ ι → Hall σ ι × Dispatched}
  {A : Audience σ ι} {h : Hall σ ι}

/-- **The replacements** of a dispatch follow one on the other. -/
theorem proceedingsWithin_course (A : Audience σ ι) (room : Nat) (pending : List ι)
    (action : Action) (h : Hall σ ι) :
    Store.Course (fun _ => True) h.store
      (Incident.replacements (A.proceedingsWithin room pending action h))
      (A.dispatchWithin room action h).1.store := by
  rw [replacements_proceedingsWithin]
  exact A.chronicleWithin_course (fun _ _ _ _ => Reaction.within_true _) room trivial h

/-- A dispatch does not change what limit can be kept. -/
theorem keeps_dispatchWithin (A : Audience σ ι) (room : Nat) (action : Action)
    (keeps : h.store.Keeps) : (A.dispatchWithin room action h).1.store.Keeps :=
  (congrArg Store.limitFault? (A.proceedingsWithin_course room [] action h).limit).trans keeps

theorem perform_of_calm {proceed : Action → Hall σ ι → List (Incident ι)} {r : Reaction ι}
    (calm : Calm (reacted send proceed r h)) : (perform send r h).2 = none := by
  induction r generalizing h with
  | done => rfl
  | raise fault => exact absurd rfl (calm _ List.mem_cons_self)
  | dispatch action next ih => exact ih _ (Incident.calm_append_iff.mp calm).2
  | subscribe listener next ih => exact ih calm
  | unsubscribe listener next ih => exact ih calm

/-- What the dispatches inside a telling have to be like. -/
structure Proceeds (send : Action → Hall σ ι → Hall σ ι × Dispatched)
    (proceed : List ι → Action → Hall σ ι → List (Incident ι)) : Prop where
  keeps : ∀ action h, h.store.Keeps → (send action h).1.store.Keeps
  episode : ∀ pending action h, h.store.Keeps → Calm (proceed pending action h) →
    Episode pending h.store.revision (proceed pending action h) (send action h).1.store.revision

variable {proceed : List ι → Action → Hall σ ι → List (Incident ι)}

theorem Proceeds.keeps_perform (hp : Proceeds send proceed) (r : Reaction ι)
    (keeps : h.store.Keeps) : (perform send r h).1.store.Keeps := by
  induction r generalizing h with
  | done | raise => exact keeps
  | dispatch action next ih => exact ih _ (hp.keeps action h keeps)
  | subscribe listener next ih => exact ih keeps
  | unsubscribe listener next ih => exact ih keeps

/-- What an entry does that has been told comes before the next telling. -/
theorem Proceeds.telling_reacted (hp : Proceeds send proceed) {hi : Nat} {t : Transition}
    {rest : List ι} {is : List (Incident ι)} (r : Reaction ι) (keeps : h.store.Keeps)
    (calm : Calm (reacted send (proceed rest) r h))
    (hrest : Telling t rest (perform send r h).1.store.revision is hi) :
    Telling t rest h.store.revision (reacted send (proceed rest) r h ++ is) hi := by
  induction r generalizing h with
  | done => exact hrest
  | raise fault => exact absurd rfl (calm _ List.mem_cons_self)
  | dispatch action next ih =>
    obtain ⟨hcalm, hcalm'⟩ := Incident.calm_append_iff.mp calm
    rw [reacted, List.append_assoc]
    exact (hp.episode _ action h keeps hcalm).append
      (ih _ (hp.keeps action h keeps) hcalm' hrest)
  | subscribe listener next ih =>
    exact ih (h := { h with store := h.store.subscribe listener }) keeps calm hrest
  | unsubscribe listener next ih =>
    exact ih (h := { h with store := h.store.unsubscribe listener }) keeps calm hrest

/-- The entries of a list are told one after the other. -/
theorem Proceeds.telling_tell (hp : Proceeds send proceed) (t : Transition)
    (listeners : List ι) (keeps : h.store.Keeps)
    (calm : Calm (tidings send proceed A t listeners h)) :
    Telling t listeners h.store.revision (tidings send proceed A t listeners h)
      (tell A send t listeners h).1.store.revision := by
  induction listeners generalizing h with
  | nil => exact .done
  | cons listener rest ih =>
    rw [tidings_cons] at calm ⊢
    obtain ⟨hreacted, hrest⟩ := Incident.calm_append_iff.mp calm.tail
    have hnone := perform_of_calm hreacted
    have hkeeps := hp.keeps_perform (A.hear listener t h.store h.memory).2
      (h := { h with memory := (A.hear listener t h.store h.memory).1 }) keeps
    refine .told (hp.telling_reacted _
      (h := { h with memory := (A.hear listener t h.store h.memory).1 }) keeps hreacted ?_)
    rw [tell_cons]
    cases hperform : perform send (A.hear listener t h.store h.memory).2
        { h with memory := (A.hear listener t h.store h.memory).1 } with
    | mk h' fault =>
      simp only [hperform] at hnone hkeeps hrest
      subst hnone
      exact ih hkeeps hrest

theorem proceeds (A : Audience σ ι) (room : Nat) :
    Proceeds (A.dispatchWithin room) (A.proceedingsWithin room) := by
  induction room with
  | zero =>
    exact ⟨fun action h => A.keeps_dispatchWithin 0 action, fun _ _ _ _ _ => .nothing⟩
  | succ room ih =>
    refine ⟨fun action h => A.keeps_dispatchWithin (room + 1) action,
      fun pending action h keeps calm => ?_⟩
    by_cases hnext : ∃ next, h.store.state.attempt action = .ok (some next)
    · obtain ⟨next, hnext⟩ := hnext
      rw [proceedingsWithin_of_some hnext keeps] at calm ⊢
      rw [dispatchWithin_of_some hnext keeps, conclude_fst]
      exact .replaced rfl (ih.telling_tell _ _ (h := A.replaced action next h) keeps
        calm.tail)
    · obtain ⟨hnil, hstore⟩ : A.proceedingsWithin (room + 1) pending action h = [] ∧ _ :=
        proceedingsWithin_of_not_some (not_exists.mp hnext)
      rw [hnil, hstore]
      exact .nothing

/-- **Proceedings in which nobody fails** are those of an episode. -/
theorem episode_proceedingsWithin (A : Audience σ ι) (room : Nat) (pending : List ι)
    (action : Action) (keeps : h.store.Keeps)
    (calm : Calm (A.proceedingsWithin room pending action h)) :
    Episode pending h.store.revision (A.proceedingsWithin room pending action h)
      (A.dispatchWithin room action h).1.store.revision :=
  (A.proceeds room).episode pending action h keeps calm

end Audience

end SpriteStage
