import SpriteStage.Proofs.Store.Aloof

/-!
# Chronicles

A listener that is told of a replacement may dispatch in its turn, so that one dispatch can come to
a tree of replacements, of which any may be cut short by a failure. The *chronicle* of a dispatch
lists all of them in the order in which they happen (`Audience.chronicleWithin`). Whoever listens
and whatever fails, the replacements of a chronicle follow one on the other: each action is carried
out on the snapshot that the one before has left, and nothing else happens to the record of the
store (`Audience.chronicle_course`). So what every action preserves holds of every snapshot that
there ever is (`Store.Course.preserves`).
-/

namespace SpriteStage

variable {σ ι : Type} {P : Action → Prop}

namespace Store

/-- From the first store to the last, the snapshot was replaced by these transitions one after the
other, each of them an action of the kind that was carried out on the snapshot that was there;
nothing else changed but the listeners. -/
inductive Course (P : Action → Prop) : Store ι → List Transition → Store ι → Prop
  | nil {s s' : Store ι} : SameRecord s s' → Course P s [] s'
  | cons {s s' : Store ι} {action : Action} {next : Snapshot} {ts : List Transition} :
      P action → s.state.attempt action = .ok (some next) → Course P (s.replace next) ts s' →
      Course P s (s.announced action next :: ts) s'

theorem SameRecord.replace {s s' : Store ι} (h : SameRecord s s') (next : Snapshot) :
    SameRecord (s.replace next) (s'.replace next) where
  state := rfl
  limit := h.limit
  history := by simp only [Store.replace, h.limit, h.history, h.state]
  revision := congrArg (· + 1) h.revision

namespace Course

variable {s s' s'' : Store ι} {ts ts' : List Transition}

theorem of_sameRecord (h : SameRecord s s') (hc : Course P s' ts s'') : Course P s ts s'' := by
  induction hc generalizing s with
  | nil h' => exact .nil (h.trans h')
  | @cons s' s'' action next ts ha hnext _ ih =>
    have hannounced : s'.announced action next = s.announced action next := by
      rw [announced, announced, h.state, h.revision]
    rw [hannounced]
    exact .cons ha (h.state ▸ hnext) (ih (h.replace next))

theorem append (h : Course P s ts s') (h' : Course P s' ts' s'') : Course P s (ts ++ ts') s'' := by
  induction h with
  | nil hsame => exact h'.of_sameRecord hsame
  | cons ha hnext _ ih => exact .cons ha hnext (ih h')

/-- As often as the snapshot was replaced, the number of replacements went up. -/
theorem revision (h : Course P s ts s') : s'.revision = s.revision + ts.length := by
  induction h with
  | nil hsame => exact hsame.revision
  | @cons s s' action next ts _ _ _ ih =>
    rw [ih, List.length_cons]
    simp only [Store.replace]
    omega

/-- All snapshots that there were, in order. -/
def snapshots (s : Store ι) (ts : List Transition) : List Snapshot :=
  s.state :: ts.map (·.current)

/-- The last snapshot is the one that the store holds in the end. -/
theorem getLast?_snapshots (h : Course P s ts s') :
    (snapshots s ts).getLast? = some s'.state := by
  induction h with
  | nil hsame => exact congrArg some hsame.state.symm
  | cons _ _ _ ih => exact (List.getLast?_cons_cons ..).trans ih

/-- **What every action of the kind preserves** holds of all snapshots that there were. -/
theorem preserves {J : Snapshot → Prop} (hJ : ∀ s a, P a → J s → J (s.after a))
    (h : Course P s ts s') (hs : J s.state) : ∀ t ∈ snapshots s ts, J t := by
  induction h with
  | nil hsame => exact List.forall_mem_singleton.mpr hs
  | @cons s s' action next ts ha hnext _ ih =>
    have hafter : s.state.after action = next := by rw [Snapshot.after, hnext]
    exact List.forall_mem_cons.mpr ⟨hs, ih (hafter ▸ hJ s.state action ha hs)⟩

end Course

end Store

/-- Something that is done to a store from outside. -/
inductive Deed (ι : Type) where
  /-- Somebody dispatches an action; a failure of it does not keep others from going on. -/
  | dispatch (action : Action)
  /-- An entry of a listener is brought in. -/
  | subscribe (listener : ι)
  /-- An entry of a listener is taken out. -/
  | unsubscribe (listener : ι)

namespace Audience

variable [DecidableEq ι]

section

variable (send : Action → Hall σ ι → Hall σ ι × Dispatched)
  (sent : Action → Hall σ ι → List Transition)

/-- The replacements of a reaction; `sent` are those of a dispatch. -/
def performed : Reaction ι → Hall σ ι → List Transition
  | .done, _ => []
  | .raise _, _ => []
  | .dispatch action next, h =>
    sent action h ++ performed (next (Dispatched.fault? (send action h).2)) (send action h).1
  | .subscribe listener next, h =>
    performed next { h with store := h.store.subscribe listener }
  | .unsubscribe listener next, h =>
    performed next { h with store := h.store.unsubscribe listener }

/-- The replacements while the entries of a list are told, up to the first that fails. -/
def told (A : Audience σ ι) (t : Transition) : List ι → Hall σ ι → List Transition
  | [], _ => []
  | listener :: rest, h =>
    let (memory, reaction) := A.hear listener t h.store h.memory
    performed send sent reaction { h with memory } ++
      match perform send reaction { h with memory } with
      | (h, none) => told A t rest h
      | (_, some _) => []

end

/-- The replacements of a dispatch with room for so many dispatches inside each other: its own, if
it is carried out, and then those that come of it. -/
def chronicleWithin (A : Audience σ ι) : Nat → Action → Hall σ ι → List Transition
  | 0, _, _ => []
  | room + 1, action, h =>
    match h.store.state.attempt action with
    | .ok (some next) =>
      h.store.announced action next ::
        match Store.limitFault? h.store.limit with
        | some _ => []
        | none => told (dispatchWithin A room) (chronicleWithin A room) A
            (h.store.announced action next) h.store.listeners (A.replaced action next h)
    | _ => []

/-- The hall after a deed, with room for so many dispatches inside each other. -/
def act (A : Audience σ ι) (room : Nat) (h : Hall σ ι) : Deed ι → Hall σ ι
  | .dispatch action => (A.dispatchWithin room action h).1
  | .subscribe listener => { h with store := h.store.subscribe listener }
  | .unsubscribe listener => { h with store := h.store.unsubscribe listener }

/-- The replacements of deeds, one after the other. -/
def chronicle (A : Audience σ ι) (room : Nat) : List (Deed ι) → Hall σ ι → List Transition
  | [], _ => []
  | .dispatch action :: rest, h =>
    A.chronicleWithin room action h ++ chronicle A room rest (A.act room h (.dispatch action))
  | deed :: rest, h => chronicle A room rest (A.act room h deed)

/-! ### Chronicles are courses -/

variable {send : Action → Hall σ ι → Hall σ ι × Dispatched}
  {sent : Action → Hall σ ι → List Transition} {A : Audience σ ι}

theorem performed_course
    (hsend : ∀ a h, P a → Store.Course P h.store (sent a h) (send a h).1.store)
    {r : Reaction ι} (hr : r.Within P) (h : Hall σ ι) :
    Store.Course P h.store (performed send sent r h) (perform send r h).1.store := by
  induction hr generalizing h with
  | done => exact .nil (.refl _)
  | raise fault => exact .nil (.refl _)
  | dispatch ha _ ih => exact (hsend _ h ha).append (ih _ _)
  | @subscribe listener next _ ih =>
    have hnext := ih { h with store := h.store.subscribe listener }
    exact hnext.of_sameRecord (.subscribe h.store listener)
  | @unsubscribe listener next _ ih =>
    have hnext := ih { h with store := h.store.unsubscribe listener }
    exact hnext.of_sameRecord (.unsubscribe h.store listener)

theorem told_course (hA : A.Within P)
    (hsend : ∀ a h, P a → Store.Course P h.store (sent a h) (send a h).1.store) (t : Transition)
    (listeners : List ι) (h : Hall σ ι) :
    Store.Course P h.store (told send sent A t listeners h) (tell A send t listeners h).1.store := by
  induction listeners generalizing h with
  | nil => exact .nil (.refl _)
  | cons listener rest ih =>
    have hheard := hA listener t h.store h.memory
    rw [told, tell]
    generalize A.hear listener t h.store h.memory = heard at hheard
    have hcourse := performed_course hsend hheard { h with memory := heard.1 }
    cases hp : perform send heard.2 { h with memory := heard.1 } with
    | mk h' fault =>
      rw [hp] at hcourse
      simp only [hp]
      cases fault with
      | none => exact hcourse.append (ih h')
      | some fault => exact hcourse.append (.nil (.refl _))

/-- **The chronicle of a dispatch** is a course of the store, if listeners dispatch only actions of
the kind. -/
theorem chronicleWithin_course (hA : A.Within P) (room : Nat) {action : Action} (ha : P action)
    (h : Hall σ ι) :
    Store.Course P h.store (A.chronicleWithin room action h)
      (A.dispatchWithin room action h).1.store := by
  induction room generalizing action h with
  | zero => exact .nil (.refl _)
  | succ room ih =>
    have hremarked : Store.SameRecord h.store (A.remarked action h).store :=
      (A.remarked_store action h).symm ▸ .refl _
    rw [chronicleWithin]
    match hnext : h.store.state.attempt action with
    | .error fault =>
      rw [dispatchWithin_of_error hnext]
      exact .nil hremarked
    | .ok none =>
      rw [dispatchWithin_of_none hnext]
      exact .nil hremarked
    | .ok (some next) =>
      refine .cons ha hnext ?_
      cases hl : Store.limitFault? h.store.limit with
      | some fault =>
        rw [dispatchWithin_of_limitFault hnext hl]
        exact .nil (.refl _)
      | none =>
        rw [dispatchWithin_of_some hnext hl, conclude_fst]
        exact told_course hA (fun a h ha => ih ha h) _ _ (A.replaced action next h)

/-- **The chronicle of deeds** is a course of the store. -/
theorem chronicle_course (hA : A.Within P) (room : Nat) {deeds : List (Deed ι)}
    (hdeeds : ∀ a, .dispatch a ∈ deeds → P a) (h : Hall σ ι) :
    Store.Course P h.store (A.chronicle room deeds h) (deeds.foldl (A.act room) h).store := by
  induction deeds generalizing h with
  | nil => exact .nil (.refl _)
  | cons deed rest ih =>
    have hrest := ih (fun a ha => hdeeds a (List.mem_cons_of_mem _ ha)) (A.act room h deed)
    cases deed with
    | dispatch action =>
      exact (chronicleWithin_course hA room (hdeeds action List.mem_cons_self) h).append hrest
    | subscribe listener => exact hrest.of_sameRecord (.subscribe h.store listener)
    | unsubscribe listener => exact hrest.of_sameRecord (.unsubscribe h.store listener)

end Audience

end SpriteStage
