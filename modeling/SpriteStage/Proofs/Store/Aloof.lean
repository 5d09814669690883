import SpriteStage.Scene

/-!
# Aloof audiences

Listeners that dispatch nothing of their own are *aloof*: they may fail, remember what they hear and
change the list of listeners. The snapshot is replaced before anybody is told, so a dispatch to an
aloof audience does to the record of the store what the action does to the snapshot, whoever fails
(`Audience.dispatch_record`).
-/

namespace SpriteStage

variable {σ ι : Type}

/-- The reaction dispatches only actions of a kind, whatever comes of them. -/
inductive Reaction.Within (P : Action → Prop) : Reaction ι → Prop
  | done : Within P .done
  | raise (fault : Fault) : Within P (.raise fault)
  | dispatch {action : Action} {next : Option Fault → Reaction ι} :
      P action → (∀ fault, (next fault).Within P) → Within P (.dispatch action next)
  | subscribe {listener : ι} {next : Reaction ι} :
      next.Within P → Within P (.subscribe listener next)
  | unsubscribe {listener : ι} {next : Reaction ι} :
      next.Within P → Within P (.unsubscribe listener next)

namespace Audience

/-- The listeners dispatch only actions of a kind. -/
def Within (P : Action → Prop) (A : Audience σ ι) : Prop :=
  ∀ listener t store memory, (A.hear listener t store memory).2.Within P

/-- No listener ever dispatches anything. -/
def Aloof (A : Audience σ ι) : Prop := A.Within fun _ => False

end Audience

theorem Reaction.Within.mono {P Q : Action → Prop} {r : Reaction ι} (h : r.Within P)
    (hPQ : ∀ a, P a → Q a) : r.Within Q := by
  induction h with
  | done => exact .done
  | raise fault => exact .raise fault
  | dispatch ha _ ih => exact .dispatch (hPQ _ ha) ih
  | subscribe _ ih => exact .subscribe ih
  | unsubscribe _ ih => exact .unsubscribe ih

theorem Audience.Aloof.within {A : Audience σ ι} (hA : A.Aloof) (P : Action → Prop) : A.Within P :=
  fun listener t store memory => (hA listener t store memory).mono fun _ => False.elim

namespace Store

/-- The second store differs from the first at most in its listeners. -/
structure SameRecord (s s' : Store ι) : Prop where
  state : s'.state = s.state
  limit : s'.limit = s.limit
  history : s'.history = s.history
  revision : s'.revision = s.revision

theorem SameRecord.refl (s : Store ι) : SameRecord s s := ⟨rfl, rfl, rfl, rfl⟩

theorem SameRecord.trans {s s' s'' : Store ι} (h₁ : SameRecord s s') (h₂ : SameRecord s' s'') :
    SameRecord s s'' :=
  ⟨h₂.state.trans h₁.state, h₂.limit.trans h₁.limit, h₂.history.trans h₁.history,
    h₂.revision.trans h₁.revision⟩

theorem SameRecord.subscribe (s : Store ι) (listener : ι) : SameRecord s (s.subscribe listener) :=
  ⟨rfl, rfl, rfl, rfl⟩

theorem SameRecord.unsubscribe [DecidableEq ι] (s : Store ι) (listener : ι) :
    SameRecord s (s.unsubscribe listener) := ⟨rfl, rfl, rfl, rfl⟩

/-- The store with what comes of an action. -/
def carried (s : Store ι) (a : Action) : Store ι :=
  match s.state.attempt a with
  | .ok (some next) => s.replace next
  | _ => s

/-- The transition that the listeners are told of when the snapshot has been replaced. -/
def announced (s : Store ι) (action : Action) (next : Snapshot) : Transition :=
  ⟨s.state, next, action, s.revision + 1⟩

/-- The limit of the history is one that can be kept. -/
def Keeps (s : Store ι) : Prop := limitFault? s.limit = none

end Store

namespace Snapshot

theorem attempt_of_fault {s : Snapshot} {a : Action} {fault : Fault} (h : s.fault? a = some fault) :
    s.attempt a = .error fault := by rw [attempt, h]

theorem attempt_of_none {s : Snapshot} {a : Action} (h : s.fault? a = none) :
    s.attempt a = .ok (s.after? a) := by rw [attempt, h]

theorem after_of_fault {s : Snapshot} {a : Action} {fault : Fault} (h : s.fault? a = some fault) :
    s.after a = s := by rw [after, attempt_of_fault h]

theorem after_of_none {s : Snapshot} {a : Action} (h : s.fault? a = none) :
    s.after a = (s.after? a).getD s := by
  rw [after, attempt_of_none h]
  cases s.after? a <;> rfl

end Snapshot

namespace Store

@[simp] theorem carried_state (s : Store ι) (a : Action) :
    (s.carried a).state = s.state.after a := by
  unfold carried Snapshot.after
  cases s.state.attempt a with
  | error fault => rfl
  | ok next => cases next <;> rfl

@[simp] theorem carried_limit (s : Store ι) (a : Action) : (s.carried a).limit = s.limit := by
  unfold carried
  split <;> rfl

theorem mem_of_mem_remember {limit : Datum} {history : List Snapshot} {s t : Snapshot}
    (h : t ∈ remember limit history s) : t ∈ history ∨ t = s := by
  have hall : t ∈ history ++ [s] → t ∈ history ∨ t = s := by simp
  unfold remember at h
  split at h
  · split at h
    · exact hall (List.mem_of_mem_drop h)
    · exact .inl h
  · split at h
    · exact hall h
    · exact .inl h
  · exact .inl h

/-- What is remembered was remembered before, or was the present snapshot. -/
theorem mem_of_mem_carried_history {s : Store ι} {a : Action} {t : Snapshot}
    (h : t ∈ (s.carried a).history) : t ∈ s.history ∨ t = s.state := by
  unfold carried at h
  split at h
  · exact mem_of_mem_remember h
  · exact .inl h

end Store

namespace Audience

/-! ### The steps of a dispatch -/

@[simp] theorem remarked_store (A : Audience σ ι) (action : Action) (h : Hall σ ι) :
    (A.remarked action h).store = h.store := by
  unfold remarked
  split <;> rfl

/-- The hall in which an action has been carried out and nobody has been told yet. -/
def replaced (A : Audience σ ι) (action : Action) (next : Snapshot) (h : Hall σ ι) : Hall σ ι :=
  { A.remarked action h with store := h.store.replace next }

variable [DecidableEq ι] {A : Audience σ ι} {room : Nat} {action : Action} {h : Hall σ ι}

theorem dispatchWithin_of_error {fault : Fault} (ha : h.store.state.attempt action = .error fault) :
    A.dispatchWithin (room + 1) action h = (A.remarked action h, .error fault) := by
  simp only [dispatchWithin, remarked_store, ha]

theorem dispatchWithin_of_none (ha : h.store.state.attempt action = .ok none) :
    A.dispatchWithin (room + 1) action h = (A.remarked action h, .ok none) := by
  simp only [dispatchWithin, remarked_store, ha]

theorem dispatchWithin_of_limitFault {next : Snapshot} {fault : Fault}
    (ha : h.store.state.attempt action = .ok (some next))
    (hl : Store.limitFault? h.store.limit = some fault) :
    A.dispatchWithin (room + 1) action h = (A.replaced action next h, .error fault) := by
  have hl' : Store.limitFault? (h.store.replace next).limit = some fault := hl
  simp only [dispatchWithin, remarked_store, ha, hl']
  rfl

/-- What a dispatch comes to once the listeners have been told. -/
def conclude (next : Snapshot) : Hall σ ι × Option Fault → Hall σ ι × Dispatched
  | (h, none) => (h, .ok (some next))
  | (h, some fault) => (h, .error fault)

omit [DecidableEq ι] in
@[simp] theorem conclude_fst (next : Snapshot) (told : Hall σ ι × Option Fault) :
    (conclude next told).1 = told.1 := by
  obtain ⟨h, _ | fault⟩ := told <;> rfl

omit [DecidableEq ι] in
@[simp] theorem conclude_fault? (next : Snapshot) (told : Hall σ ι × Option Fault) :
    (conclude next told).2.fault? = told.2 := by
  obtain ⟨h, _ | fault⟩ := told <;> rfl

theorem dispatchWithin_of_some {next : Snapshot}
    (ha : h.store.state.attempt action = .ok (some next)) (hl : h.store.Keeps) :
    A.dispatchWithin (room + 1) action h =
      conclude next (tell A (dispatchWithin A room) (h.store.announced action next)
        h.store.listeners (A.replaced action next h)) := by
  have hl' : Store.limitFault? (h.store.replace next).limit = none := hl
  simp only [dispatchWithin, remarked_store, ha, hl']
  rfl

/-! ### Dispatches to aloof audiences -/

variable (send : Action → Hall σ ι → Hall σ ι × Dispatched)

theorem perform_aloof {r : Reaction ι} (hr : r.Within fun _ => False) (h : Hall σ ι) :
    Store.SameRecord h.store (perform send r h).1.store ∧
      (perform send r h).1.memory = h.memory := by
  induction hr generalizing h with
  | done => exact ⟨.refl _, rfl⟩
  | raise fault => exact ⟨.refl _, rfl⟩
  | dispatch hfalse => exact hfalse.elim
  | @subscribe listener next _ ih =>
    obtain ⟨hsame, hmemory⟩ := ih { h with store := h.store.subscribe listener }
    exact ⟨(Store.SameRecord.subscribe h.store listener).trans hsame, hmemory⟩
  | @unsubscribe listener next _ ih =>
    obtain ⟨hsame, hmemory⟩ := ih { h with store := h.store.unsubscribe listener }
    exact ⟨(Store.SameRecord.unsubscribe h.store listener).trans hsame, hmemory⟩

/-- What listeners leave alone: a property of the memory that none of them takes away at transitions
of some kind, nor the log. -/
structure Leaves (A : Audience σ ι) (T : Transition → Prop) (J : σ → Prop) : Prop where
  hear : ∀ listener t store memory, T t → J memory → J (A.hear listener t store memory).1
  log : ∀ line memory, J memory → J (A.log line memory)

omit [DecidableEq ι] in
theorem Leaves.nothing : A.Leaves (fun _ => True) fun _ => True :=
  ⟨fun _ _ _ _ _ _ => trivial, fun _ _ _ => trivial⟩

variable {T : Transition → Prop} {J : σ → Prop}

/-- If the action is carried out, then by a transition of the kind. -/
def Brings (T : Transition → Prop) (s : Snapshot) (action : Action) : Prop :=
  ∀ next revision, s.attempt action = .ok (some next) → T ⟨s, next, action, revision⟩

theorem tell_aloof (hA : A.Aloof) (hJ : A.Leaves T J) {t : Transition} (ht : T t)
    (listeners : List ι) {h : Hall σ ι} (hm : J h.memory) :
    Store.SameRecord h.store (tell A send t listeners h).1.store ∧
      J (tell A send t listeners h).1.memory := by
  induction listeners generalizing h with
  | nil => exact ⟨.refl _, hm⟩
  | cons listener rest ih =>
    have haloof := hA listener t h.store h.memory
    have hheard := hJ.hear listener t h.store h.memory ht hm
    rw [tell]
    generalize A.hear listener t h.store h.memory = heard at haloof hheard
    obtain ⟨hsame, hmemory⟩ := perform_aloof send haloof { h with memory := heard.1 }
    have hm' : J (perform send heard.2 { h with memory := heard.1 }).1.memory :=
      hmemory ▸ hheard
    cases hp : perform send heard.2 { h with memory := heard.1 } with
    | mk h' fault =>
      rw [hp] at hsame hm'
      cases fault with
      | some fault => simp only [hp]; exact ⟨hsame, hm'⟩
      | none =>
        obtain ⟨hsame', hm''⟩ := ih hm'
        simp only [hp]
        exact ⟨hsame.trans hsame', hm''⟩

omit [DecidableEq ι] in
theorem remarked_memory (hJ : A.Leaves T J) (action : Action) {h : Hall σ ι} (hm : J h.memory) :
    J (A.remarked action h).memory := by
  unfold remarked
  split
  · exact hJ.log _ _ hm
  · exact hm

theorem dispatchWithin_aloof (hA : A.Aloof) (hJ : A.Leaves T J) (room : Nat)
    (hT : Brings T h.store.state action) (hm : J h.memory) :
    Store.SameRecord (h.store.carried action) (A.dispatchWithin (room + 1) action h).1.store ∧
      J (A.dispatchWithin (room + 1) action h).1.memory := by
  have hm' : J (A.remarked action h).memory := remarked_memory hJ action hm
  rw [Store.carried]
  match ha : h.store.state.attempt action with
  | .error fault =>
    rw [dispatchWithin_of_error ha]
    exact ⟨(A.remarked_store action h).symm ▸ .refl _, hm'⟩
  | .ok none =>
    rw [dispatchWithin_of_none ha]
    exact ⟨(A.remarked_store action h).symm ▸ .refl _, hm'⟩
  | .ok (some next) =>
    cases hl : Store.limitFault? h.store.limit with
    | some fault =>
      rw [dispatchWithin_of_limitFault ha hl]
      exact ⟨.refl _, hm'⟩
    | none =>
      rw [dispatchWithin_of_some ha hl, conclude_fst]
      have ht : T (h.store.announced action next) := hT next _ ha
      have hm₁ : J (A.replaced action next h).memory := hm'
      exact tell_aloof (dispatchWithin A room) hA hJ ht h.store.listeners hm₁

/-- There is room for a dispatch. -/
theorem exists_dispatch_eq (A : Audience σ ι) : ∃ room, A.dispatch = A.dispatchWithin (room + 1) :=
  ⟨room - 1, rfl⟩

/-- **A dispatch to an aloof audience** does to the record of the store what the action does,
whether it fails or not, and leaves alone what the listeners leave alone. -/
theorem dispatch_record (hA : A.Aloof) (hJ : A.Leaves T J) (action : Action)
    (hT : Brings T h.store.state action) (hm : J h.memory) :
    Store.SameRecord (h.store.carried action) (A.dispatch action h).1.store ∧
      J (A.dispatch action h).1.memory := by
  obtain ⟨room, hroom⟩ := A.exists_dispatch_eq
  rw [hroom]
  exact dispatchWithin_aloof hA hJ room hT hm

/-- A dispatch to an aloof audience does to the snapshot what the action does. -/
theorem dispatch_state (hA : A.Aloof) (action : Action) (h : Hall σ ι) :
    (A.dispatch action h).1.store.state = h.store.state.after action := by
  obtain ⟨hrecord, -⟩ := dispatch_record (h := h) hA Leaves.nothing action (fun _ _ _ => trivial)
    trivial
  exact hrecord.state.trans (h.store.carried_state action)

end Audience

end SpriteStage
