import Mathlib.Data.List.Induction
import Mathlib.Data.List.Nodup
import SpriteStage.Store.Basic

/-!
# Subscriptions

Each subscription returns a function to end it. The function knows its listener and not its entry:
it takes out the first entry of the listener that there is, and the guard in it is for the case that
there is none. So the list holds exactly the subscriptions that have not been ended if and only if
no function is called that finds another entry in the place of its own
(`Register.exact_iff_proper`); it always does where no listener subscribes twice.
-/

namespace SpriteStage

/-- A call that changes the list of listeners. -/
inductive ListenerCall (ι : Type) where
  /-- A listener subscribes. -/
  | subscribe (listener : ι)
  /-- The function that the subscription of this number returned is called. -/
  | cancel (n : Nat)

/-- A store with its subscriptions, in order, each with whether it stands: its own function has not
been called. -/
structure Register (ι : Type) where
  store : Store ι
  subscriptions : List (ι × Bool)

namespace Register

variable {ι : Type}

/-- The listeners of the subscriptions that stand. -/
def standing (subscriptions : List (ι × Bool)) : List ι :=
  (subscriptions.filter (·.2)).map (·.1)

/-- The entries of the store are the subscriptions that stand, in order. -/
def Exact (r : Register ι) : Prop := r.store.listeners = standing r.subscriptions

/-- A store whose entries are subscriptions that all stand. -/
def ofStore (s : Store ι) : Register ι := ⟨s, s.listeners.map (·, true)⟩

section

variable [DecidableEq ι]

/-- What a call does: a function takes an entry of its listener out. -/
def call (r : Register ι) : ListenerCall ι → Register ι
  | .subscribe listener => ⟨r.store.subscribe listener, r.subscriptions ++ [(listener, true)]⟩
  | .cancel n =>
    match r.subscriptions[n]? with
    | some (listener, _) => ⟨r.store.unsubscribe listener, r.subscriptions.set n (listener, false)⟩
    | none => r

end

/-- A function finds its own entry or none, or one that is as good as its own: between the two there
is no entry of anybody else. -/
def Proper (r : Register ι) (n : Nat) : Prop :=
  ∀ listener stands, r.subscriptions[n]? = some (listener, stands) →
    if stands then
      (standing (r.subscriptions.take n)).Pairwise fun a b => a = listener → b = listener
    else listener ∉ standing r.subscriptions

/-! ### Taking an entry out -/

theorem append_cons_eq_cons_append_iff {x : ι} {before after : List ι} :
    before ++ x :: after = x :: (before ++ after) ↔ ∀ y ∈ before, y = x := by
  induction before with
  | nil => simp
  | cons y before ih =>
    rw [List.forall_mem_cons, ← ih, List.cons_append, List.cons_append, List.cons.injEq]
    exact and_congr_right fun hy => hy ▸ Iff.rfl

/-- To take out the first entry is to take out this one, if only entries of the same listener stand
between the two. -/
theorem erase_append_cons_iff [DecidableEq ι] {x : ι} {before after : List ι} :
    (before ++ x :: after).erase x = before ++ after ↔
      before.Pairwise fun a b => a = x → b = x := by
  induction before with
  | nil => simp
  | cons y before ih =>
    by_cases hy : y = x
    · subst hy
      rw [List.cons_append, List.erase_cons_head, List.cons_append,
        append_cons_eq_cons_append_iff, List.pairwise_cons]
      refine ⟨fun h => ⟨fun z hz _ => h z hz, ?_⟩, fun h z hz => h.1 z hz rfl⟩
      exact List.pairwise_of_forall_mem_list fun _ _ b hb _ => h b hb
    · rw [List.cons_append, List.erase_cons_tail (by simpa using hy), List.cons_append,
        List.cons.injEq, List.pairwise_cons, ih]
      simp [hy]

theorem standing_append (xs ys : List (ι × Bool)) :
    standing (xs ++ ys) = standing xs ++ standing ys := by
  simp [standing]

theorem exists_split {subscriptions : List (ι × Bool)} {n : Nat} {entry : ι × Bool}
    (h : subscriptions[n]? = some entry) :
    ∃ before after, subscriptions = before ++ entry :: after ∧ subscriptions.take n = before ∧
      ∀ entry', subscriptions.set n entry' = before ++ entry' :: after := by
  obtain ⟨hlt, rfl⟩ := List.getElem?_eq_some_iff.mp h
  refine ⟨subscriptions.take n, subscriptions.drop (n + 1), ?_, rfl, fun entry' => ?_⟩
  · rw [List.getElem_cons_drop, List.take_append_drop]
  · rw [List.set_eq_take_append_cons_drop, if_pos hlt]

/-! ### Calls -/

theorem exact_ofStore (s : Store ι) : (ofStore s).Exact := by
  have hall (listeners : List ι) : standing (listeners.map (·, true)) = listeners := by
    induction listeners with
    | nil => rfl
    | cons listener rest ih => exact congrArg (listener :: ·) ih
  exact (hall s.listeners).symm

section

variable [DecidableEq ι] {r : Register ι}

theorem call_cancel_of_some {n : Nat} {listener : ι} {stands : Bool}
    (h : r.subscriptions[n]? = some (listener, stands)) :
    r.call (.cancel n) =
      ⟨r.store.unsubscribe listener, r.subscriptions.set n (listener, false)⟩ := by
  rw [call, h]

theorem call_cancel_of_none {n : Nat} (h : r.subscriptions[n]? = none) :
    r.call (.cancel n) = r := by
  rw [call, h]

/-- After a subscription the list is exact if it was before. -/
theorem Exact.subscribe (h : r.Exact) (listener : ι) : (r.call (.subscribe listener)).Exact := by
  have hlisteners : r.store.listeners ++ [listener] =
      standing (r.subscriptions ++ [(listener, true)]) := by
    rw [h, standing_append]
    rfl
  exact hlisteners

/-- After the call of a function it is exact if and only if that was a proper one. -/
theorem Exact.cancel_iff (h : r.Exact) (n : Nat) : (r.call (.cancel n)).Exact ↔ r.Proper n := by
  cases hn : r.subscriptions[n]? with
  | none =>
    rw [call_cancel_of_none hn]
    exact iff_of_true h fun listener stands hlistener => by simp [hn] at hlistener
  | some entry =>
    obtain ⟨listener, stands⟩ := entry
    obtain ⟨before, after, hsplit, htake, hset⟩ := exists_split hn
    have hcall : (r.call (.cancel n)).Exact ↔
        r.store.listeners.erase listener = standing (before ++ (listener, false) :: after) := by
      rw [call_cancel_of_some hn, ← hset]
      exact Iff.rfl
    have hproper : r.Proper n ↔
        if stands then (standing before).Pairwise fun a b => a = listener → b = listener
        else listener ∉ standing r.subscriptions := by
      rw [← htake]
      refine ⟨fun hp => hp listener stands hn, fun hp listener' stands' hn' => ?_⟩
      cases hn.symm.trans hn'
      exact hp
    have hgone : standing (before ++ (listener, false) :: after) =
        standing before ++ standing after := standing_append _ _
    rw [hcall, hproper, h, hgone]
    cases stands with
    | true =>
      have hstanding : standing r.subscriptions = standing before ++ listener :: standing after := by
        rw [hsplit, standing_append]
        rfl
      rw [hstanding, erase_append_cons_iff, if_pos rfl]
    | false =>
      rw [hsplit, hgone, List.erase_eq_self_iff, if_neg Bool.false_ne_true]

end

/-! ### Listeners that subscribe once -/

theorem mem_map_of_mem_standing {subscriptions : List (ι × Bool)} {listener : ι}
    (h : listener ∈ standing subscriptions) : listener ∈ subscriptions.map (·.1) :=
  (List.filter_sublist.map _).subset h

/-- Where no listener has subscribed twice, every function is a proper one. -/
theorem proper_of_nodup {r : Register ι} (h : (r.subscriptions.map (·.1)).Nodup) (n : Nat) :
    r.Proper n := by
  intro listener stands hn
  obtain ⟨before, after, hsplit, htake, -⟩ := exists_split hn
  rw [hsplit, List.map_append, List.map_cons, List.nodup_middle, List.nodup_cons,
    List.mem_append, not_or] at h
  obtain ⟨⟨hbefore, hafter⟩, -⟩ := h
  cases stands with
  | true =>
    rw [if_pos rfl, htake]
    refine List.pairwise_of_forall_mem_list fun a ha b _ hab => ?_
    exact absurd (hab ▸ mem_map_of_mem_standing ha) hbefore
  | false =>
    have hgone : standing (before ++ (listener, false) :: after) =
        standing before ++ standing after := standing_append _ _
    rw [if_neg Bool.false_ne_true, hsplit, hgone, List.mem_append, not_or]
    exact ⟨fun h => hbefore (mem_map_of_mem_standing h),
      fun h => hafter (mem_map_of_mem_standing h)⟩

variable [DecidableEq ι]

theorem map_subscriptions_cancel (r : Register ι) (n : Nat) :
    (r.call (.cancel n)).subscriptions.map (·.1) = r.subscriptions.map (·.1) := by
  cases hn : r.subscriptions[n]? with
  | none => exact congrArg (·.subscriptions.map (·.1)) (call_cancel_of_none hn)
  | some entry =>
    obtain ⟨before, after, hsplit, -, hset⟩ := exists_split hn
    rw [call_cancel_of_some hn, hset, hsplit, List.map_append, List.map_append]
    rfl

/-- Subscriptions are kept in the register. -/
theorem map_subscriptions_prefix (r : Register ι) (calls : List (ListenerCall ι)) :
    r.subscriptions.map (·.1) <+: (calls.foldl call r).subscriptions.map (·.1) := by
  induction calls generalizing r with
  | nil => exact List.prefix_rfl
  | cons c calls ih =>
    refine List.IsPrefix.trans ?_ (ih (r.call c))
    cases c with
    | subscribe listener => exact ⟨[listener], by simp [call]⟩
    | cancel n => exact ⟨[], (List.append_nil _).trans (map_subscriptions_cancel r n).symm⟩

/-- The register of a store after some calls. -/
def after (s : Store ι) (calls : List (ListenerCall ι)) : Register ι :=
  calls.foldl call (ofStore s)

theorem after_append_singleton (s : Store ι) (calls : List (ListenerCall ι))
    (c : ListenerCall ι) : after s (calls ++ [c]) = (after s calls).call c := List.foldl_append

/-- After proper calls the list is exact. -/
theorem exact_after {s : Store ι} {calls : List (ListenerCall ι)}
    (hproper : ∀ pre n, pre ++ [.cancel n] <+: calls → (after s pre).Proper n) :
    (after s calls).Exact := by
  induction calls using List.reverseRecOn with
  | nil => exact exact_ofStore s
  | append_singleton calls c ih =>
    have hcalls := ih fun pre n h => hproper pre n (h.trans (List.prefix_append _ _))
    rw [after_append_singleton]
    cases c with
    | subscribe listener => exact hcalls.subscribe listener
    | cancel n => exact (hcalls.cancel_iff n).mpr (hproper calls n List.prefix_rfl)

/-- **The list is exact throughout if and only if every function that is called is a proper one.**
Functions are called any number of times, among subscriptions, on a store with any entries. The
entries are the subscriptions whose own functions have not been called, in order, as long as each
call finds its own entry, or none if that is gone, or one with entries of the same listener only up
to its own. So it is where no listener subscribes twice. -/
theorem exact_iff_proper (s : Store ι) (calls : List (ListenerCall ι)) :
    ((∀ pre, pre <+: calls → (after s pre).Exact) ↔
        ∀ pre n, pre ++ [.cancel n] <+: calls → (after s pre).Proper n) ∧
      (((after s calls).subscriptions.map (·.1)).Nodup → (after s calls).Exact) := by
  refine ⟨⟨fun h pre n hpre => ?_, fun h pre hpre => ?_⟩, fun h => ?_⟩
  · have hbefore := h pre ((List.prefix_append _ _).trans hpre)
    have hafter := h _ hpre
    rw [after_append_singleton] at hafter
    exact (hbefore.cancel_iff n).mp hafter
  · exact exact_after fun pre' n h' => h pre' n (h'.trans hpre)
  · refine exact_after fun pre n hpre => proper_of_nodup ?_ n
    obtain ⟨rest, rfl⟩ := (List.prefix_append _ _).trans hpre
    have hprefix := map_subscriptions_prefix (after s pre) rest
    rw [after, ← List.foldl_append] at hprefix
    exact h.sublist hprefix.sublist

/-- **A function called twice ends another subscription** of its listener: the entry of the second
subscription is gone, which stands. -/
theorem second_call_not_exact :
    let r := after {} [.subscribe "guest", .subscribe "guest", .cancel 0, .cancel 0]
    r.store.listeners = [] ∧ standing r.subscriptions = ["guest"] ∧ ¬ r.Exact := by
  intro r
  have hlisteners : r.store.listeners = [] := by decide +kernel
  have hstanding : standing r.subscriptions = ["guest"] := by decide +kernel
  refine ⟨hlisteners, hstanding, fun hexact => ?_⟩
  rw [Exact, hlisteners, hstanding] at hexact
  cases hexact

/-- A listener subscribes before and after another one, and the second of its functions is called:
what is left stands in the wrong order. -/
example :
    let r := after {} [.subscribe "guest", .subscribe "usher", .subscribe "guest", .cancel 2]
    r.store.listeners = ["usher", "guest"] ∧ standing r.subscriptions = ["guest", "usher"] := by
  decide +kernel

end Register

end SpriteStage
