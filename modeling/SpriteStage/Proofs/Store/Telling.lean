import Mathlib.Data.List.Chain
import SpriteStage.Proofs.Store.Proceedings

/-!
# Who is told of what, and when

In a dispatch in which nobody fails, each replacement is told once to each entry that was in the
list at its moment, in the order of the list, however many further replacements come of it and
whatever they do to the list (`Audience.told_exactly_once`).

A replacement that comes out of another is dealt with in full before the entries that are still
pending are told of the other. A listener is therefore told of the replacements in their order, and
last of the one that put the present snapshot in place, unless a replacement comes while it is
pending; then it is told of the later one first (`Audience.told_in_order_iff`).
-/

namespace SpriteStage

variable {σ ι : Type}

namespace Incident

variable {t : Transition} {rest : List ι} {lo hi : Nat} {is : List (Incident ι)}

namespace Telling

theorem le (h : Telling t rest lo is hi) : lo ≤ hi := by
  induction h with
  | done => exact Nat.le_refl _
  | told _ ih => exact ih
  | replaced _ _ _ ih ih' => omega

/-- The replacements that come of a telling have the next numbers. -/
theorem revision_mem (h : Telling t rest lo is hi) {u : Transition} (hu : u ∈ replacements is) :
    lo < u.revision ∧ u.revision ≤ hi := by
  induction h with
  | done => cases hu
  | told _ ih => exact ih hu
  | replaced hnumber htelling hrest ih ih' =>
    have := htelling.le
    have := hrest.le
    rw [replacements_cons_replaced, replacements_append, List.mem_cons, List.mem_append] at hu
    obtain rfl | hu | hu := hu
    · omega
    · have := ih hu
      omega
    · have := ih' hu
      omega

/-- Entries are told of the transition itself, or of a replacement that comes of it. -/
theorem mem_heard (h : Telling t rest lo is hi) {call : ι × Transition} (hcall : call ∈ heard is) :
    call.2 = t ∨ call.2 ∈ replacements is := by
  induction h with
  | done => cases hcall
  | told _ ih =>
    obtain rfl | hcall := List.mem_cons.mp hcall
    · exact .inl rfl
    · exact ih hcall
  | replaced _ _ _ ih ih' =>
    rw [heard_cons_replaced, heard_append, List.mem_append] at hcall
    rw [replacements_cons_replaced, replacements_append, List.mem_cons, List.mem_append]
    obtain hcall | hcall := hcall
    · obtain h | h := ih hcall
      · exact .inr (.inl h)
      · exact .inr (.inr (.inl h))
    · obtain h | h := ih' hcall
      · exact .inl h
      · exact .inr (.inr (.inr h))

/-- Of another replacement that does not come of it, nobody is told. -/
theorem tellings_eq_nil (h : Telling t rest lo is hi) {revision : Nat} (ht : t.revision ≠ revision)
    (hrange : revision ≤ lo ∨ hi < revision) : tellings revision is = [] := by
  refine Incident.tellings_eq_nil fun call hcall => ?_
  obtain hcall | hcall := h.mem_heard hcall
  · exact hcall ▸ ht
  · have := h.revision_mem hcall
    omega

/-- **Of the transition itself** each entry that is left is told once, in order. -/
theorem tellings_self (h : Telling t rest lo is hi) (ht : t.revision ≤ lo) :
    tellings t.revision is = rest.map (·, t) := by
  induction h with
  | done => rfl
  | told _ ih => rw [tellings_cons_told, if_pos rfl, ih ht, List.map_cons]
  | replaced hnumber htelling _ _ ih' =>
    have hle := htelling.le
    rw [tellings_cons_replaced, tellings_append,
      htelling.tellings_eq_nil (by omega) (.inl (by omega)), List.nil_append]
    exact ih' (by omega)

/-- **Of a replacement that comes of it** each entry of its list is told once, in order. -/
theorem tellings_replaced (h : Telling t rest lo is hi) (ht : t.revision ≤ lo) {pending : List ι}
    {u : Transition} {entries : List ι} (hu : .replaced pending u entries ∈ is) :
    tellings u.revision is = entries.map (·, u) := by
  induction h with
  | done => cases hu
  | told htelling ih =>
    have hu := (List.mem_cons.mp hu).resolve_left nofun
    have := htelling.revision_mem (mem_replacements hu)
    rw [tellings_cons_told, if_neg (by omega), ih ht hu]
  | replaced hnumber htelling hrest ih ih' =>
    have hle := htelling.le
    rw [tellings_cons_replaced, tellings_append]
    rw [List.mem_cons, List.mem_append] at hu
    obtain hu | hu | hu := hu
    · cases hu
      rw [htelling.tellings_self (by omega),
        hrest.tellings_eq_nil (by omega) (.inl (by omega)), List.append_nil]
    · have := htelling.revision_mem (mem_replacements hu)
      rw [ih (by omega) hu, hrest.tellings_eq_nil (by omega) (.inl (by omega)), List.append_nil]
    · have := hrest.revision_mem (mem_replacements hu)
      rw [ih' (by omega) hu, htelling.tellings_eq_nil (by omega) (.inr (by omega)),
        List.nil_append]

end Telling

/-- **Of every replacement** of an episode each entry of its list is told once, in order. -/
theorem Episode.tellings_replaced {pending : List ι} (h : Episode pending lo is hi)
    {pending' : List ι} {u : Transition} {entries : List ι}
    (hu : .replaced pending' u entries ∈ is) : tellings u.revision is = entries.map (·, u) := by
  cases h with
  | nothing => cases hu
  | replaced hnumber htelling =>
    rw [tellings_cons_replaced]
    obtain hu | hu := List.mem_cons.mp hu
    · cases hu
      exact htelling.tellings_self (Nat.le_of_eq hnumber)
    · exact htelling.tellings_replaced (Nat.le_of_eq hnumber) hu

theorem Episode.mem_heard {pending : List ι} (h : Episode pending lo is hi)
    {call : ι × Transition} (hcall : call ∈ heard is) : call.2 ∈ replacements is := by
  cases h with
  | nothing => cases hcall
  | replaced _ htelling => exact List.mem_cons.mpr (htelling.mem_heard hcall)

end Incident

namespace Store.Course

variable {P : Action → Prop} {s s' : Store ι} {ts : List Transition}

theorem map_revision (h : Course P s ts s') :
    ts.map (·.revision) = List.range' (s.revision + 1) ts.length := by
  induction h with
  | nil => rfl
  | cons _ _ _ ih => exact congrArg (_ :: ·) ih

theorem attempt_of_mem (h : Course P s ts s') {t : Transition} (ht : t ∈ ts) :
    t.previous.attempt t.action = .ok (some t.current) := by
  obtain ⟨k, hk⟩ := List.getElem?_of_mem ht
  exact (h.getElem?_snapshots hk).2.2

/-- Each replacement is made of the snapshot that the one before has put in place. -/
theorem isChain (h : Course P s ts s') : ts.IsChain fun t u => u.previous = t.current := by
  induction h with
  | nil => exact .nil
  | cons _ _ hrest ih =>
    cases hrest with
    | nil => exact .singleton _
    | cons => exact .cons_cons rfl ih

/-- The last replacement has put the present snapshot in place. -/
theorem current_of_getLast? (h : Course P s ts s') {t : Transition} (ht : t ∈ ts.getLast?) :
    t.current = s'.state := by
  have hlast := h.getLast?_snapshots
  rw [snapshots, List.getLast?_cons, List.getLast?_map, Option.mem_def.mp ht] at hlast
  exact Option.some.inj hlast

end Store.Course

namespace Audience

open Incident (Calm)

variable [DecidableEq ι] {h : Hall σ ι}

/-- **Each replacement is told once.** When nobody fails in the course of a dispatch, whether it
comes from outside or out of another one, each replacement in it is told to each entry that was in
the list at its moment, once and in the order of the list, with the snapshot before, the action and
what the action made of that snapshot; nobody is told of anything else. The replacements are
numbered one after the other, and the first of them is that of the dispatch itself. When an action
is not carried out, the store stays as it is and nobody is told. -/
theorem told_exactly_once (A : Audience σ ι) (room : Nat) (pending : List ι) (action : Action)
    (keeps : h.store.Keeps) (calm : Calm (A.proceedingsWithin (room + 1) pending action h)) :
    let is := A.proceedingsWithin (room + 1) pending action h
    let heard := (A.noted.dispatchWithin (room + 1) action (h.noting [])).1.memory.2
    (∀ next, h.store.state.attempt action = .ok (some next) →
        is.head? = some (.replaced pending (h.store.announced action next) h.store.listeners)) ∧
      ((∀ next, h.store.state.attempt action ≠ .ok (some next)) →
        heard = [] ∧ (A.dispatchWithin (room + 1) action h).1.store = h.store) ∧
      (∀ pending' t entries, .replaced pending' t entries ∈ is →
        t.previous.attempt t.action = .ok (some t.current) ∧
          heard.filter (·.2.revision = t.revision) = entries.map (·, t)) ∧
      (∀ call ∈ heard, call.2 ∈ Incident.replacements is) ∧
      (Incident.replacements is).map (·.revision) =
        List.range' (h.store.revision + 1) (Incident.replacements is).length := by
  intro is heard
  have hepisode := A.episode_proceedingsWithin (room + 1) pending action keeps calm
  have hcourse := A.proceedingsWithin_course (room + 1) pending action h
  have hheard : heard = Incident.heard is :=
    congrArg (·.1.memory.2) (A.noted_dispatchWithin (room + 1) pending action h [])
  rw [hheard]
  refine ⟨fun next hnext => ?_, fun hnone => ?_, fun pending' t entries ht => ?_,
    fun call hcall => hepisode.mem_heard hcall, hcourse.map_revision⟩
  · exact congrArg List.head? (proceedingsWithin_of_some hnext keeps)
  · obtain ⟨hnothing, hstore⟩ := proceedingsWithin_of_not_some (A := A) hnone
    exact ⟨congrArg Incident.heard hnothing, hstore⟩
  · exact ⟨hcourse.attempt_of_mem (Incident.mem_replacements ht), hepisode.tellings_replaced ht⟩

end Audience

/-- An usher who, when the flag is set or cleared, shows a guest out and a latecomer in, and puts
all actors to the start. -/
def bustle : Audience Unit String where
  hear listener t _ memory :=
    match listener, t.action with
    | "usher", .setRunning _ =>
      (memory, .unsubscribe "guest" <| .subscribe "latecomer" <|
        .dispatch (.resetActors (.float 0.0) (.float 0.0) (.float 90.0)) fun _ => .done)
    | _, _ => (memory, .done)
  log _ memory := memory

/-- A guest behind an usher. -/
def lobby : Hall Unit String := { store := { listeners := ["usher", "guest"] }, memory := () }

/-- The guest is told that the flag was set, but not what the usher did then; with the latecomer it
is the other way round. -/
theorem lobby_told_exactly_once :
    let is := bustle.proceedingsWithin 2 [] (.setRunning (.bool true)) lobby
    let heard := (bustle.noted.dispatchWithin 2 (.setRunning (.bool true))
      (lobby.noting [])).1.memory.2
    Incident.Calm is ∧
      heard.map (fun (listener, t) => (listener, t.action.name)) =
        [("usher", "SetRunning"), ("usher", "ResetActors"), ("latecomer", "ResetActors"),
          ("guest", "SetRunning")] ∧
      ∀ pending t entries, .replaced pending t entries ∈ is →
        t.previous.attempt t.action = .ok (some t.current) ∧
          heard.filter (·.2.revision = t.revision) = entries.map (·, t) := by
  intro is heard
  have calm : Incident.Calm is := by decide +kernel
  obtain ⟨-, -, htold, -⟩ := Audience.told_exactly_once bustle 1 [] (.setRunning (.bool true))
    (h := lobby) rfl calm
  exact ⟨calm, by decide +kernel, htold⟩

/-! ### In which order a listener is told -/

namespace Incident

variable [DecidableEq ι] {listener : ι} {n : Nat}

/-- What a listener is told of, in order. -/
def callsOf (listener : ι) (is : List (Incident ι)) : List Transition :=
  ((heard is).filter (·.1 = listener)).map (·.2)

/-- Whether, if an incident is a replacement, the listener stands so many times in the list. -/
def attends (listener : ι) (n : Nat) : Incident ι → Bool
  | replaced _ _ entries => entries.count listener = n
  | _ => true

/-- Whether an incident is a replacement that comes while the listener has yet to be told of the one
before, out of which it comes. -/
def overtakes (listener : ι) : Incident ι → Bool
  | replaced pending _ _ => listener ∈ pending
  | _ => false

/-- Whenever the snapshot is replaced, the listener stands so many times in the list. -/
abbrev Attends (listener : ι) (n : Nat) (is : List (Incident ι)) : Prop :=
  ∀ incident ∈ is, incident.attends listener n

/-- Some replacement overtakes the listener. -/
abbrev Overtaken (listener : ι) (is : List (Incident ι)) : Prop :=
  ∃ incident ∈ is, incident.overtakes listener

/-- So many times each of the transitions. -/
def repeated (n : Nat) (ts : List Transition) : List Transition := ts.flatMap (List.replicate n)

theorem repeated_cons_append (n : Nat) (u : Transition) (ts us : List Transition) :
    repeated n (u :: (ts ++ us)) = (List.replicate n u ++ repeated n ts) ++ repeated n us := by
  simp [repeated]

theorem repeated_one (ts : List Transition) : repeated 1 ts = ts := List.flatMap_singleton' ts

theorem getLast?_repeated {ts : List Transition} {t : Transition}
    (h : t ∈ (repeated n ts).getLast?) : t ∈ ts.getLast? := by
  obtain rfl | ⟨us, u, rfl⟩ := ts.eq_nil_or_concat'
  · exact h
  · cases n with
    | zero =>
      have hnothing : repeated 0 (us ++ [u]) = [] := List.flatMap_eq_nil_iff.mpr fun _ _ => rfl
      cases hnothing ▸ h
    | succ n => simpa [repeated, List.getLast?_append, List.getLast?_replicate] using h

@[simp] theorem callsOf_append (listener : ι) (is js : List (Incident ι)) :
    callsOf listener (is ++ js) = callsOf listener is ++ callsOf listener js := by
  simp [callsOf]

@[simp] theorem callsOf_cons_replaced (pending : List ι) (t : Transition) (entries : List ι)
    (is : List (Incident ι)) :
    callsOf listener (.replaced pending t entries :: is) = callsOf listener is := rfl

theorem callsOf_cons_told (other : ι) (t : Transition) (is : List (Incident ι)) :
    callsOf listener (.told other t :: is) =
      List.replicate ([other].count listener) t ++ callsOf listener is := by
  by_cases h : other = listener <;> simp [callsOf, h]

theorem attends_cons_replaced_iff {pending entries : List ι} {t : Transition}
    {is : List (Incident ι)} :
    Attends listener n (.replaced pending t entries :: is) ↔
      entries.count listener = n ∧ Attends listener n is := by
  rw [Attends, List.forall_mem_cons, attends, decide_eq_true_iff]

theorem overtaken_append_iff {is js : List (Incident ι)} :
    Overtaken listener (is ++ js) ↔ Overtaken listener is ∨ Overtaken listener js := by
  simp only [Overtaken, List.mem_append, or_and_right, exists_or]

theorem overtaken_cons_replaced_iff {pending entries : List ι} {t : Transition}
    {is : List (Incident ι)} :
    Overtaken listener (.replaced pending t entries :: is) ↔
      listener ∈ pending ∨ Overtaken listener is := by
  simp [Overtaken, overtakes]

theorem overtaken_cons_told_iff {other : ι} {t : Transition} {is : List (Incident ι)} :
    Overtaken listener (.told other t :: is) ↔ Overtaken listener is := by
  simp [Overtaken, overtakes]

namespace Telling

variable {t : Transition} {rest : List ι} {lo hi : Nat} {is : List (Incident ι)}

/-- **A listener is told of everything**, as often as it stands in the list. -/
theorem callsOf_perm (h : Telling t rest lo is hi) (hattends : Attends listener n is) :
    (callsOf listener is).Perm
      (List.replicate (rest.count listener) t ++ repeated n (replacements is)) := by
  induction h with
  | done => exact .refl _
  | @told t lo hi other rest is _ ih =>
    rw [callsOf_cons_told, replacements_cons_told, ← List.singleton_append (l := rest),
      List.count_append, ← List.replicate_append_replicate, List.append_assoc]
    exact (ih (List.forall_mem_cons.mp hattends).2).append_left _
  | @replaced t u lo mid hi rest entries is js _ _ _ ih ih' =>
    rw [attends_cons_replaced_iff, Attends, List.forall_mem_append] at hattends
    obtain ⟨rfl, hattends, hattends'⟩ := hattends
    rw [callsOf_cons_replaced, callsOf_append, replacements_cons_replaced, replacements_append,
      repeated_cons_append]
    exact ((ih hattends).append (ih' hattends')).trans (List.perm_append_comm_assoc _ _ _)

/-- Of what came before, nobody is told in the course of a telling. -/
theorem not_mem_callsOf (h : Telling t rest lo is hi) {u : Transition}
    (hu : u.revision < t.revision) (ht : t.revision ≤ lo) : u ∉ callsOf listener is := by
  intro hmem
  obtain ⟨call, hcall, rfl⟩ := List.mem_map.mp hmem
  obtain hcall | hcall := h.mem_heard (List.mem_filter.mp hcall).1
  · exact Nat.lt_irrefl _ (hcall ▸ hu)
  · have := h.revision_mem hcall
    omega

/-- **A listener is told in order** if and only if it is not overtaken. -/
theorem callsOf_eq_iff (h : Telling t rest lo is hi) (hattends : Attends listener n is)
    (ht : t.revision ≤ lo) (hrest : rest.count listener ≤ n) :
    callsOf listener is =
        List.replicate (rest.count listener) t ++ repeated n (replacements is) ↔
      ¬ Overtaken listener is := by
  induction h with
  | done => simp [Overtaken, callsOf, repeated]
  | @told t lo hi other rest is _ ih =>
    have hcount : rest.count listener ≤ n := Nat.le_trans List.count_le_count_cons hrest
    rw [callsOf_cons_told, replacements_cons_told, overtaken_cons_told_iff,
      ← ih (List.forall_mem_cons.mp hattends).2 ht hcount, ← List.singleton_append (l := rest),
      List.count_append, ← List.replicate_append_replicate, List.append_assoc,
      List.append_cancel_left_eq]
  | @replaced t u lo mid hi rest entries is js hnumber htelling _ ih ih' =>
    rw [attends_cons_replaced_iff, Attends, List.forall_mem_append] at hattends
    obtain ⟨rfl, hattends, hattends'⟩ := hattends
    have hle := htelling.le
    have hlength := (htelling.callsOf_perm hattends).length_eq
    rw [callsOf_cons_replaced, callsOf_append, replacements_cons_replaced, replacements_append,
      repeated_cons_append, overtaken_cons_replaced_iff, overtaken_append_iff, not_or, not_or,
      ← ih hattends (Nat.le_of_eq hnumber) (Nat.le_refl _),
      ← ih' hattends' (by omega) hrest]
    by_cases hpending : listener ∈ rest
    · -- The listener is told of `u` first, and the list begins with `t`.
      refine iff_of_false (fun heq => ?_) fun h => h.1 hpending
      have hmem : t ∉ callsOf listener is :=
        htelling.not_mem_callsOf (by omega) (Nat.le_of_eq hnumber)
      obtain ⟨k, hk⟩ := Nat.exists_eq_add_one.mpr (List.count_pos_iff.mpr hpending)
      rw [hk, List.replicate_succ] at heq
      rw [List.length_append, List.length_replicate] at hlength
      cases hcalls : callsOf listener is with
      | nil =>
        rw [hcalls, List.length_nil] at hlength
        omega
      | cons call calls =>
        rw [hcalls] at heq hmem
        exact hmem (List.mem_cons.mpr (.inl (List.cons.inj heq).1.symm))
    · rw [List.count_eq_zero.mpr hpending, List.replicate_zero, List.nil_append, List.nil_append]
      refine ⟨fun heq => ⟨hpending, List.append_inj heq hlength⟩, fun h => ?_⟩
      rw [h.2.1, h.2.2]

end Telling

/-- **Everything in a dispatch from outside** is told to a listener as often as it stands in the
list. -/
theorem Episode.callsOf_perm {lo hi : Nat} {is : List (Incident ι)} (h : Episode [] lo is hi)
    (hattends : Attends listener n is) :
    (callsOf listener is).Perm (repeated n (replacements is)) := by
  cases h with
  | nothing => exact .refl _
  | replaced _ htelling =>
    obtain ⟨rfl, hattends⟩ := attends_cons_replaced_iff.mp hattends
    exact htelling.callsOf_perm hattends

theorem Episode.callsOf_eq_iff {lo hi : Nat} {is : List (Incident ι)} (h : Episode [] lo is hi)
    (hattends : Attends listener n is) :
    callsOf listener is = repeated n (replacements is) ↔ ¬ Overtaken listener is := by
  cases h with
  | nothing => simp [Overtaken, callsOf, repeated]
  | replaced hnumber htelling =>
    obtain ⟨rfl, hattends⟩ := attends_cons_replaced_iff.mp hattends
    rw [overtaken_cons_replaced_iff, or_iff_right List.not_mem_nil]
    exact htelling.callsOf_eq_iff hattends (Nat.le_of_eq hnumber) (Nat.le_refl _)

end Incident

namespace Audience

open Incident (Calm Attends Overtaken repeated)

variable [DecidableEq ι] {h : Hall σ ι} {listener : ι} {n : Nat}

/-- **A listener is told of the replacements in order if and only if it is not overtaken.** In a
dispatch from outside in which nobody fails, the replacements form a chain that ends with the
present snapshot, and a listener that stands `n` times in the list throughout is told `n` times of
each. They come to it in their order, and so the last with the present snapshot, if and only if
no replacement comes out of another one of which the listener has yet to be told. -/
theorem told_in_order_iff (A : Audience σ ι) (room : Nat) (action : Action) (keeps : h.store.Keeps)
    (calm : Calm (A.proceedingsWithin room [] action h))
    (attends : Attends listener n (A.proceedingsWithin room [] action h)) :
    let is := A.proceedingsWithin room [] action h
    let ts := Incident.replacements is
    let heard := (A.noted.dispatchWithin room action (h.noting [])).1.memory.2
    let calls := (heard.filter (·.1 = listener)).map (·.2)
    let store := (A.dispatchWithin room action h).1.store
    calls.Perm (repeated n ts) ∧ ts.IsChain (fun t u => u.previous = t.current) ∧
      (∀ t ∈ ts.getLast?, t.current = store.state) ∧
      (calls = repeated n ts ↔ ¬ Overtaken listener is) ∧
      (¬ Overtaken listener is → (∀ t ∈ calls.getLast?, t.current = store.state) ∧
        (n = 1 → calls.IsChain fun t u => u.previous = t.current)) := by
  intro is ts heard calls store
  have hepisode := A.episode_proceedingsWithin room [] action keeps calm
  have hcourse := A.proceedingsWithin_course room [] action h
  have hcalls : calls = Incident.callsOf listener is :=
    congrArg (fun run => (run.1.memory.2.filter (·.1 = listener)).map (·.2))
      (A.noted_dispatchWithin room [] action h [])
  have hiff := hepisode.callsOf_eq_iff attends
  rw [hcalls]
  refine ⟨hepisode.callsOf_perm attends, hcourse.isChain, fun t => hcourse.current_of_getLast?,
    hiff, fun hnot => ?_⟩
  rw [hiff.mpr hnot]
  refine ⟨fun t ht => hcourse.current_of_getLast? (Incident.getLast?_repeated ht), ?_⟩
  rintro rfl
  rw [Incident.repeated_one]
  exact hcourse.isChain

end Audience

/-- A keeper who brings Ann in whenever the flag is set or cleared. -/
def keeping : Audience Unit String where
  hear listener t _ memory :=
    match listener, t.action with
    | "keeper", .setRunning _ =>
      (memory, .dispatch (.addActor { id := .str "ann", name := .str "Ann" }) fun _ => .done)
    | _, _ => (memory, .done)
  log _ memory := memory

/-- A guest behind the keeper, and one before. -/
def gate : Hall Unit String :=
  { store := { listeners := ["early guest", "keeper", "late guest"] }, memory := () }

/-- Who stands before the keeper is told in order. -/
theorem early_guest_in_order :
    let is := keeping.proceedingsWithin 2 [] (.setRunning (.bool true)) gate
    let heard := (keeping.noted.dispatchWithin 2 (.setRunning (.bool true))
      (gate.noting [])).1.memory.2
    let calls := (heard.filter (·.1 = "early guest")).map (·.2)
    Incident.Calm is ∧ Incident.Attends "early guest" 1 is ∧
      calls.map (·.action.name) = ["SetRunning", "AddActor"] ∧
      calls = Incident.repeated 1 (Incident.replacements is) := by
  intro is heard calls
  have calm : Incident.Calm is := by decide +kernel
  have attends : Incident.Attends "early guest" 1 is := by decide +kernel
  have hnot : ¬ Incident.Overtaken "early guest" is := by decide +kernel
  obtain ⟨-, -, -, hiff, -⟩ := Audience.told_in_order_iff keeping 2 (.setRunning (.bool true))
    (h := gate) rfl calm attends
  exact ⟨calm, attends, by decide +kernel, hiff.mpr hnot⟩

/-- Who stands behind the keeper is told of the second replacement first: the last that it is told
of is not the present snapshot, and what it is told of is no chain. -/
theorem late_guest_out_of_order :
    let action := Action.setRunning (.bool true)
    let is := keeping.proceedingsWithin Audience.room [] action gate
    let run := (keeping.noted.dispatch action (gate.noting [])).1
    let calls := (run.memory.2.filter (·.1 = "late guest")).map (·.2)
    gate.store.Keeps ∧ Incident.Calm is ∧ (∀ listener ∈ gate.store.listeners,
        Incident.Attends listener 1 is) ∧
      calls.map (·.action.name) = ["AddActor", "SetRunning"] ∧
      ¬ (∀ t ∈ calls.getLast?, t.current = run.store.state) ∧
      ¬ calls.IsChain fun t u => u.previous = t.current := by
  intro action is run calls
  refine ⟨rfl, by decide +kernel, by decide +kernel, by decide +kernel, fun hlast => ?_,
    fun hchain => ?_⟩
  · have hcount : calls.getLast?.map (·.current.actors.length) ≠
        some run.store.state.actors.length := by decide +kernel
    cases hcalls : calls.getLast? with
    | none => exact absurd (congrArg Option.isSome hcalls) (by decide +kernel)
    | some t => exact hcount (by rw [hcalls, Option.map_some, hlast t hcalls])
  · have hcounts : (calls.map fun t => (t.previous.actors.length, t.current.actors.length)).IsChain
        fun t u => u.1 = t.2 :=
      (List.isChain_map _).mpr (hchain.imp fun t u htu => congrArg (·.actors.length) htu)
    exact absurd hcounts (by decide +kernel)

end SpriteStage
