import SpriteStage.Proofs.Store.Chronicle

/-!
# The history

A store with a limit of `L` remembers the last `L` of the snapshots that it has replaced. That is so
however dispatches stand inside each other: a listener may dispatch, bring in and take out listeners
or fail, and actions may come to nothing, but no snapshot is left out of the history or put in twice
(`Audience.history_exact`). Both ends of the history are looked after at each replacement, and what
counts is that to forget twice is to forget once (`Store.lastOf_lastOf_append`).
-/

namespace SpriteStage

variable {σ ι : Type}

namespace Store

theorem length_lastOf {α : Type} (n : Nat) (xs : List α) :
    (lastOf n xs).length = min n xs.length := by
  rw [lastOf, List.length_drop]
  omega

/-- Of few enough items, the last ones are all. -/
theorem lastOf_of_length_le {α : Type} {n : Nat} {xs : List α} (h : xs.length ≤ n) :
    lastOf n xs = xs := by
  rw [lastOf, Nat.sub_eq_zero_of_le h, List.drop_zero]

theorem lastOf_min_length {α : Type} (n : Nat) (xs : List α) :
    lastOf (min n xs.length) xs = lastOf n xs := by
  unfold lastOf
  congr 1
  omega

/-- The last items are all at the end of the list, if there are enough of them there. -/
theorem lastOf_append_of_le {α : Type} {n : Nat} {ys : List α} (h : n ≤ ys.length) (xs : List α) :
    lastOf n (xs ++ ys) = lastOf n ys := by
  have hlength : (xs ++ ys).length - n = xs.length + (ys.length - n) := by
    rw [List.length_append]
    omega
  rw [lastOf, lastOf, hlength, ← List.drop_drop, List.drop_left]

/-- What was not among the last items before is not among them with more items after it. -/
theorem lastOf_lastOf_append {α : Type} (n : Nat) (xs ys : List α) :
    lastOf n (lastOf n xs ++ ys) = lastOf n (xs ++ ys) := by
  by_cases h : xs.length ≤ n
  · rw [lastOf_of_length_le h]
  · have hsplit : xs ++ ys = xs.take (xs.length - n) ++ (lastOf n xs ++ ys) := by
      rw [lastOf, ← List.append_assoc, List.take_append_drop]
    have hlength : n ≤ (lastOf n xs ++ ys).length := by
      rw [List.length_append, length_lastOf]
      omega
    rw [hsplit, lastOf_append_of_le hlength]

variable {P : Action → Prop}

namespace Course

variable {s s' : Store ι} {ts : List Transition}

/-- **A limit of whole snapshots is kept**: what was remembered and what was replaced since, as much
of it as there is room for. -/
theorem history {L : Int} (h : Course P s ts s') (hlimit : s.limit = .int L)
    (hlength : s.history.length ≤ L.toNat) :
    s'.history = lastOf L.toNat (s.history ++ ts.map (·.previous)) := by
  induction h with
  | nil hsame =>
    rw [hsame.history, List.map_nil, List.append_nil, lastOf_of_length_le hlength]
  | @cons s s' action next ts _ _ _ ih =>
    have hremember : (s.replace next).history =
        if 0 < L then lastOf L.toNat (s.history ++ [s.state]) else s.history := by
      simp only [replace, remember, hlimit]
      rfl
    have hprevious : (s.announced action next).previous = s.state := rfl
    rw [List.map_cons, hprevious]
    by_cases hL : 0 < L
    · rw [if_pos hL] at hremember
      have hlength' : (s.replace next).history.length ≤ L.toNat := by
        rw [hremember, length_lastOf]
        omega
      rw [ih hlimit hlength', hremember, lastOf_lastOf_append, List.append_assoc,
        List.singleton_append]
    · rw [if_neg hL] at hremember
      have hzero : L.toNat = 0 := by omega
      have hnothing (xs : List Snapshot) : lastOf 0 xs = [] := by simp [lastOf]
      rw [ih hlimit (hremember ▸ hlength), hzero, hnothing, hnothing]

/-- What was replaced is all that there was but the last snapshot. -/
theorem dropLast_snapshots (h : Course P s ts s') :
    (snapshots s ts).dropLast = ts.map (·.previous) := by
  induction h with
  | nil hsame => rfl
  | @cons s s' action next ts _ _ _ ih =>
    rw [List.map_cons, ← ih]
    rfl

/-- Each replacement leads from one snapshot to the next. -/
theorem getElem?_snapshots (h : Course P s ts s') {k : Nat} {t : Transition}
    (ht : ts[k]? = some t) :
    (snapshots s ts)[k]? = some t.previous ∧ (snapshots s ts)[k + 1]? = some t.current ∧
      t.previous.attempt t.action = .ok (some t.current) := by
  induction h generalizing k with
  | nil hsame => cases ht
  | @cons s s' action next ts _ hnext _ ih =>
    cases k with
    | zero =>
      cases ht
      exact ⟨rfl, rfl, hnext⟩
    | succ k => exact ih ht

end Course

end Store

theorem Reaction.within_true (r : Reaction ι) : r.Within fun _ => True := by
  induction r with
  | done => exact .done
  | raise fault => exact .raise fault
  | dispatch action next ih => exact .dispatch trivial ih
  | subscribe listener next ih => exact .subscribe ih
  | unsubscribe listener next ih => exact .unsubscribe ih

namespace Audience

variable [DecidableEq ι]

/-- **The history is the recent past**, whoever listens, dispatches inside dispatches or fails, and
however many dispatches there is room for inside each other. The snapshots that there were follow
one on the other by the actions that replaced them, the last of them is the present one, and the
history holds those before it, in order, up to as many as the limit says, and none if the limit is
not positive. As often as the store has counted a replacement, a snapshot was added to them. -/
theorem history_exact (A : Audience σ ι) (room : Nat) (state : Snapshot) (L : Int)
    (listeners : List ι) (memory : σ) (deeds : List (Deed ι)) :
    let h : Hall σ ι := { store := { state, limit := .int L, listeners }, memory }
    let ts := A.chronicle room deeds h
    let snapshots := Store.Course.snapshots h.store ts
    let store := (deeds.foldl (A.act room) h).store
    (∀ k t, ts[k]? = some t → snapshots[k]? = some t.previous ∧
        snapshots[k + 1]? = some t.current ∧
        t.previous.attempt t.action = .ok (some t.current)) ∧
      store.revision = ts.length ∧ snapshots.length = ts.length + 1 ∧
      snapshots.getLast? = some store.state ∧
      store.history =
        if 0 < L then Store.lastOf (min L.toNat ts.length) snapshots.dropLast else [] := by
  intro h ts snapshots store
  have hcourse : Store.Course (fun _ => True) h.store ts store :=
    A.chronicle_course (fun listener t store memory => Reaction.within_true _) room
      (fun _ _ => trivial) h
  have hhistory : store.history = Store.lastOf L.toNat (ts.map (·.previous)) :=
    hcourse.history rfl (Nat.zero_le _)
  refine ⟨fun k t => hcourse.getElem?_snapshots, hcourse.revision.trans (Nat.zero_add _),
    by simp [snapshots, Store.Course.snapshots], hcourse.getLast?_snapshots, ?_⟩
  rw [hhistory, hcourse.dropLast_snapshots]
  by_cases hL : 0 < L
  · have hlength : (ts.map (·.previous)).length = ts.length := List.length_map _
    rw [if_pos hL, ← hlength, Store.lastOf_min_length]
  · have hzero : L.toNat = 0 := by omega
    rw [if_neg hL, hzero, Store.lastOf, Nat.sub_zero, List.drop_length]

end Audience

/-- A listener that puts all actors to the start when the flag is set or cleared, after it has asked
for an actor who is not there, and then fails. -/
def starter : Audience Unit Unit where
  hear _ t _ memory :=
    match t.action with
    | .setRunning _ =>
      (memory, .dispatch (.selectActor (.str "nobody")) fun _ =>
        .dispatch (.resetActors (.float 0.0) (.float 0.0) (.float 90.0)) fun _ =>
          .raise (.broken "worn out"))
    | _ => (memory, .done)
  log _ memory := memory

/-- The flag is set and cleared, and each time a replacement stands inside the other: of the four
snapshots that are replaced, the last two are remembered. -/
example :
    let h : Hall Unit Unit := { store := { limit := .int 2 }, memory := () }
    let deeds : List (Deed Unit) :=
      [.subscribe (), .dispatch (.setRunning (.bool true)), .dispatch (.setRunning (.bool false))]
    (starter.chronicle Audience.room deeds h).map (·.action.name) =
        ["SetRunning", "ResetActors", "SetRunning", "ResetActors"] ∧
      (deeds.foldl (starter.act Audience.room) h).store.history.map (·.running) =
        [true, false] := by
  decide +kernel

end SpriteStage
