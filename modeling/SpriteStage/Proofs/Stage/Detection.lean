import SpriteStage.Proofs.Stage.Sound
import SpriteStage.Proofs.Snapshot.Lineup

/-!
# What a look does

The pairs that the detector has handled stay handled as long as the running flag stays set: no
action takes one out. A look either changes nothing, or swaps the moves of two actors that were not
handled in this order, and notes them (`StageScene.check_cases`).
-/

namespace SpriteStage

/-! ### The first collision -/

theorem firstPartner?_spec {handled : List Pair} {a b : Actor} {l : List Actor}
    (h : firstPartner? handled a l = .ok (some b)) :
    b ∈ l ∧ Pair.isAmong handled (a.id, b.id) = false ∧ a.overlaps b = .ok true := by
  induction l with
  | nil => cases h
  | cons c rest ih =>
    simp only [firstPartner?] at h
    have hrest (h : firstPartner? handled a rest = .ok (some b)) :
        b ∈ c :: rest ∧ Pair.isAmong handled (a.id, b.id) = false ∧ a.overlaps b = .ok true :=
      ⟨List.mem_cons_of_mem _ (ih h).1, (ih h).2⟩
    split at h
    · cases h
    · split_ifs at h with hamong
      · exact hrest h
      · obtain ⟨overlap, hoverlap, h⟩ := of_bind_eq_ok h
        cases overlap with
        | false => exact hrest h
        | true =>
          cases h
          exact ⟨List.mem_cons_self, by simpa using hamong, hoverlap⟩

theorem firstCollision?_spec {handled : List Pair} {a b : Actor} {l : List Actor}
    (h : firstCollision? handled l = .ok (some (a, b))) :
    [a, b].Sublist l ∧ Pair.isAmong handled (a.id, b.id) = false ∧ a.overlaps b = .ok true := by
  induction l with
  | nil => cases h
  | cons c rest ih =>
    obtain ⟨partner, hpartner, h⟩ := of_bind_eq_ok h
    cases partner with
    | none => exact ⟨.cons _ (ih h).1, (ih h).2⟩
    | some d =>
      cases h
      obtain ⟨hmem, hfresh⟩ := firstPartner?_spec hpartner
      exact ⟨.cons_cons _ (List.singleton_sublist.mpr hmem), hfresh⟩

/-! ### Handled pairs -/

namespace Backstage

theorem startTicking_handled (b : Backstage) :
    b.startTicking.detector.handled = b.detector.handled := by
  unfold startTicking
  split_ifs <;> rfl

/-- Unless the flag is cleared, handled pairs stay so. -/
theorem watch_handled {t : Transition} (h : t.previous.running → t.current.running)
    (b : Backstage) : (b.watch t).detector.handled = b.detector.handled := by
  unfold watch
  split_ifs with hrise hfall
  · exact b.startTicking_handled
  · simp only [Bool.and_eq_true, Bool.not_eq_true'] at hfall
    rw [h hfall.1] at hfall
    cases hfall.2
  · rfl

theorem surroundings_leaves_handled (handled : List Pair) :
    surroundings.toAudience.Leaves (fun t => t.previous.running → t.current.running)
      fun b => b.detector.handled = handled where
  hear listener t store b ht hb := by
    cases listener with
    | detector => exact (watch_handled ht b).trans hb
    | recorder => exact hb
  log line b hb := hb

end Backstage

namespace StageScene

variable {sc : StageScene} {a : Action}

/-- The pairs that the detector of the scene has handled. -/
abbrev handled (sc : StageScene) : List Pair := sc.memory.detector.handled

/-! ### What a dispatch does -/

theorem send_keeps (hk : sc.store.Keeps) (a : Action) : (sc.send a).1.store.Keeps := by
  have hlimit : (sc.send a).1.store.limit = sc.store.limit :=
    (send_record sc a).1.limit.trans (sc.store.carried_limit a)
  unfold Store.Keeps
  rw [hlimit]
  exact hk

theorem send_fault (hk : sc.store.Keeps) (a : Action) :
    Dispatched.fault? (sc.send a).2 = sc.state.fault? a :=
  (Audience.dispatch_quiet Backstage.surroundings_quiet a (h := sc.toHall) hk).2.2

theorem send_handled (h : (sc.state.after a).running) : (sc.send a).1.handled = sc.handled := by
  refine (Audience.dispatch_record Backstage.surroundings_quiet.aloof
    (Backstage.surroundings_leaves_handled sc.handled) a (h := sc.toHall) ?_ rfl).2
  intro next revision hnext _
  have hattempt : sc.state.attempt a = .ok (some next) := hnext
  have hafter : sc.state.after a = next := by rw [Snapshot.after, hattempt]
  exact hafter ▸ h

/-! ### What a look does -/

/-- The pair that a look swaps, if it does. -/
def swapped (sc : StageScene) : Option Pair := (check sc).2.toOption.join

/-- To swap a pair turns the moves of the two and notes the pair, or fails and changes nothing. -/
theorem swap_cases (hk : sc.store.Keeps) (hrun : sc.state.running) {a b : Actor}
    (hfresh : Pair.isAmong sc.handled (a.id, b.id) = false) :
    (swap a b sc).1.store.Keeps ∧
      ((∃ fault, (swap a b sc).2 = some fault) ∧ (swap a b sc).1.state = sc.state ∧
        (swap a b sc).1.handled = sc.handled ∨
      (swap a b sc).2 = none ∧ (swap a b sc).1.state = sc.state.after (.swapMoves a.id b.id) ∧
        (swap a b sc).1.handled = (a.id, b.id) :: sc.handled) := by
  have hflag : (sc.state.after (.swapMoves a.id b.id)).isRunning = sc.state.isRunning := by
    refine Snapshot.isRunning_after ?_ sc.state
    exact nofun
  have hrun' : (sc.state.after (.swapMoves a.id b.id)).running := by
    rw [Snapshot.running, hflag]
    exact hrun
  have hkeeps := send_keeps hk (.swapMoves a.id b.id)
  have hstate := send_state sc (.swapMoves a.id b.id)
  have hfault := send_fault hk (.swapMoves a.id b.id)
  have hhandled := send_handled hrun'
  unfold swap
  cases h : sc.send (.swapMoves a.id b.id) with
  | mk sc' dispatched =>
    rw [h] at hkeeps hstate hfault hhandled
    cases dispatched with
    | error fault =>
      have hsame : sc.state.after (.swapMoves a.id b.id) = sc.state :=
        Snapshot.after_of_fault hfault.symm
      exact ⟨hkeeps, .inl ⟨⟨fault, rfl⟩, hstate.trans hsame, hhandled⟩⟩
    | ok next =>
      have hnote : Pair.note (a.id, b.id) sc'.handled = (a.id, b.id) :: sc.handled := by
        rw [show sc'.handled = sc.handled from hhandled, Pair.note, hfresh]
        rfl
      exact ⟨hkeeps, .inr ⟨rfl, hstate, hnote⟩⟩

/-- A look changes nothing, or it swaps two actors that overlap, were not handled in this order and
stand in it. -/
theorem check_cases (hk : sc.store.Keeps) :
    (check sc).1.store.Keeps ∧
      (swapped sc = none ∧ (check sc).1.state = sc.state ∧ (check sc).1.handled = sc.handled ∨
      ∃ a b : Actor, swapped sc = some (a.id, b.id) ∧ [a, b].Sublist sc.state.actors ∧
        Pair.isAmong sc.handled (a.id, b.id) = false ∧ a.overlaps b = .ok true ∧
        (check sc).1.state = sc.state.after (.swapMoves a.id b.id) ∧
        (check sc).1.handled = (a.id, b.id) :: sc.handled) := by
  unfold swapped check
  by_cases hrun : sc.state.running
  · rw [if_pos hrun]
    cases hfirst : firstCollision? sc.memory.detector.handled sc.state.actors with
    | error fault => exact ⟨hk, .inl ⟨rfl, rfl, rfl⟩⟩
    | ok pair =>
      cases pair with
      | none => exact ⟨hk, .inl ⟨rfl, rfl, rfl⟩⟩
      | some pair =>
        obtain ⟨a, b⟩ := pair
        obtain ⟨hsub, hfresh, hoverlap⟩ := firstCollision?_spec hfirst
        obtain ⟨hkeeps, hcases⟩ := swap_cases hk hrun hfresh
        simp only
        cases hswap : swap a b sc with
        | mk sc' fault =>
          rw [hswap] at hkeeps hcases
          obtain ⟨⟨fault', hfault⟩, hstate, hhandled⟩ | ⟨hnone, hstate, hhandled⟩ := hcases
          · cases hfault
            exact ⟨hkeeps, .inl ⟨rfl, hstate, hhandled⟩⟩
          · cases hnone
            exact ⟨hkeeps, .inr ⟨a, b, rfl, hsub, hfresh, hoverlap, hstate, hhandled⟩⟩
  · rw [if_neg hrun]
    exact ⟨hk, .inl ⟨rfl, rfl, rfl⟩⟩

end StageScene

end SpriteStage
