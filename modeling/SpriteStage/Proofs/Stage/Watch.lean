import SpriteStage.Proofs.Snapshot.Placed
import SpriteStage.Proofs.Stage.Detection
import SpriteStage.Proofs.Stage.Dispatch

/-!
# Watched scenes

A scene is *watched* if the detector listens, all actors are placed, and tick loops stand to the
running flag as they should: only the loop that the detector began last can be alive, it is alive
while the flag is set, and no pair counts as handled while the flag is cleared
(`Backstage.Attended`). No action takes that away, and neither does a tick loop that has its turn
(`StageScene.Watched.turnOfLoop`).
-/

namespace SpriteStage

/-- The data can be waited for: it can be added to any time. -/
def Datum.Waitable (d : Datum) : Prop := ∀ now : Float, Fault.of? (d.addTo (.float now)) = none

/-- Nobody has called the tick loop off. -/
def TickLoop.Undisturbed : TickLoop → Prop
  | fresh true | woken (some _) => False
  | _ => True

namespace Backstage

variable {b b' : Backstage} {flag : Bool} {number : Nat}

/-- The tick loop of this number was begun and has not ended. -/
def Alive (b : Backstage) (number : Nat) : Prop :=
  ∃ loop, b.loops[number]? = some loop ∧ loop.isOver = false

theorem Alive.lt (h : b.Alive number) : number < b.loops.length := by
  obtain ⟨loop, hloop, -⟩ := h
  exact (List.getElem?_eq_some_iff.mp hloop).1

theorem ticking_iff : b.ticking ↔ ∃ number, b.detector.loop = some number ∧ b.Alive number := by
  unfold ticking Alive
  cases b.detector.loop with
  | none => simp
  | some number => cases h : b.loops[number]? <;> simp [h]

/-- Another state of a tick loop is its own matter. -/
theorem alive_setLoop_iff {loop : TickLoop} {other : Nat} :
    (b.setLoop number loop).Alive other ↔
      if other = number then other < b.loops.length ∧ loop.isOver = false else b.Alive other := by
  unfold Alive setLoop
  simp only [List.getElem?_set]
  split_ifs with h₁ h₂ h₃ h₃ <;> grind

/-- The tick loops stand to the flag as they should, and they can wait. -/
structure Attended (flag : Bool) (b : Backstage) : Prop where
  last : ∀ number, b.Alive number → b.detector.loop = some number
  undisturbed : ∀ loop ∈ b.loops, loop.Undisturbed
  watching : flag → b.ticking
  forgotten : flag = false → b.detector.handled = []
  scheduling : b.scheduling
  tick : b.detector.tick.Waitable
  now : ∃ now, b.now = .float now

namespace Attended

theorem congr (hb : b.Attended flag) (h : b.SameWatch b') : b'.Attended flag := by
  obtain ⟨journal, now, detector, scheduling, loops, runs, ready, sleepers, sleeps⟩ := b
  obtain ⟨rfl, rfl, rfl, rfl⟩ := h
  exact ⟨hb.last, hb.undisturbed, hb.watching, hb.forgotten, hb.scheduling, hb.tick, hb.now⟩

/-- The detector begins a tick loop unless one is alive. -/
theorem startTicking (hb : b.Attended flag) : b.startTicking.Attended true := by
  unfold Backstage.startTicking
  split_ifs with hticking hscheduling
  · exact ⟨hb.last, hb.undisturbed, fun _ => hticking, nofun, hb.scheduling, hb.tick, hb.now⟩
  · refine ⟨fun number halive => ?_, fun loop hmem => ?_, fun _ => ?_, nofun, hb.scheduling,
      hb.tick, hb.now⟩
    · obtain ⟨loop, hloop, hover⟩ := halive
      rw [List.getElem?_append] at hloop
      split_ifs at hloop with hlt
      · -- a loop that was alive before would be the last one begun
        have halive : b.Alive number := ⟨loop, hloop, hover⟩
        exact absurd (ticking_iff.mpr ⟨number, hb.last number halive, halive⟩) hticking
      · obtain ⟨hlt', -⟩ := List.getElem?_eq_some_iff.mp hloop
        have hnumber : number = b.loops.length := by
          rw [List.length_singleton] at hlt'
          omega
        exact congrArg some hnumber.symm
    · rcases List.mem_append.mp hmem with hmem | hmem
      · exact hb.undisturbed loop hmem
      · cases List.mem_singleton.mp hmem
        trivial
    · exact ticking_iff.mpr ⟨b.loops.length, rfl, .fresh false, List.getElem?_concat_length, rfl⟩
  · exact absurd hb.scheduling hscheduling

theorem forget (hb : b.Attended flag) : (b.withHandled []).Attended false :=
  ⟨hb.last, hb.undisturbed, nofun, fun _ => rfl, hb.scheduling, hb.tick, hb.now⟩

theorem withHandled (hb : b.Attended true) (handled : List Pair) :
    (b.withHandled handled).Attended true :=
  ⟨hb.last, hb.undisturbed, hb.watching, nofun, hb.scheduling, hb.tick, hb.now⟩

/-- **What the detector does about a transition** is to attend to the flag. -/
theorem watch {t : Transition} (hb : b.Attended t.previous.running) :
    (b.watch t).Attended t.current.running := by
  unfold Backstage.watch
  cases hprevious : t.previous.running <;> cases hcurrent : t.current.running <;>
    rw [hprevious] at hb
  · exact hb
  · exact hb.startTicking
  · exact hb.forget
  · exact hb

/-- A tick loop that is alive goes on. -/
theorem setLoop (hb : b.Attended flag) (halive : b.Alive number) {loop : TickLoop}
    (hloop : loop.Undisturbed) (hover : loop.isOver = false) :
    (b.setLoop number loop).Attended flag := by
  have hsame {other : Nat} : (b.setLoop number loop).Alive other ↔ b.Alive other := by
    rw [alive_setLoop_iff]
    split_ifs with h
    · subst h
      exact ⟨fun _ => halive, fun _ => ⟨halive.lt, hover⟩⟩
    · exact .rfl
  refine ⟨fun other hother => hb.last other (hsame.mp hother), fun l hmem => ?_, fun hflag => ?_,
    hb.forgotten, hb.scheduling, hb.tick, hb.now⟩
  · rcases List.mem_or_eq_of_mem_set hmem with hmem | rfl
    · exact hb.undisturbed l hmem
    · exact hloop
  · obtain ⟨last, hlast, halive⟩ := ticking_iff.mp (hb.watching hflag)
    exact ticking_iff.mpr ⟨last, hlast, hsame.mpr halive⟩

/-- While the flag is cleared, a tick loop can end. -/
theorem endLoop (hb : b.Attended false) (number : Nat) (interruption : Option Interruption) :
    (b.setLoop number (.ended interruption)).Attended false := by
  refine ⟨fun other hother => ?_, fun l hmem => ?_, nofun, hb.forgotten, hb.scheduling, hb.tick,
    hb.now⟩
  · rw [alive_setLoop_iff] at hother
    split_ifs at hother
    · cases hother.2
    · exact hb.last other hother
  · rcases List.mem_or_eq_of_mem_set hmem with hmem | rfl
    · exact hb.undisturbed l hmem
    · trivial

theorem with_now (hb : b.Attended flag) (now : Float) :
    Attended flag { b with now := .float now } :=
  ⟨hb.last, hb.undisturbed, hb.watching, hb.forgotten, hb.scheduling, hb.tick, now, rfl⟩

theorem waitFault? (hb : b.Attended flag) : surroundings.waitFault? b.detector.tick b = none := by
  obtain ⟨now, hnow⟩ := hb.now
  have hwait := hb.tick now
  show Fault.of? (b.detector.tick.addTo b.now) = none
  rwa [hnow]

end Attended

/-- While the flag stays as it is, the detector does nothing. -/
theorem watch_of_running_eq {t : Transition} (h : t.current.running = t.previous.running) :
    b.watch t = b := by
  unfold watch
  cases hprevious : t.previous.running <;> simp [h, hprevious]

end Backstage

namespace StageScene

/-- The detector listens, all actors are placed, and tick loops are attended to. -/
structure Watched (sc : StageScene) : Prop where
  listeners : sc.store.listeners = [.detector, .recorder]
  keeps : sc.store.Keeps
  placed : sc.state.Placed
  attended : sc.memory.Attended sc.state.running

variable {sc : StageScene} {a : Action}

/-- What the detector and the recorder do about a dispatch: nothing if the action is not carried
out, but for a note. -/
theorem send_cases (hl : sc.store.listeners = [.detector, .recorder]) (hk : sc.store.Keeps)
    (a : Action) :
    (∃ f, (sc.send a).1 = Scene.mapMemory (Backstage.noting f) sc) ∨
      ∃ next f g, sc.state.after a = next ∧
        (sc.send a).1 = { sc with
          store := sc.store.replace next
          memory := ((sc.memory.noting f).watch (sc.store.announced a next)).noting g } := by
  obtain ⟨f, hremarked⟩ : ∃ f, Backstage.remarked a = Backstage.noting f := by
    unfold Backstage.remarked
    cases a.remark? with
    | none => exact ⟨id, rfl⟩
    | some line => exact ⟨(·.log line), rfl⟩
  match ha : sc.state.attempt a with
  | .error fault => exact .inl ⟨f, by rw [send_eq, ha, hremarked]⟩
  | .ok none => exact .inl ⟨f, by rw [send_eq, ha, hremarked]⟩
  | .ok (some next) =>
    refine .inr ⟨next, f, (·.record (.action a)), by rw [Snapshot.after, ha], ?_⟩
    rw [send_of_some hk ha, hl, hremarked]
    rfl

/-- While the flag stays as it is, tick loops have nothing to do with dispatches. -/
theorem send_sameWatch (hl : sc.store.listeners = [.detector, .recorder]) (hk : sc.store.Keeps)
    (h : (sc.state.after a).running = sc.state.running) :
    sc.memory.SameWatch (sc.send a).1.memory := by
  obtain ⟨f, hsend⟩ | ⟨next, f, g, hnext, hsend⟩ := send_cases hl hk a
  · rw [hsend]
    exact ⟨rfl, rfl, rfl, rfl⟩
  · have hflag : (sc.store.announced a next).current.running =
        (sc.store.announced a next).previous.running := hnext ▸ h
    rw [hsend, Backstage.watch_of_running_eq hflag]
    exact ⟨rfl, rfl, rfl, rfl⟩

namespace Watched

theorem mapMemory (hs : sc.Watched) {f : Backstage → Backstage}
    (hf : (f sc.memory).Attended sc.state.running) : Watched (Scene.mapMemory f sc) :=
  ⟨hs.listeners, hs.keeps, hs.placed, hf⟩

theorem congr (hs : sc.Watched) {f : Backstage → Backstage}
    (hf : sc.memory.SameWatch (f sc.memory)) : Watched (Scene.mapMemory f sc) :=
  hs.mapMemory (hs.attended.congr hf)

/-- No action that leaves actors placed takes it away that the scene is watched. -/
theorem send (hs : sc.Watched) (ha : a.Placing) : Watched (sc.send a).1 := by
  obtain ⟨f, hsend⟩ | ⟨next, f, g, rfl, hsend⟩ := send_cases hs.listeners hs.keeps a
  · rw [hsend]
    exact hs.congr ⟨rfl, rfl, rfl, rfl⟩
  · rw [hsend]
    have hremarked : (sc.memory.noting f).Attended sc.state.running :=
      hs.attended.congr ⟨rfl, rfl, rfl, rfl⟩
    have hwatch : ((sc.memory.noting f).watch (sc.store.announced a (sc.state.after a))).Attended
        (sc.state.after a).running :=
      Backstage.Attended.watch (t := sc.store.announced a (sc.state.after a)) hremarked
    exact ⟨hs.listeners, hs.keeps, hs.placed.after ha, hwatch.congr ⟨rfl, rfl, rfl, rfl⟩⟩

end Watched

theorem watched_lasting : Lasting Action.Placing Watched where
  send ha hs := hs.send ha
  enter _ hs := ⟨hs.listeners, hs.keeps, hs.placed, hs.attended⟩
  mapMemory hf hs := hs.congr hf

/-! ### Looks -/

/-- The second scene is watched like the first, has the same flag and the same tick loops. -/
structure Kept (sc sc' : StageScene) : Prop where
  watched : sc'.Watched
  running : sc'.state.running = sc.state.running
  loops : sc'.memory.loops = sc.memory.loops

namespace Watched

theorem swap (hs : sc.Watched) (hrun : sc.state.running) {a b : Actor} (ha : a ∈ sc.state.actors)
    (hb : b ∈ sc.state.actors) : sc.Kept (swap a b sc).1 ∧ (swap a b sc).2 = none := by
  have hflag : (sc.state.after (.swapMoves a.id b.id)).running = sc.state.running :=
    congrArg Datum.truthy (Snapshot.isRunning_after (by nofun) sc.state)
  have hsent : Watched (sc.send (.swapMoves a.id b.id)).1 := hs.send trivial
  have hrunning : (sc.send (.swapMoves a.id b.id)).1.state.running = sc.state.running := by
    rw [send_state, hflag]
  have hwatch := send_sameWatch hs.listeners hs.keeps hflag
  have hfault := (send_fault hs.keeps (.swapMoves a.id b.id)).trans
    (hs.placed.fault?_swapMoves ha hb)
  unfold StageScene.swap
  cases h : sc.send (.swapMoves a.id b.id) with
  | mk sc' dispatched =>
    rw [h] at hsent hrunning hwatch hfault
    cases dispatched with
    | error fault => cases hfault
    | ok next =>
      have hset : sc'.memory.Attended true := by
        rw [← hrun, ← hrunning]
        exact hsent.attended
      have hnoted : Watched (Scene.mapMemory
          (Backstage.withHandled (Pair.note (a.id, b.id) sc'.memory.detector.handled)) sc') := by
        refine hsent.mapMemory ?_
        rw [hrunning, hrun]
        exact hset.withHandled _
      exact ⟨⟨watched_lasting.notify _ (watched_lasting.log _ hnoted), hrunning, hwatch.loops⟩, rfl⟩

/-- **A look never fails**, and tick loops go on with it. -/
theorem check (hs : sc.Watched) : sc.Kept (check sc).1 ∧ ∃ pair, (check sc).2 = .ok pair := by
  unfold StageScene.check
  by_cases hrun : sc.state.running
  · rw [if_pos hrun]
    obtain ⟨collision, hcollision⟩ :=
      exists_firstCollision? sc.memory.detector.handled hs.placed
    rw [hcollision]
    cases collision with
    | none => exact ⟨⟨hs, rfl, rfl⟩, none, rfl⟩
    | some pair =>
      obtain ⟨a, b⟩ := pair
      obtain ⟨hsub, -, -⟩ := firstCollision?_spec hcollision
      have hmem : a ∈ sc.state.actors ∧ b ∈ sc.state.actors :=
        ⟨hsub.subset (by simp), hsub.subset (by simp)⟩
      obtain ⟨hkept, hnone⟩ := hs.swap hrun hmem.1 hmem.2
      simp only
      cases h : StageScene.swap a b sc with
      | mk sc' fault =>
        rw [h] at hkept hnone
        cases hnone
        exact ⟨hkept, some (a.id, b.id), rfl⟩
  · rw [if_neg hrun]
    exact ⟨⟨hs, rfl, rfl⟩, none, rfl⟩

end Watched

/-- While the flag is cleared, a look does nothing. -/
theorem check_of_not_running (h : sc.state.running = false) : check sc = (sc, .ok none) := by
  rw [check, h]
  rfl

/-! ### Turns of tick loops -/

theorem leaveLoop_store (number : Nat) (interruption : Option Interruption) (sc : StageScene) :
    (leaveLoop number interruption sc).store = sc.store := by
  unfold leaveLoop endLoop
  refine List.foldlRecOn (motive := fun sc' : StageScene => sc'.store = sc.store) _ _ ?_
    fun sc' hsc' waiting _ => hsc'
  split_ifs <;> rfl

namespace Watched

/-- A tick loop that finds the flag cleared ends. -/
theorem leaveLoop (hs : sc.Watched) (hrun : sc.state.running = false) (number : Nat)
    (interruption : Option Interruption) : Watched (leaveLoop number interruption sc) := by
  have hcleared : sc.memory.Attended false := hrun ▸ hs.attended
  have hended : Watched (Scene.mapMemory (Backstage.setLoop number (.ended interruption))
      (Scene.mapMemory (Backstage.withHandled []) sc)) := by
    refine ⟨hs.listeners, hs.keeps, hs.placed, ?_⟩
    show Backstage.Attended sc.state.running _
    rw [hrun]
    exact hcleared.forget.endLoop number interruption
  unfold StageScene.leaveLoop endLoop
  rw [hrun]
  refine List.foldlRecOn (motive := Watched) _ _ hended fun sc' hsc' waiting _ => ?_
  exact watched_lasting.mapMemory ⟨rfl, rfl, rfl, rfl⟩ (watched_lasting.setRun _ _ hsc')

theorem tick (hs : sc.Watched) {number : Nat} (halive : sc.memory.Alive number) :
    Watched (tick number sc) := by
  unfold StageScene.tick
  by_cases hrun : sc.state.running
  · rw [if_pos hrun]
    obtain ⟨hkept, pair, hpair⟩ := hs.check
    cases h : StageScene.check sc with
    | mk sc' outcome =>
      rw [h] at hkept hpair
      cases hpair
      have hbegun : Watched (sc'.mapMemory
          (Backstage.surroundings.waits sc'.memory.detector.tick)) := hkept.watched.congr
        ⟨rfl, rfl, rfl, rfl⟩
      have hwait : Backstage.surroundings.waitFault? sc'.memory.detector.tick
          (sc'.mapMemory (Backstage.surroundings.waits sc'.memory.detector.tick)).memory = none :=
        hbegun.attended.waitFault?
      have halive' : sc'.memory.Alive number := by
        unfold Backstage.Alive
        rwa [hkept.loops]
      simp only [hwait]
      refine hbegun.mapMemory ?_
      have hsleeps : Backstage.Attended sc'.state.running
          (((sc'.memory.noting (·.record (.wait sc'.memory.detector.tick))).sleep
            sc'.memory.detector.tick (.loop number))) :=
        hkept.watched.attended.congr ⟨rfl, rfl, rfl, rfl⟩
      exact hsleeps.setLoop halive' trivial rfl
  · rw [if_neg hrun]
    exact hs.leaveLoop (by simpa using hrun) number none

/-- **The turn of a tick loop** leaves the scene watched. -/
theorem turnOfLoop (hs : sc.Watched) (number : Nat) : Watched (turnOfLoop number sc) := by
  unfold StageScene.turnOfLoop
  split
  · rename_i hloop
    exact (hs.attended.undisturbed _ (List.mem_of_getElem? hloop)).elim
  · rename_i hloop
    exact hs.tick ⟨_, hloop, rfl⟩
  · rename_i hloop
    exact hs.tick ⟨_, hloop, rfl⟩
  · rename_i hloop
    exact (hs.attended.undisturbed _ (List.mem_of_getElem? hloop)).elim
  · exact hs

/-- While the flag is cleared, a tick loop dispatches nothing in its turn. -/
theorem turnOfLoop_store (hs : sc.Watched) (hrun : sc.state.running = false) (number : Nat) :
    (StageScene.turnOfLoop number sc).store = sc.store := by
  have htick : (StageScene.tick number sc).store = sc.store := by
    rw [StageScene.tick, hrun]
    exact leaveLoop_store number none sc
  unfold StageScene.turnOfLoop
  split
  · rename_i hloop
    exact (hs.attended.undisturbed _ (List.mem_of_getElem? hloop)).elim
  · exact htick
  · exact htick
  · exact leaveLoop_store number _ sc
  · rfl

end Watched

end StageScene

end SpriteStage
