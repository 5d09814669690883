import SpriteStage.Proofs.Snapshot.WellFormed
import SpriteStage.Proofs.Stage.Enduring

/-!
# Sound scenes

The scene of a stage is sound if all its snapshots are well-formed, the present one and those that
are remembered, and if what walks go on to dispatch is sound. That endures sound actions
(`StageScene.wellFormed_endures`). The interpreter brings in neither blocks nor actors, so all that
it does is sound.
-/

namespace SpriteStage

theorem Action.Play.sound {a : Action} (h : a.Play) : a.Sound := by
  cases a <;> trivial

theorem Action.Acted.sound {home : Datum} {a : Action} (h : a.Acted home) : a.Sound := by
  cases h with
  | flag value => trivial
  | played h => exact h.play.sound

namespace StageScene

/-- All snapshots are well-formed, the present one and those that are remembered. -/
def AllWellFormed (sc : StageScene) : Prop := ∀ s ∈ sc.store.state :: sc.store.history, s.WellFormed

/-- All snapshots are well-formed, and what walks go on to dispatch is sound. -/
structure Sound (sc : StageScene) : Prop where
  snapshots : sc.AllWellFormed
  walks : sc.memory.Only Action.Sound

variable {sc : StageScene}

/-- Sound actions leave all snapshots well-formed. -/
theorem wellFormed_endures : Store.Endures Action.Sound
    fun store : Store Listener => ∀ s ∈ store.state :: store.history, s.WellFormed := by
  intro store store' a ha hrecord hall s hmem
  rcases List.mem_cons.mp hmem with rfl | hmem
  · rw [hrecord.state, Store.carried_state]
    exact (hall _ List.mem_cons_self).after ha
  · have hold : s ∈ (store.carried a).history := hrecord.history ▸ hmem
    rcases Store.mem_of_mem_carried_history hold with hold | rfl
    · exact hall s (List.mem_cons_of_mem _ hold)
    · exact hall _ List.mem_cons_self

theorem sound_iff : sc.Sound ↔ sc.Enduring Action.Sound
    fun store => ∀ s ∈ store.state :: store.history, s.WellFormed :=
  ⟨fun h => ⟨h.snapshots, h.walks⟩, fun h => ⟨h.record, h.walks⟩⟩

end StageScene

end SpriteStage
