import SpriteStage.Proofs.Forest.Sound
import SpriteStage.Proofs.Snapshot.Peopled

/-!
# Well-formed snapshots

A snapshot is well-formed if there is an actor, no two actors have the same identifier, the active
actor is there, and all programs are sound. Every action keeps snapshots well-formed, as long as the
blocks and actors that it brings in are sound (`Snapshot.WellFormed.after`).
-/

namespace SpriteStage

/-- Somebody is there, no two have the same identifier, one is active, and programs are sound. -/
structure Snapshot.WellFormed (s : Snapshot) : Prop where
  nonempty : s.actors ≠ []
  texts : ∀ a ∈ s.actors, a.id.IsText
  distinct : s.actors.Pairwise fun a b => ¬ a.id.sameValue b.id
  active : ∃ a ∈ s.actors, a.id = s.activeActorId
  programs : ∀ a ∈ s.actors, Forest.Sound a.blocks

/-- What the action brings in, if anything, is sound. -/
def Action.Sound : Action → Prop
  | .addBlock block _ | .addChild _ block _ => Forest.Sound [block]
  | .addActor actor => actor.id.IsText ∧ Forest.Sound actor.blocks
  | _ => True

namespace Action.Sound

variable {a : Action}

theorem named (ha : a.Sound) : a.Named := by
  cases a with
  | addActor actor => exact ha.1
  | _ => trivial

/-- What a sound action makes of a sound program is sound. -/
theorem rewritten (ha : a.Sound) {address : Datum} {change : Forest → Option Forest}
    (h : a.programChange? = some (address, change)) {f g : Forest} (hf : Forest.Sound f)
    (hg : change f = some g) : Forest.Sound g := by
  cases a with
  | addBlock block _ =>
    cases h
    obtain ⟨hmeets, rfl⟩ := Forest.eq_of_appended? hg
    exact hf.append ha hmeets
  | removeBlock blockId _ =>
    cases h
    obtain rfl := Forest.eq_of_erased? hg
    exact hf.erase blockId
  | updateParams blockId params _ =>
    cases h
    exact hf.of_shape_eq (Forest.shape_modify? (fun b => b.shape_with_params _) hg).symm
  | addChild parentId block _ =>
    cases h
    exact hf.nested ha hg
  | clearBlocks _ =>
    cases h
    cases hg
    exact Forest.sound_nil
  | _ => cases h

/-- The program of an actor stays sound, whatever a sound action makes of the actor. -/
theorem becomes (ha : a.Sound) {actor actor' : Actor} (h : actor.Becomes a actor')
    (hs : Forest.Sound actor.blocks) : Forest.Sound actor'.blocks := by
  cases h with
  | same => exact hs
  | rewritten hchange hf => exact ha.rewritten hchange hs hf
  | altered _ => exact (actor.setAll_blocks _).symm ▸ hs
  | reset _ => exact hs
  | turned _ => exact hs.of_shape_eq (Forest.shape_turnMoves actor.blocks).symm

end Action.Sound

namespace Snapshot.WellFormed

variable {s : Snapshot}

theorem peopled (hs : s.WellFormed) : s.Peopled :=
  ⟨hs.nonempty, hs.texts, hs.distinct, hs.active⟩

/-- **Every action keeps a snapshot well-formed**, if what it brings in is sound. -/
theorem after (hs : s.WellFormed) {a : Action} (ha : a.Sound) : (s.after a).WellFormed := by
  have hpeopled := hs.peopled.after ha.named
  refine ⟨hpeopled.nonempty, hpeopled.texts, hpeopled.distinct, hpeopled.active, fun b hb => ?_⟩
  obtain ⟨c, hc, hbecomes⟩ | rfl := exists_of_mem_after hb
  · exact ha.becomes hbecomes (hs.programs c hc)
  · exact ha.2

end Snapshot.WellFormed

end SpriteStage
