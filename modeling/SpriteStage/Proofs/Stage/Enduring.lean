import SpriteStage.Proofs.Stage.Lasting

/-!
# What endures

A property of the record of a store *endures* actions of a kind if none of them takes it away
(`Store.Endures`). If such actions are all that runs and tick loops dispatch, then nothing that goes
on behind the stage takes it away either: neither a turn (`StageScene.Enduring.turn`) nor the end of
a wait (`StageScene.Enduring.rouse`).
-/

namespace SpriteStage

variable {P Q : Action → Prop}

/-- No action of the kind takes the property of the record away. -/
def Store.Endures {ι : Type} (P : Action → Prop) (K : Store ι → Prop) : Prop :=
  ∀ store store' a, P a → SameRecord (store.carried a) store' → K store → K store'

namespace StageScene

/-- The record has the property, and what walks go on to dispatch is of the kind. -/
structure Enduring (P : Action → Prop) (K : Store Listener → Prop) (sc : StageScene) : Prop where
  record : K sc.store
  walks : sc.memory.Only P

variable {K : Store Listener → Prop} {sc sc' : StageScene}

theorem lasting_of_endures (hK : Store.Endures P K) : Lasting P fun sc => K sc.store where
  send ha hs := hK _ _ _ ha (send_record _ _).1 hs
  enter _ hs := hs
  mapMemory _ hs := hs

namespace Enduring

theorem aside (hs : sc.Enduring P K) (hK : Store.Endures P K) (hQ : ∀ a, Q a → P a)
    (h : Aside Q sc sc') : sc'.Enduring P K :=
  ⟨h.store.keeps (fun _ _ a ha => hK _ _ a (hQ a ha)) hs.record, h.only hs.walks⟩

/-- **Turns take nothing away** that endures the actions of runs, whoever has the turn. -/
theorem turn (hs : sc.Enduring P K) (hK : Store.Endures P K)
    (hacted : ∀ home a, Action.Acted home a → P a) (I : Interpreter) :
    Enduring P K (turn I sc) := by
  have hI (address : Datum) : (I.run address).Only P := (I.run_only address).mono (hacted I.home)
  have hswap (first second : Datum) : P (.swapMoves first second) :=
    have hplayed : Action.Played .null .null (.swapMoves first second) := .swap first second
    hacted .null _ (.played hplayed)
  unfold StageScene.turn
  cases sc.memory.ready with
  | nil => exact hs
  | cons next rest =>
    have hrest : Enduring P K (Scene.mapMemory (fun b => { b with ready := rest }) sc) :=
      ⟨hs.record, hs.walks⟩
    cases next with
    | run number =>
      obtain ⟨hrecord, hwalks⟩ :=
        (lasting_of_endures hK).turnOfRun hI number hrest.record hrest.walks
      exact ⟨hrecord, hwalks⟩
    | loop number => exact hrest.aside hK (fun _ ha => ha) (turnOfLoop_aside hswap number _)

/-- Nor does the end of a wait, whenever it is and however it ends. -/
theorem rouse (hs : sc.Enduring P K) (hK : Store.Endures P K) (turn : Turn)
    (interruption : Option Interruption) (now : Number) :
    Enduring P K
      (Scene.mapMemory (fun b => StageScene.rouse turn interruption { b with now }) sc) :=
  hs.aside hK (fun _ ha => ha) (rouse_aside turn interruption now sc)

end Enduring

end StageScene

end SpriteStage
