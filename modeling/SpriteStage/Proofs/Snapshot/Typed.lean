import SpriteStage.Proofs.Snapshot.Change
import SpriteStage.Proofs.Snapshot.Drawn
import SpriteStage.Proofs.Walk.Course
import SpriteStage.Proofs.Walk.Only

/-!
# Typed snapshots

A snapshot is typed if identifiers and kinds are texts and parameters are objects. Actions that
bring in nothing else leave it typed (`Snapshot.Typed.after`), and all that runs do is of this kind.
Programs that are typed can be looked up and compared, so that no change of a program fails.
-/

namespace SpriteStage

/-- What the action brings in, if anything, is typed. -/
def Action.Typing : Action → Prop
  | .addBlock block _ | .addChild _ block _ => Forest.Typed [block]
  | .addActor actor => actor.Typed
  | _ => True

namespace Action

variable {a : Action}

theorem Typing.brings (ha : a.Typing) : a.Brings Block.Typed := by
  cases a with
  | addBlock | addChild => exact ha
  | updateParams => exact fun b hb => ⟨⟨hb.id, hb.kind⟩, _, rfl⟩
  | _ => trivial

theorem Typing.becomes (ha : a.Typing) {actor actor' : Actor} (h : actor.Becomes a actor')
    (hs : actor.Typed) : actor'.Typed := by
  refine ⟨h.id.symm ▸ hs.id, ?_⟩
  cases h with
  | same => exact hs.blocks
  | rewritten hchange hf => exact ha.brings.rewritten Block.own_typed hchange hs.blocks hf
  | altered _ => exact (actor.setAll_blocks _).symm ▸ hs.blocks
  | reset _ => exact hs.blocks
  | turned _ => exact hs.blocks.turnMoves

theorem Acted.typing {home : Datum} (h : a.Acted home) : a.Typing := by
  cases h with
  | flag value => trivial
  | played h =>
    have hplay := h.play
    cases a <;> trivial

end Action

/-! ### New blocks and actors -/

theorem Block.create_typed {kind : Datum} {supply supply' : Supply} {b : Block}
    (h : Block.create kind .null [] supply = .ok (b, supply')) :
    Forest.Typed [b] ∧ supply'.randoms = supply.randoms := by
  obtain ⟨id, k, rfl, hrandoms⟩ := create_cases h
  have hblock : Block.Typed ⟨.str id, .str k.name, .object (k.defaults.merge []), []⟩ :=
    ⟨⟨⟨id, rfl⟩, ⟨k.name, rfl⟩⟩, k.defaults.merge [], rfl⟩
  exact ⟨Forest.typed_singleton_iff.mpr ⟨hblock, Forest.typed_nil⟩, hrandoms⟩

theorem Actor.create_typed {ordinal : Datum} {supply supply' : Supply} {a : Actor}
    (h : Actor.create ordinal none supply = .ok (a, supply')) : a.Typed := by
  obtain ⟨id, name, costume, x, y, rfl, -⟩ := create_cases h
  exact ⟨⟨_, rfl⟩, Forest.typed_nil⟩

/-! ### What can be compared -/

namespace Forest

variable {f : Forest}

theorem keyFault?_eq_none {blocks : List Block} (h : ∀ b ∈ blocks, b.Typed) :
    keyFault? blocks = none :=
  List.findSome?_eq_none_iff.mpr fun b hb => (h b hb).id.asKey

/-- A typed block can be compared with a typed program. -/
theorem Typed.meetFault? (hf : Typed f) {b : Block} (hb : Typed [b]) :
    Snapshot.meetFault? b f = none := by
  have hpreorder : preorder [b] = b.preorder := by
    cases b
    simp [preorder]
  have hown : ∀ c ∈ b.preorder, c.Typed := hpreorder ▸ hb
  rw [Snapshot.meetFault?, keyFault?_eq_none hf, keyFault?_eq_none hown]
  rfl

/-- The parameters of a typed block can be merged with others. -/
theorem Typed.mergeFault? (hf : Typed f) (blockId : Datum) (fields : Fields) :
    (find? blockId f).bind (Block.mergeFault? (.object fields)) = none := by
  cases hfind : find? blockId f with
  | none => rfl
  | some b =>
    obtain ⟨own, hown⟩ := (hf b (List.mem_of_find?_eq_some hfind)).params
    simp [Block.mergeFault?, hown]

end Forest

namespace Snapshot.Typed

variable {s : Snapshot} {a : Action}

/-- **Actions leave a snapshot typed**, if what they bring in is typed. -/
theorem after (hs : s.Typed) (ha : a.Typing) : (s.after a).Typed := by
  intro b hb
  obtain ⟨c, hc, hbecomes⟩ | rfl := exists_of_mem_after hb
  · exact ha.becomes hbecomes (hs c hc)
  · exact ha

theorem blocksFault? (hs : s.Typed) {fault? : Forest → Option Fault}
    (h : ∀ f, Forest.Typed f → fault? f = none) (address : Datum) :
    s.blocksFault? address fault? = none := by
  unfold Snapshot.blocksFault?
  cases ha : s.holder? (s.addressee address) with
  | none => rfl
  | some a => exact h a.blocks (hs a (List.mem_of_find?_eq_some ha)).blocks

theorem fault?_updateParams (hs : s.Typed) (blockId : Datum) (fields : Fields) (address : Datum) :
    s.fault? (.updateParams blockId (.object fields) address) = none :=
  hs.blocksFault? (fun _ hf => hf.mergeFault? blockId fields) address

/-- No new block fails to be put in. -/
theorem fault?_addBlock (hs : s.Typed) {block : Block} (hb : Forest.Typed [block])
    (address : Datum) : s.fault? (.addBlock block address) = none :=
  hs.blocksFault? (fun _ hf => hf.meetFault? hb) address

theorem fault?_addChild (hs : s.Typed) (parentId : Datum) {block : Block}
    (hb : Forest.Typed [block]) (address : Datum) :
    s.fault? (.addChild parentId block address) = none :=
  hs.blocksFault? (fun _ hf => hf.meetFault? hb) address

end Snapshot.Typed

end SpriteStage
