import SpriteStage.Proofs.Forest.Listing
import SpriteStage.Proofs.Forest.Turn

/-!
# Programs backwards

A program backwards is the same program with the sign of the steps of each move turned: a block is
dealt with by its own kind, from the top down, whatever else there is in the program
(`Forest.backward`). To turn the moves of a program goes by identifiers instead: it notes those of
the moves first, and then rebuilds all blocks from the bottom up. Where no identifier occurs twice,
the two are the same (`Forest.turnMoves_eq_backward`).
-/

namespace SpriteStage

/-- The data with the sign turned, if it is a number. Truth values are not numbers. -/
def Datum.negated : Datum → Datum
  | .num n => .num n.neg
  | d => d

/-- The fields with the first value of this key negated, if it is a number. -/
def Fields.negated (key : Key) : Fields → Fields
  | [] => []
  | (k, v) :: rest => if k.same key then (k, v.negated) :: rest else (k, v) :: negated key rest

/-- Parameters with the sign of the steps turned, if these are a number. -/
def Datum.stepsBack : Datum → Datum
  | .object fields => .object (Fields.negated "steps" fields)
  | d => d

/-- The line with the sign of the steps turned, if it is that of a move. -/
def Line.backward (l : Line) : Line :=
  if l.kind.sameValue (.str BlockKind.move.name) then { l with params := l.params.stepsBack } else l

mutual

/-- The block backwards, and all that is below it. -/
def Block.backward : Block → Block
  | ⟨id, kind, params, children⟩ =>
    ⟨id, kind,
      if kind.sameValue (.str BlockKind.move.name) then params.stepsBack else params,
      Forest.backward children⟩
termination_by structural b => b

/-- The program backwards: the sign of the steps is turned of every move, at any depth. -/
def Forest.backward : List Block → List Block
  | [] => []
  | b :: rest => b.backward :: Forest.backward rest
termination_by structural f => f

end

/-- To turn the value under a key is to negate it where it stands. -/
theorem Fields.turn_eq_negated (key : Key) (fields : Fields) :
    fields.turn key = fields.negated key := by
  induction fields with
  | nil => rfl
  | cons field rest ih =>
    obtain ⟨k, v⟩ := field
    by_cases hk : k.same key
    · cases v <;> simp [turn, get?, put, negated, Datum.negated, hk]
    · have hrest : turn key ((k, v) :: rest) = (k, v) :: turn key rest := by
        simp only [turn, get?, hk, Bool.false_eq_true, if_false]
        cases get? key rest with
        | none => rfl
        | some w => cases w <;> simp [put, hk]
      rw [hrest, ih, negated, if_neg hk]

namespace Forest

variable {f : Forest}

@[simp] theorem backward_nil : backward [] = [] := rfl

theorem backward_cons (b : Block) (rest : Forest) :
    backward (b :: rest) =
      { b with
        params := if b.moves then b.params.stepsBack else b.params
        children := backward b.children } :: backward rest := by
  cases b; rfl

/-- The program backwards has the same lines in the same places, those of moves with the sign of
their steps turned. -/
theorem listing_backward (above : Option Datum) (f : Forest) :
    listing above (backward f) = (listing above f).map Line.backward := by
  induction f using induct generalizing above with
  | nil => rfl
  | cons b rest ihb ihrest =>
    rw [backward_cons, listing_cons, listing_cons, ihb, ihrest, List.map_cons, List.map_append]
    congr 1
    by_cases hmove : b.kind.sameValue (.str BlockKind.move.name) <;>
      simp [Block.line, Line.backward, Block.moves, Block.hasKind, hmove]

/-- Where no identifier occurs twice, only moves have the identifier of a move. -/
theorem turns_eq_moves (ht : ∀ b ∈ preorder f, b.id.IsText) (hd : Distinct f) {b : Block}
    (hb : b ∈ preorder f) : turns f b = b.moves := by
  rw [turns, Bool.or_eq_left_iff_imp, List.any_eq_true]
  rintro ⟨c, hc, hid⟩
  obtain ⟨hmem, hmoves⟩ := List.mem_filter.mp hc
  have hsame : b.id = c.id := (ht c hmem).sameValue_iff.mp hid
  have hfound := hd.find?_self hmem (ht c hmem)
  rw [← hsame, hd.find?_self hb (ht b hb)] at hfound
  cases hfound
  exact hmoves

/-- A rebuilding that turns just the moves gives the program backwards. -/
theorem rebuild_turnIf {wanted : Block → Bool} {g : Forest}
    (hwanted : ∀ b children, wanted { b with children } = wanted b)
    (hmoves : ∀ b ∈ preorder g, wanted b = b.moves)
    (hparams : ∀ b ∈ preorder g, ∃ fields, b.params = .object fields) :
    rebuild (fun b => b.turnIf (wanted b)) g = backward g := by
  induction g using induct with
  | nil => rfl
  | cons b rest ihb ihrest =>
    simp only [preorder_cons, List.forall_mem_cons, List.mem_append] at hmoves hparams
    have hchildren := ihb (fun c hc => hmoves.2 c (.inl hc)) fun c hc => hparams.2 c (.inl hc)
    have hrest := ihrest (fun c hc => hmoves.2 c (.inr hc)) fun c hc => hparams.2 c (.inr hc)
    obtain ⟨fields, hfields⟩ := hparams.1
    have hentries (children : Forest) : ({ b with children } : Block).entries = fields := by
      simp only [Block.entries, hfields]
      rfl
    rw [rebuild_cons, backward_cons, hchildren, hrest, hwanted, hmoves.1, Block.turnIf, hentries,
      hfields]
    cases b.moves with
    | false => rfl
    | true => simp only [Datum.stepsBack, ← Fields.turn_eq_negated, if_true]

/-- **To turn the moves is to go backwards**, where no identifier occurs twice. -/
theorem turnMoves_eq_backward (hf : Typed f) (hd : Distinct f) : turnMoves f = backward f := by
  rw [turnMoves_eq]
  exact rebuild_turnIf (fun _ _ => rfl)
    (fun b hb => turns_eq_moves (fun c hc => (hf c hc).id) hd hb) fun b hb => (hf b hb).params

end Forest

end SpriteStage
