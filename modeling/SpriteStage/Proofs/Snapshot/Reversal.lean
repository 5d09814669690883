import SpriteStage.Proofs.Snapshot.Parity

/-!
# What a swap does to a run

A run reads the steps of a move as a double: a number is converted, a text is read, a truth value
counts as one or zero, and steps that are missing are none. A swap turns the sign of numbers and of
nothing else. So after a swap the actor goes the same way back if the steps of the move are a number
or missing, and the same way as before if they are a text or a truth value
(`Snapshot.swapped_steps`).
-/

namespace SpriteStage

namespace Block

/-- The steps of the block are a number, if there are any. -/
def StepsNumeric (b : Block) : Prop := ∀ d, b.entries.get? "steps" = some d → ∃ n, d = .num n

end Block

namespace Interpreter

variable {b b' : Block} {fields : Fields}

theorem amount_of_object (h : b.params = .object fields) (key : String) :
    amount b key = ((fields.get? key).getD (.int 0)).toFloat := by
  rw [amount, param, h]
  rfl

/-- The steps of a block after its sign was turned. -/
theorem amount_turned (h : b.params = .object fields)
    (h' : b'.params = .object (fields.turn "steps")) {x : Float} (hx : amount b "steps" = .ok x) :
    ∃ y, amount b' "steps" = .ok y ∧ (b.StepsNumeric → Double.Opposed x y) ∧
      (¬ b.StepsNumeric → y = x) := by
  have hentries : b.entries = fields := by rw [Block.entries, h]; rfl
  rw [amount_of_object h] at hx
  rw [amount_of_object h']
  unfold Block.StepsNumeric
  rw [hentries]
  cases hget : fields.get? "steps" with
  | none =>
    have hzero : (Datum.int 0).toFloat = .ok Double.zero := by decide +kernel
    rw [hget] at hx
    obtain rfl : Double.zero = x := Except.ok.inj (hzero.symm.trans hx)
    rw [Fields.turn_of_not_num (by simp [hget]), hget]
    exact ⟨_, hzero, fun _ => .inr ⟨rfl, rfl⟩, fun _ => rfl⟩
  | some d =>
    rw [hget] at hx
    by_cases hnum : ∃ n, d = .num n
    · obtain ⟨n, rfl⟩ := hnum
      obtain ⟨y, hy, hopposed⟩ := Datum.floatOf_neg (n := n) hx
      rw [Fields.turn_of_num hget, Fields.get?_put_self (by simp)]
      have hnumeric : ∀ e, some (Datum.num n) = some e → ∃ n, e = .num n :=
        fun e he => ⟨n, (Option.some.inj he).symm⟩
      exact ⟨y, hy, fun _ => hopposed, fun hnot => absurd hnumeric hnot⟩
    · have hturn : fields.turn "steps" = fields := by
        refine Fields.turn_of_not_num fun n hn => hnum ⟨n, ?_⟩
        exact Option.some.inj (hget.symm.trans hn)
      rw [hturn, hget]
      exact ⟨x, hx, fun hall => absurd (hall d rfl) hnum, fun _ => rfl⟩

end Interpreter

namespace Snapshot

variable {s : Snapshot}

/-- Who is named by a swap has the moves turned. -/
theorem Typed.actor?_after_swapMoves (hs : s.Typed) {first second id : Datum}
    (hcan : s.canSwap first second) (hid : id = first ∨ id = second) {a : Actor}
    (ha : s.actor? id = some a) :
    (s.after (.swapMoves first second)).actor? id = some a.turnMoves := by
  let turned (a : Actor) : Actor := if a.hasId first || a.hasId second then a.turnMoves else a
  have hmatch : s.Match (fun a b => b = turned a) (s.after (.swapMoves first second)) := by
    rw [hs.after_swapMoves, swapped?, if_pos hcan]
    refine match_of_map (g := turned) (fun a => ?_) (fun _ => rfl) rfl
    dsimp only [turned]
    split_ifs <;> rfl
  obtain ⟨b, hb, rfl⟩ := hmatch.actor? ha
  have hnamed : a.hasId first || a.hasId second := by
    have hhas := hasId_of_actor? ha
    rcases hid with rfl | rfl <;> simp [hhas]
  rw [hb]
  exact congrArg some (if_pos hnamed)

/-- **A swap reverses the moves of numbers.** Take a move in the program of one of two different
actors that are swapped, with steps that a run can read. After the swap the actor holds the move in
its place, and a run reads the opposed steps if they are a number or missing, and the same steps if
they are a text or a truth value. -/
theorem swapped_steps (hs : s.Typed) {first second id : Datum} (hne : first ≠ second)
    (hfirst : (s.actor? first).isSome) (hsecond : (s.actor? second).isSome)
    (hid : id = first ∨ id = second) {a : Actor} (ha : s.actor? id = some a)
    (hd : Forest.Distinct a.blocks) {m : Block} (hm : m ∈ Forest.preorder a.blocks)
    (hkind : m.kind = .str "move") {x : Float} (hx : Interpreter.amount m "steps" = .ok x) :
    ∃ a' m' y, (s.after (.swapMoves first second)).actor? id = some a' ∧
      Forest.find? m.id a'.blocks = some m' ∧ m'.kind = .str "move" ∧
      Interpreter.amount m' "steps" = .ok y ∧
      (m.StepsNumeric → Double.Opposed x y) ∧ (¬ m.StepsNumeric → y = x) := by
  have hcan : s.canSwap first second :=
    hs.canSwap_iff.mpr ⟨hne, hs.actor?_isSome_iff.mp hfirst, hs.actor?_isSome_iff.mp hsecond⟩
  have htyped := (hs a (mem_of_actor? ha)).blocks m hm
  have hfound : Forest.find? m.id a.blocks = some m := hd.find?_self hm htyped.id
  have hmoves : m.moves := by rw [Block.moves, Block.hasKind, hkind]; rfl
  have hturns : Forest.turns a.blocks m = true := by simp [Forest.turns, hmoves]
  obtain ⟨fields, hfields⟩ := htyped.params
  let m' : Block :=
    { m with children := Forest.rebuild (fun b => b.turnIf (Forest.turns a.blocks b)) m.children
      }.turnIf true
  have hfound' : Forest.find? m.id (Forest.turnMoves a.blocks) = some m' := by
    rw [Forest.find?_turnMoves, hfound, Option.map_some, hturns]
  have hfields' : m'.params = .object (Fields.turn "steps" fields) :=
    Block.turnIf_params (b := { m with children := _ }) hfields
  obtain ⟨y, hy, hopposed, hsame⟩ := Interpreter.amount_turned hfields hfields' hx
  exact ⟨a.turnMoves, m', y, hs.actor?_after_swapMoves hcan hid ha, hfound', hkind, hy, hopposed,
    hsame⟩

/-- A move by some steps. -/
def hop (steps : Datum) : Block := ⟨.str "m", .str "move", .object [("steps", steps)], []⟩

/-- A frog with a move inside a repetition. -/
def frog (steps : Datum) : Actor where
  id := .str "frog"
  name := .str "Frog"
  blocks := [⟨.str "r", .str "repeat", .object [("times", .num (.int 2))], [hop steps]⟩]

/-- A newt with a move. -/
def newt (steps : Datum) : Actor where
  id := .str "newt"
  name := .str "Newt"
  blocks := [hop steps]

/-- A frog and a newt that go some steps each. -/
def pond (steps : Datum) : Snapshot where
  actors := [frog steps, newt steps]
  activeActorId := .str "frog"

theorem pond_typed (steps : Datum) : (pond steps).Typed := by
  intro a ha
  simp only [pond, List.mem_cons, List.not_mem_nil, or_false] at ha
  rcases ha with rfl | rfl
  · refine ⟨⟨_, rfl⟩, fun b hb => ?_⟩
    simp [frog, hop] at hb
    rcases hb with rfl | rfl <;> exact ⟨⟨⟨_, rfl⟩, ⟨_, rfl⟩⟩, _, rfl⟩
  · refine ⟨⟨_, rfl⟩, fun b hb => ?_⟩
    simp [newt, hop] at hb
    obtain rfl := hb
    exact ⟨⟨⟨_, rfl⟩, ⟨_, rfl⟩⟩, _, rfl⟩

/-- A frog that went ten steps ahead goes ten steps back after a swap. -/
theorem frog_reversed :
    let ten := Datum.num (.int 10)
    let s := pond ten
    s.Typed ∧ Forest.Distinct (frog ten).blocks ∧ hop ten ∈ Forest.preorder (frog ten).blocks ∧
      Interpreter.amount (hop ten) "steps" = .ok 10.0 ∧
      ∃ a m, (s.after (.swapMoves (.str "newt") (.str "frog"))).actor? (.str "frog") = some a ∧
        Forest.find? (.str "m") a.blocks = some m ∧ Interpreter.amount m "steps" = .ok (-10.0) := by
  intro ten s
  have hne : Datum.str "newt" ≠ .str "frog" := by simp
  have hd : Forest.Distinct (frog ten).blocks := by unfold Forest.Distinct; decide
  have hm : hop ten ∈ Forest.preorder (frog ten).blocks := by simp [frog]
  have hx : Interpreter.amount (hop ten) "steps" = .ok 10.0 := by decide +kernel
  refine ⟨pond_typed ten, hd, hm, hx, ?_⟩
  obtain ⟨a, m, y, ha, hfound, -, hy, hopposed, -⟩ :=
    swapped_steps (pond_typed ten) hne rfl rfl (.inr rfl) rfl hd hm rfl hx
  have hnumeric : (hop ten).StepsNumeric := fun d hd => ⟨.int 10, (Option.some.inj hd).symm⟩
  have hten : (10.0 : Float) ≠ Double.zero := by decide +kernel
  obtain rfl : y = -10.0 := (hopposed hnumeric).resolve_right fun h => hten h.1
  exact ⟨a, m, ha, hfound, hy⟩

/-- A newt whose steps are a text goes ten steps ahead before and after a swap. -/
theorem newt_not_reversed :
    let ten := Datum.str "10"
    let s := pond ten
    s.Typed ∧ (s.actor? (.str "newt")).map (·.blocks) = some [hop ten] ∧
      Interpreter.amount (hop ten) "steps" = .ok 10.0 ∧
      ∃ a m, (s.after (.swapMoves (.str "frog") (.str "newt"))).actor? (.str "newt") = some a ∧
        Forest.find? (.str "m") a.blocks = some m ∧ Interpreter.amount m "steps" = .ok 10.0 ∧
        ¬ Double.Opposed 10.0 10.0 := by
  intro ten s
  have hnot : ¬ Double.Opposed 10.0 10.0 := by
    rintro (h | ⟨h, -⟩)
    · exact absurd h (by decide +kernel)
    · exact absurd h (by decide +kernel)
  have hcan : s.canSwap (.str "frog") (.str "newt") := by decide +kernel
  have ha := (pond_typed ten).actor?_after_swapMoves hcan (.inr rfl) (a := newt ten) rfl
  exact ⟨pond_typed ten, rfl, by decide +kernel, _, hop ten, ha, rfl, by decide +kernel, hnot⟩

end Snapshot

end SpriteStage
