import SpriteStage.Number.Double

/-!
# The fewest digits that read back

Many decimals round to the same double. The one that stands for it here has the fewest digits, and
of those it is the nearest to the double; of two equally near ones, the one with the even last
digit. The search goes over grids of one, two, up to seventeen digits and asks of the two
neighbours of the double on each grid whether they round to it.
-/

namespace SpriteStage

/-- The number `digits * 10 ^ exponent`. -/
structure Decimal where
  digits : Nat
  exponent : Int
  deriving DecidableEq, Inhabited

namespace Decimal

/-- Compares `a * 10 ^ i` with `n * 2 ^ j`. -/
def compareScaled (a : Nat) (i : Int) (n : Nat) (j : Int) : Ordering :=
  compare (a * Nat.pow 10 i.toNat * Nat.pow 2 (-j).toNat)
    (n * Nat.pow 2 j.toNat * Nat.pow 10 (-i).toNat)

/-- Whether the decimal rounds to the double `m * 2 ^ e`: it lies between the points half way to the
double below and half way to the double above, and may be one of these points if `m` is even. Below
a power of two the gap is half as wide. -/
def readsBack (d : Decimal) (m : Nat) (e : Int) : Bool :=
  let narrow := m == Nat.pow 2 52 && e > -1074
  let low := if narrow then 4 * m - 1 else 4 * m - 2
  let fromLow := compareScaled d.digits d.exponent low (e - 2)
  let fromHigh := compareScaled d.digits d.exponent (4 * m + 2) (e - 2)
  let even := m % 2 == 0
  (fromLow == .gt || even && fromLow == .eq) && (fromHigh == .lt || even && fromHigh == .eq)

/-- The least `k` with `m * 2 ^ e < 10 ^ k`, found near the estimate from the number of bits. -/
def magnitude (m : Nat) (e : Int) : Int :=
  let guess := ((m.log2 : Int) + e) * 30103 / 100000
  let fits (k : Int) : Bool := compareScaled 1 k m e == .gt
  if fits guess then guess else if fits (guess + 1) then guess + 1 else guess + 2

/-- The neighbours of `m * 2 ^ e` on the grid of multiples of `10 ^ g`: the lower one, and whether
the upper one is nearer, where of two equally near ones the one with an even last digit counts. -/
def neighbours (m : Nat) (e g : Int) : Nat × Bool :=
  let num := m * Nat.pow 2 e.toNat * Nat.pow 10 (-g).toNat
  let den := Nat.pow 2 (-e).toNat * Nat.pow 10 g.toNat
  let low := num / den
  let upperNearer := match compare (2 * (num % den)) den with
    | .lt => false
    | .eq => low % 2 == 1
    | .gt => true
  (low, upperNearer)

/-- The neighbour on the grid that rounds to `m * 2 ^ e`, the nearer one if both do. -/
def onGrid? (m : Nat) (e g : Int) : Option Decimal :=
  let (low, upperNearer) := neighbours m e g
  let below : Decimal := ⟨low, g⟩
  let above : Decimal := ⟨low + 1, g⟩
  match below.readsBack m e, above.readsBack m e with
  | true, true => some (if upperNearer then above else below)
  | true, false => some below
  | false, true => some above
  | false, false => none

/-- The decimal without the zeros at the end of its digits, of which it has at most `fuel`. -/
def strip (d : Decimal) : Nat → Decimal
  | 0 => d
  | fuel + 1 =>
    if d.digits % 10 == 0 && d.digits != 0 then
      strip ⟨d.digits / 10, d.exponent + 1⟩ fuel
    else d

/-- The decimal with the fewest digits that rounds to `m * 2 ^ e`; the exact value if seventeen
digits were not enough. -/
def shortest (m : Nat) (e : Int) : Decimal :=
  let k := magnitude m e
  let grids := (List.range 17).map fun (n : Nat) => k - 1 - n
  let found := grids.findSome? (onGrid? m e)
  let exact : Decimal := ⟨m * Nat.pow 2 e.toNat * Nat.pow 5 (-e).toNat, min e 0⟩
  (found.getD exact).strip 800

end Decimal

end SpriteStage
