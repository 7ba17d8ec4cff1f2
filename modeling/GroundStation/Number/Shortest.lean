import GroundStation.Number.Binary

/-!
# The shortest decimal that reads back

A positive number `significand * 2 ^ exponent` of a binary format is the nearest
number of its format for every real in an interval around it. `shortest` selects
a decimal `digits * 10 ^ exponent` from that interval on the coarsest decimal
grid that has one, and of two such decimals the closer; an exact tie goes away
from zero.

The search is the definition: grids from one digit on, and on each grid the two
neighbours of the number.
-/

namespace GroundStation

/-- The decimal `digits * 10 ^ exponent`. -/
structure Decimal where
  digits : Nat
  exponent : Int
deriving DecidableEq, Repr

namespace Decimal

/-- Compares `a * 10 ^ i` with `b * 2 ^ j` exactly. -/
def compareBinary (a : Nat) (i : Int) (b : Nat) (j : Int) : Ordering :=
  compare (a * Nat.pow 10 i.toNat * Nat.pow 2 (-j).toNat)
    (b * Nat.pow 2 j.toNat * Nat.pow 10 (-i).toNat)

/-- Moves trailing zeros of the digits into the exponent. -/
def strip (digits : Nat) (exponent : Int) : Decimal :=
  if 0 < digits ∧ digits % 10 = 0 then strip (digits / 10) (exponent + 1)
  else ⟨digits, exponent⟩
termination_by digits
decreasing_by omega

end Decimal

namespace BinaryFormat

/-- Does `d * 10 ^ k` lie among the reals that round to `m * 2 ^ q`? Below a
power of two the gap to the neighbour is half as wide as above it. The ends of
the interval belong to it exactly when `m` is even. -/
def readsBack (f : BinaryFormat) (m : Nat) (q : Int) (d : Nat) (k : Int) : Bool :=
  let narrowBelow := m = f.binade ∧ f.leastExponent < q
  let low := if narrowBelow then 4 * m - 1 else 4 * m - 2
  let atLow := Decimal.compareBinary d k low (q - 2)
  let atHigh := Decimal.compareBinary d k (4 * m + 2) (q - 2)
  let closed := m % 2 = 0
  (atLow = .gt ∨ closed ∧ atLow = .eq) ∧ (atHigh = .lt ∨ closed ∧ atHigh = .eq)

/-- The least `k` with `m * 2 ^ q < 10 ^ k`, searched for around the estimate that
the binary logarithm gives. -/
def decimalScale (m : Nat) (q : Int) : Int :=
  let estimate := ((m.log2 + q) * 1233) / 4096
  let fits := fun k : Int => Decimal.compareBinary 1 k m q == .gt
  (([-1, 0, 1, 2].map fun offset : Int => estimate + offset).find? fits).getD (estimate + 3)

/-- The decimal on the grid `10 ^ k` that reads back as `m * 2 ^ q`, if a neighbour
of the number on that grid does. -/
def onGrid (f : BinaryFormat) (m : Nat) (q k : Int) : Option Decimal :=
  let below := m * Nat.pow 2 q.toNat * Nat.pow 10 (-k).toNat /
    (Nat.pow 2 (-q).toNat * Nat.pow 10 k.toNat)
  let above := below + 1
  let low := f.readsBack m q below k
  let high := f.readsBack m q above k
  let nearLow := Decimal.compareBinary (below + above) k (2 * m) q == .gt
  if low ∧ (nearLow ∨ ¬ high) then some ⟨below, k⟩
  else if high then some ⟨above, k⟩
  else none

/-- The most digits a decimal needs to single out a number of the format. -/
def maxDigits (f : BinaryFormat) : Nat := f.precision * 30103 / 100000 + 2

/-- The shortest decimal that reads back as the positive number `m * 2 ^ q`. -/
def shortest (f : BinaryFormat) (m : Nat) (q : Int) : Decimal :=
  let scale := decimalScale m q
  match (List.range f.maxDigits).findSome? fun n : Nat => f.onGrid m q (scale - (n + 1)) with
  | some d => Decimal.strip d.digits d.exponent
  | none => Decimal.strip (m * Nat.pow 2 q.toNat * Nat.pow 5 (-q).toNat) (min q 0)

end BinaryFormat

end GroundStation
