import JoinCanvas.Decimal.Binary

/-!
# The fewest digits that read back

A number of the 64 bit format is the nearest one to a whole interval of decimals.  `shortest` tries decimal grids
from coarse to fine and takes, on the first grid that has a point in the interval, the point next to the number;
of two points equally near the even one.

On a grid only the two neighbours of the number need to be tried: if any point of the grid is in the interval,
one of the neighbours is.
-/

namespace JoinCanvas.Decimal

/-- `digits * 10 ^ exponent`. -/
structure Digits where
  digits : Nat
  exponent : Int
deriving DecidableEq, Repr

namespace Binary

/-- Compares `d * 10 ^ t` with `x * 2 ^ e`. -/
def compareDecimal (d : Nat) (t : Int) (x : Nat) (e : Int) : Ordering :=
  let (a, b) := scaledRatio x e
  if 0 ≤ t then compare (d * 10 ^ t.toNat * b) a else compare (d * b) (a * 10 ^ (-t).toNat)

/-- The numerator and denominator of `x * 2 ^ e / 10 ^ t`. -/
def gridRatio (x : Nat) (e : Int) (t : Int) : Nat × Nat :=
  let (a, b) := scaledRatio x e
  if 0 ≤ t then (a, b * 10 ^ t.toNat) else (a * 10 ^ (-t).toNat, b)

/-- The ends of the interval of decimals that read back as the number, four times as large. -/
def interval (x : Binary) : Nat × Nat :=
  let m := 4 * x.significand
  let low := if x.significand = 2 ^ 52 ∧ x.exponent ≠ leastExponent then m - 1 else m - 2
  (low, m + 2)

/-- Whether `d * 10 ^ t` reads back as the number. -/
def readsBack (x : Binary) (d : Nat) (t : Int) : Bool :=
  let (low, high) := x.interval
  let e := x.exponent - 2
  let even := x.significand % 2 == 0
  let above := match compareDecimal d t low e with | .gt => true | .eq => even | .lt => false
  let below := match compareDecimal d t high e with | .lt => true | .eq => even | .gt => false
  above && below

/-- The point of the grid of step `10 ^ t` that is next to the number and reads back as it. -/
def onGrid (x : Binary) (t : Int) : Option Nat :=
  let (num, den) := gridRatio (4 * x.significand) (x.exponent - 2) t
  let floor := num / den
  let near := roundDiv num den
  let far := if near = floor then floor + 1 else floor
  if readsBack x near t then some near else if readsBack x far t then some far else none

/-- Tries `n` grids, from the step `10 ^ t` down. -/
def search (x : Binary) : Nat → Int → Digits
  | 0, t => ⟨roundDiv (gridRatio (4 * x.significand) (x.exponent - 2) t).1
      (gridRatio (4 * x.significand) (x.exponent - 2) t).2, t⟩
  | n + 1, t =>
    match x.onGrid t with
    | some d => ⟨d, t⟩
    | none => search x n (t - 1)

/-- The fewest digits that read back as the magnitude of the number, and of these the nearest ones. -/
def shortest (x : Binary) : Digits :=
  let size : Int := (x.significand.log2 : Int) + x.exponent
  search x 24 (size * 30103 / 100000 + 2)

end Binary

end JoinCanvas.Decimal
