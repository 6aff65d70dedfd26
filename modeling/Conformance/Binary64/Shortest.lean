/-
The shortest decimal that reads back as a given binary64 number.

The decimals that round to a number form an interval around it, half a step
wide on each side. Its ends belong to it exactly when the mantissa is even,
for a tie goes to the even neighbour. On the grid of decimals of a given
length only the two neighbours of the number itself matter: if any point of
the grid lies in the interval, so does one of them. The first grid, from one
digit up, that has such a neighbour gives the answer, and of two neighbours
the nearer one is taken.
-/
import Conformance.Binary64

namespace Conformance

/-- The decimal `digits · 10^exponent`. -/
structure Decimal where
  digits : Nat
  exponent : Int
  deriving DecidableEq, Repr

namespace Decimal

/-- The number of digits after the point when written without an exponent. -/
def places (d : Decimal) : Nat := (-d.exponent).toNat

end Decimal

namespace Binary64

/-- The magnitude of a number in quarters of its step, so that the ends of its
interval are whole, with the unit in which they are counted. -/
structure Interval where
  /-- The lower end. -/
  low : Nat
  /-- The number itself. -/
  value : Nat
  /-- The upper end. -/
  high : Nat
  /-- Whether the ends round to the number. -/
  closed : Bool
  /-- All three are counts of `1 / unit`. -/
  unit : Nat

/-- The decimals that round to `x`. Below a power of two the numbers lie twice
as dense, so there the lower half is half as wide. -/
def interval (x : Binary64) : Interval :=
  let scale := Nat.pow 2 x.exponent.toNat
  let below := if x.mantissa = Nat.pow 2 52 ∧ x.exponent > leastExponent then 1 else 2
  { low := (4 * x.mantissa - below) * scale
    value := 4 * x.mantissa * scale
    high := (4 * x.mantissa + 2) * scale
    closed := x.mantissa % 2 == 0
    unit := 4 * Nat.pow 2 (-x.exponent).toNat }

namespace Interval

/-- Whether the point `k · 10^e` rounds to the number. -/
def contains (i : Interval) (e : Int) (k : Nat) : Bool :=
  let point := k * Nat.pow 10 e.toNat * i.unit
  let grid := Nat.pow 10 (-e).toNat
  if i.closed then i.low * grid ≤ point && point ≤ i.high * grid
  else i.low * grid < point && point < i.high * grid

/-- The neighbour of the number on the grid of multiples of `10^e` that rounds
to it; of two the nearer, on a tie the even one. -/
def neighbour? (i : Interval) (e : Int) : Option Nat :=
  let num := i.value * Nat.pow 10 (-e).toNat
  let den := i.unit * Nat.pow 10 e.toNat
  let floor := num / den
  match i.contains e floor && floor != 0, i.contains e (floor + 1) with
  | true, true => some (nearestEven num den)
  | true, false => some floor
  | false, true => some (floor + 1)
  | false, false => none

/-- The first of the grids `10^top`, `10^(top - 1)`, … with a neighbour. -/
def search (i : Interval) : Nat → Int → Decimal
  | 0, e => ⟨i.value * Nat.pow 10 (-e).toNat / (i.unit * Nat.pow 10 e.toNat), e⟩
  | fuel + 1, e =>
    match i.neighbour? e with
    | some k => ⟨k, e⟩
    | none => search i fuel (e - 1)

end Interval

/-- A power of ten above the magnitude: a bit is between 0.30 and 0.31 of a
decimal digit, whichever way the exponent points. -/
def decimalTop (x : Binary64) : Int :=
  let bits := (x.mantissa.log2 : Int) + 1 + x.exponent
  max (bits * 30 / 100) (bits * 31 / 100) + 1

/-- The shortest decimal that reads back as the magnitude of `x`, the nearest
of those. The top is at most a dozen places above the first digit and seventeen
digits always suffice. A trailing zero never occurs, since the coarser grid
before it would have answered. -/
def shortest (x : Binary64) : Decimal :=
  if x.mantissa = 0 then ⟨0, 0⟩ else x.interval.search 40 x.decimalTop

end Binary64

end Conformance
