/-
JSON numbers.

A number is either whole or real. Whole numbers are exact integers and are
compared, and divided into one another, exactly. As soon as a real takes part
the comparison is one of binary64 values, and divisibility is decided on the
decimal spelling, so that 0.3 is a multiple of 0.1 although neither is stored
exactly.
-/
import Conformance.Binary64.Shortest

namespace Conformance

/-- A JSON number. The two kinds never equal one another: `1` is whole and
`1.0` is real. -/
inductive Number where
  | whole (n : Int)
  | real (x : Binary64)
  deriving DecidableEq, Repr

namespace Number

/-- The nearest binary64 value. -/
def toBinary64 : Number → Binary64
  | whole n => .ofInt n
  | real x => x

/-- Equality within a kind; the two real zeros are equal. -/
def same : Number → Number → Bool
  | whole m, whole n => m == n
  | real x, real y => x.same y
  | _, _ => false

/-- Whole numbers are compared as integers, anything else as binary64. -/
def compare : Number → Number → Ordering
  | whole m, whole n => Ord.compare m n
  | a, b => a.toBinary64.compare b.toBinary64

/-- Whether the number has no fractional part. -/
def isWhole : Number → Bool
  | whole _ => true
  | real x => x.isWhole

/-- Whether the number is above zero. -/
def isPositive : Number → Bool
  | whole n => 0 < n
  | real x => !x.negative && !x.isZero

/-- A number of things: a whole number from zero up, written either way. The
largest count is `2^64 - 1`, and `2^64`, the real next above it, stands for
it. -/
def count? : Number → Option Nat
  | whole n => if 0 ≤ n then some n.toNat else none
  | real x =>
    if x.isWhole && 0 ≤ x.nearestWhole && x.nearestWhole ≤ Nat.pow 2 64 then
      some (min x.nearestWhole.toNat (Nat.pow 2 64 - 1))
    else none

-- ======================================================== divisibility

/-- Digits after the point in the shortest decimal spelling. -/
def places (x : Binary64) : Nat := x.shortest.places

/-- A scaled value this large may no longer be an exact integer. -/
def exactBelow : Nat := 9 * Nat.pow 10 15

/-- How far a quotient may be from a whole number and still count as one. -/
def tolerance : Binary64 := .roundRatio false 1 (Nat.pow 10 9)

/-- The quotient is whole up to the tolerance. An overflowing quotient is
not. -/
def nearlyWhole (q : Binary64) : Bool :=
  let (distance, unit) := q.distanceToWhole
  q.isFinite &&
    distance * Nat.pow 2 (-tolerance.exponent).toNat < tolerance.mantissa * unit

/-- Divisibility of binary64 values. Both are scaled by the power of ten that
clears their decimals, rounded to integers and divided exactly; where the
scaled integers would be too large to be exact, the quotient decides. -/
def dividesReal (step value : Binary64) : Bool :=
  let decimals := max (places value) (places step)
  let scaledValue := (value.mul (.powerOfTen decimals)).nearestWhole
  let scaledStep := (step.mul (.powerOfTen decimals)).nearestWhole
  if decimals ≤ 15 ∧ scaledStep ≠ 0 ∧
      scaledValue.natAbs < exactBelow ∧ scaledStep.natAbs < exactBelow then
    scaledValue % scaledStep == 0
  else nearlyWhole (value.div step)

/-- Whether `n` is a multiple of `step`. Nothing is a multiple of zero. -/
def isMultipleOf (n step : Number) : Bool :=
  match n, step with
  | whole m, whole k => k != 0 && m % k == 0
  | _, _ =>
    !step.toBinary64.isZero && dividesReal step.toBinary64 n.toBinary64

end Number

end Conformance
