/-
Binary64 numbers in exact integer arithmetic.

A number is a sign, a mantissa and a power of two. Nothing here touches the
machine's floating point: every operation computes its exact result as a
ratio of naturals and rounds once, to the nearest value and to the even
neighbour on a tie, so results can be computed in proofs as well as run.

Overflow needs no value of its own. Rounding never bounds the exponent from
above; a result beyond the largest finite value keeps its exponent, and
`isFinite` tells it apart.
-/

namespace Conformance

/-- The number `(-1)^negative · mantissa · 2^exponent`.

Every value made by `roundRatio` has a mantissa of exactly 53 bits, or has
the least exponent, -1074, and a mantissa below 2^53. Zero has a sign. -/
structure Binary64 where
  negative : Bool
  mantissa : Nat
  exponent : Int
  deriving DecidableEq, Repr

namespace Binary64

-- ======================================================== exact values

/-- The least exponent: the spacing of the subnormal numbers is 2^-1074. -/
def leastExponent : Int := -1074

/-- A number overflows when its exponent exceeds 971, for a 53-bit mantissa
times 2^971 is just below 2^1024. -/
def isFinite (x : Binary64) : Bool := x.exponent ≤ 971

/-- Either zero. -/
def isZero (x : Binary64) : Bool := x.mantissa == 0

/-- The mantissa with its sign. -/
def signed (x : Binary64) : Int :=
  if x.negative then -(x.mantissa : Int) else x.mantissa

/-- The value as an integer count of steps of `2^e`, exact when `e` is at
most the exponent. -/
def stepsOf (e : Int) (x : Binary64) : Int :=
  x.signed * Nat.pow 2 (x.exponent - e).toNat

/-- Values are ordered as real numbers; the two zeros are equal. -/
def compare (x y : Binary64) : Ordering :=
  let e := min x.exponent y.exponent
  Ord.compare (x.stepsOf e) (y.stepsOf e)

/-- Equality of values; the two zeros are equal. -/
def same (x y : Binary64) : Bool := x.compare y == .eq

/-- Whether the value is a whole number. -/
def isWhole (x : Binary64) : Bool :=
  0 ≤ x.exponent || x.mantissa % Nat.pow 2 (-x.exponent).toNat == 0

/-- The nearest whole number, halves going away from zero. -/
def nearestWhole (x : Binary64) : Int :=
  let magnitude :=
    if 0 ≤ x.exponent then x.mantissa * Nat.pow 2 x.exponent.toNat
    else
      let unit := Nat.pow 2 (-x.exponent).toNat
      (2 * x.mantissa + unit) / (2 * unit)
  if x.negative then -(magnitude : Int) else magnitude

-- =========================================================== rounding

/-- The nearest natural to `a / b`, the even one on a tie. -/
def nearestEven (a b : Nat) : Nat :=
  let q := a / b
  match Ord.compare (2 * (a % b)) b with
  | .lt => q
  | .gt => q + 1
  | .eq => q + q % 2

/-- The ratio `num / den` measured in steps of `2^e`, again as a ratio. -/
def inSteps (num den : Nat) (e : Int) : Nat × Nat :=
  (num * Nat.pow 2 (-e).toNat, den * Nat.pow 2 e.toNat)

/-- The exponent at which `num / den` has a 53-bit mantissa, but never less
than the least. The bit lengths fix it up to one. -/
def exponentFor (num den : Nat) : Int :=
  let e : Int := (num.log2 : Int) - den.log2 - 52
  let (a, b) := inSteps num den e
  max leastExponent (if a / b < Nat.pow 2 52 then e - 1 else e)

/-- The number nearest to `num / den`. A mantissa that rounds up to 2^53 is
carried into the exponent. -/
def roundRatio (negative : Bool) (num den : Nat) : Binary64 :=
  if num = 0 then ⟨negative, 0, leastExponent⟩
  else
    let e := exponentFor num den
    let (a, b) := inSteps num den e
    let m := nearestEven a b
    if m = Nat.pow 2 53 then ⟨negative, Nat.pow 2 52, e + 1⟩ else ⟨negative, m, e⟩

/-- The number nearest to an integer. -/
def ofInt (n : Int) : Binary64 := roundRatio (n < 0) n.natAbs 1

/-- The number nearest to a power of ten. -/
def powerOfTen (k : Nat) : Binary64 := roundRatio false (Nat.pow 10 k) 1

-- ========================================================= arithmetic

/-- The product, rounded once. -/
def mul (x y : Binary64) : Binary64 :=
  let e := x.exponent + y.exponent
  roundRatio (x.negative != y.negative)
    (x.mantissa * y.mantissa * Nat.pow 2 e.toNat) (Nat.pow 2 (-e).toNat)

/-- The quotient, rounded once, for a divisor that is not zero. -/
def div (x y : Binary64) : Binary64 :=
  let e := x.exponent - y.exponent
  roundRatio (x.negative != y.negative)
    (x.mantissa * Nat.pow 2 e.toNat) (y.mantissa * Nat.pow 2 (-e).toNat)

/-- The same magnitude with the given sign. -/
def withSign (negative : Bool) (x : Binary64) : Binary64 := { x with negative }

/-- How far the value is from the nearest whole number, as a ratio. A number
of any size has this distance exactly. -/
def distanceToWhole (x : Binary64) : Nat × Nat :=
  let unit : Nat := Nat.pow 2 (-x.exponent).toNat
  let value := x.signed * Nat.pow 2 x.exponent.toNat
  ((value - x.nearestWhole * unit).natAbs, unit)

end Binary64

end Conformance
