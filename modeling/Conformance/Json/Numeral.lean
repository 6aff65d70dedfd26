/-
Numerals: numbers as they are written.

A numeral keeps its digits apart from its value. An integer that fits 64 bits
is that whole number. Every other numeral is a real, read in two roundings at
most: the leading digits that fit 64 bits make an integer, which is rounded,
and that is multiplied or divided by one power of ten. Where the power lies
beyond 10^308 the numeral is out of range if it is large, and is divided by
10^308 as often as needed if it is small.
-/
import Conformance.Json.Number

namespace Conformance

/-- A number as written: digits before and after the point, and an exponent. -/
structure Numeral where
  negative : Bool
  whole : List Nat
  fraction : Option (List Nat) := none
  exponent : Option Int := none
  deriving DecidableEq, Repr

namespace Numeral

/-- Appends decimal digits to a value for as long as it stays below `2^64`.
What no longer fits is returned. -/
def keep : Nat → List Nat → Nat × List Nat
  | kept, [] => (kept, [])
  | kept, d :: ds =>
    if kept * 10 + d < Nat.pow 2 64 then keep (kept * 10 + d) ds else (kept, d :: ds)

/-- The largest power of ten that a single step scales by. -/
def largestStep : Nat := 308

/-- Divides by `10^308` once for each of `n`, or until nothing is left. -/
def shrink : Nat → Binary64 → Binary64
  | 0, x => x
  | n + 1, x => if x.isZero then x else shrink n (x.div (.powerOfTen largestStep))

/-- `significand · 10^exponent`, if it is in range. -/
def scale? (significand : Nat) (exponent : Int) : Option Binary64 :=
  let x := Binary64.ofInt significand
  if x.isZero then some x
  else if exponent > largestStep then none
  else if 0 ≤ exponent then
    let y := x.mul (.powerOfTen exponent.toNat)
    if y.isFinite then some y else none
  else
    let down := (-exponent).toNat
    let steps := (down - 1) / largestStep
    some ((shrink steps x).div (.powerOfTen (down - steps * largestStep)))

/-- The number written, unless it is out of range. A negative zero is real, and
so is a negative integer beyond 64 bits. -/
def value? (n : Numeral) : Option Number :=
  let (kept, dropped) := keep 0 n.whole
  let real (significand : Nat) (exponent : Int) :=
    (scale? significand exponent).map fun x => Number.real (x.withSign n.negative)
  match n.fraction, n.exponent, dropped with
  | none, none, [] =>
    if !n.negative then some (.whole kept)
    else if kept = 0 ∨ kept > Nat.pow 2 63 then real kept 0
    else some (.whole (-kept))
  | fraction, exponent, dropped =>
    let digits := fraction.getD []
    let (significand, cut) := keep kept digits
    real significand
      ((dropped.length : Int) - (digits.length - cut.length : Nat) + exponent.getD 0)

end Numeral

end Conformance
