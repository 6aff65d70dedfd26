/-
Reading Punycode.

A label that is not ASCII is written in letters, digits and hyphens: first its
ASCII characters, then, after the last hyphen, where the others go. Those are
inserted by ascending code point, and each insertion is one number: how many
pairs of a code point and a place are skipped since the insertion before. A
number is written from its lowest digit up, in digits of base 36 whose weights
depend on a bias that follows the size of the numbers so far.
-/

namespace Conformance

namespace Punycode

/-- Numbers must stay below this. -/
def limit : Nat := Nat.pow 2 32

/-- The value of a digit: letters first, then decimal digits. -/
def digit? (c : Char) : Option Nat :=
  if 'a' ≤ c ∧ c ≤ 'z' then some (c.toNat - 'a'.toNat)
  else if 'A' ≤ c ∧ c ≤ 'Z' then some (c.toNat - 'A'.toNat)
  else if '0' ≤ c ∧ c ≤ '9' then some (c.toNat - '0'.toNat + 26)
  else none

/-- A digit below its threshold is the last of its number. The threshold of the
digit at a position lies between 1 and 26. -/
def threshold (position bias : Nat) : Nat := max 1 (min 26 (position - bias))

/-- A number read, and the shorter text that follows it. -/
abbrev Read (cs : List Char) := Option (Nat × { rest : List Char // rest.length < cs.length })

/-- Reads a number on from a digit of the given position and weight. -/
def number (bias : Nat) : (position weight value : Nat) → (cs : List Char) → Read cs
  | _, _, _, [] => none
  | position, weight, value, c :: cs => do
    let digit ← digit? c
    let value := value + digit * weight
    guard (value < limit)
    let t := threshold position bias
    if digit < t then return (value, ⟨cs, by simp⟩)
    else
      let weight := weight * (36 - t)
      guard (weight < limit)
      let (value, rest) ← number bias (position + 36) weight value cs
      return (value, ⟨rest.val, by have := rest.property; simp; omega⟩)

/-- How often 35 goes into a number until at most 455 is left, and what is left.
Each time counts as one position. -/
def scale (delta : Nat) : Nat × Nat :=
  if 455 < delta then
    let (position, left) := scale (delta / 35)
    (position + 36, left)
  else (0, delta)
termination_by delta
decreasing_by exact Nat.div_lt_self (by omega) (by omega)

/-- The bias after a number, given how many characters there are now. The first
number is damped more than later ones. -/
def adapt (delta size : Nat) (first : Bool) : Nat :=
  let delta := if first then delta / 700 else delta / 2
  let (position, left) := scale (delta + delta / size)
  position + 36 * left / (left + 38)

/-- Whether a number is the code point of a character. -/
def isScalar (n : Nat) : Bool := n < 0xD800 || (0xDFFF < n && n < 0x110000)

/-- Inserts the characters that are left: `code` is the code point reached and
`place` where it would go next. -/
def insert (bias code place : Nat) (label : List Char) (cs : List Char) : Option (List Char) :=
  if cs.isEmpty then some label
  else
    match number bias 36 1 place cs with
    | none => none
    | some (reached, rest) =>
      let size := label.length + 1
      let code := code + reached / size
      if isScalar code then
        insert (adapt (reached - place) size (place == 0)) code (reached % size + 1)
          (label.insertIdx (reached % size) (Char.ofNat code)) rest
      else none
termination_by cs.length
decreasing_by exact rest.property

/-- The characters before the last hyphen, and those after it. A hyphen that
comes first parts nothing. -/
def parts (cs : List Char) : List Char × List Char :=
  let tail := (cs.reverse.takeWhile (· != '-')).reverse
  let plain := cs.take (cs.length - tail.length - 1)
  if plain.isEmpty then ([], cs) else (plain, tail)

/-- The label that is written so, if one is. -/
def decode? (cs : List Char) : Option (List Char) :=
  let (plain, tail) := parts cs
  insert 72 128 0 plain tail

end Punycode

end Conformance
