/-
Digits and the numbers they make.

Digits are ASCII and go up to base 16, in either case above nine. A number is
read from its highest digit down, and no digits at all make zero.
-/

namespace Conformance

namespace Text

/-- The value of a hexadecimal digit. -/
def hexDigit? (c : Char) : Option Nat :=
  if '0' ≤ c ∧ c ≤ '9' then some (c.toNat - '0'.toNat)
  else if 'a' ≤ c ∧ c ≤ 'f' then some (c.toNat - 'a'.toNat + 10)
  else if 'A' ≤ c ∧ c ≤ 'F' then some (c.toNat - 'A'.toNat + 10)
  else none

/-- Whether a character is a hexadecimal digit. -/
def isHexDigit (c : Char) : Bool := (hexDigit? c).isSome

/-- The number that digits to a base make. -/
def ofDigits (base : Nat) (digits : List Nat) : Nat :=
  digits.foldl (fun n d => n * base + d) 0

/-- The number that a text of digits to a base makes, if it is one. -/
def natural? (base : Nat) (cs : List Char) : Option Nat := do
  let digits ← cs.mapM hexDigit?
  if digits.all (· < base) then some (ofDigits base digits) else none

/-- A digit of base 16 or less as it is written, in small letters. -/
def hexDigit (n : Nat) : Char := "0123456789abcdef".toList.getD n '0'

end Text

end Conformance
