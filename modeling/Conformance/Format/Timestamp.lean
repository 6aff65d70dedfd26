/-
Timestamps: a date, a time of day and an offset.

The date must exist in the Gregorian calendar. A minute may have a sixty-first
second, and a second may be divided into any number of digits. Date and time
are parted by a T of either case or by a space; the offset is a Z of either
case or less than a day, in hours and minutes, after a sign. The minus sign may
be the hyphen or the mathematical sign.
-/

namespace Conformance

namespace Timestamp

/-- The value of a fixed number of digits, and what follows them. -/
def digits : Nat → Nat → List Char → Option (Nat × List Char)
  | 0, n, cs => some (n, cs)
  | count + 1, n, c :: cs =>
    if c.isDigit then digits count (n * 10 + (c.toNat - '0'.toNat)) cs else none
  | _ + 1, _, [] => none

/-- What follows one of some characters. -/
def after (accepted : List Char) : List Char → Option (List Char)
  | c :: cs => if accepted.contains c then some cs else none
  | [] => none

def isLeapYear (year : Nat) : Bool :=
  (year % 4 == 0 && year % 100 != 0) || year % 400 == 0

def daysInMonth (year month : Nat) : Nat :=
  if month = 2 then (if isLeapYear year then 29 else 28)
  else if month ∈ [4, 6, 9, 11] then 30
  else 31

/-- A date that exists. -/
def date (cs : List Char) : Option (List Char) := do
  let (year, cs) ← digits 4 0 cs
  let (month, cs) ← digits 2 0 (← after ['-'] cs)
  let (day, cs) ← digits 2 0 (← after ['-'] cs)
  guard (1 ≤ month ∧ month ≤ 12 ∧ 1 ≤ day ∧ day ≤ daysInMonth year month)
  return cs

/-- The digits after a point, if there is one. -/
def fraction : List Char → Option (List Char)
  | '.' :: cs => do
    let (_, cs) ← digits 1 0 cs
    return cs.dropWhile Char.isDigit
  | cs => some cs

/-- A time of day. -/
def time (cs : List Char) : Option (List Char) := do
  let (hour, cs) ← digits 2 0 cs
  let (minute, cs) ← digits 2 0 (← after [':'] cs)
  let (second, cs) ← digits 2 0 (← after [':'] cs)
  guard (hour ≤ 23 ∧ minute ≤ 59 ∧ second ≤ 60)
  fraction cs

/-- An offset. -/
def offset (cs : List Char) : Option (List Char) :=
  match after ['Z', 'z'] cs with
  | some cs => some cs
  | none => do
    let (hours, cs) ← digits 2 0 (← after ['+', '-', '\u2212'] cs)
    let (minutes, cs) ← digits 2 0 (← after [':'] cs)
    guard (hours ≤ 23 ∧ minutes ≤ 59)
    return cs

/-- Whether a text is a timestamp. -/
def isValid (text : String) : Bool :=
  let rest := do offset (← time (← after ['T', 't', ' '] (← date text.toList)))
  rest == some []

end Timestamp

end Conformance
