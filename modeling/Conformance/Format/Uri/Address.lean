/-
Numeric addresses of hosts.

The short form has up to four numbers joined by dots, in decimal, octal or
hexadecimal; the last fills the bytes that the others leave. The long form has
eight groups of hexadecimal digits joined by colons; one gap may stand for
groups of zeros, and four plain decimal numbers for the last two groups.
-/
import Conformance.Text.Digit
import Conformance.Text.Split

namespace Conformance

namespace Address

-- ========================================================== short form

/-- A number of the short form. `0x` leads in hexadecimal digits, which may be
missing, and another leading zero octal ones. -/
def number? : List Char → Option Nat
  | [] => none
  | '0' :: 'x' :: digits | '0' :: 'X' :: digits => Text.natural? 16 digits
  | '0' :: c :: digits => Text.natural? 8 (c :: digits)
  | digits => Text.natural? 10 digits

/-- The parts of a name between dots. A dot at the end adds none. -/
def labels (cs : List Char) : List (List Char) :=
  match (Text.split '.' cs).reverse with
  | [] :: (part :: parts) => (part :: parts).reverse
  | parts => parts.reverse

/-- Whether the last part of a name is a number, so that the name must be an
address. -/
def endsInNumber (cs : List Char) : Bool :=
  match (labels cs).getLast? with
  | none => false
  | some last => (!last.isEmpty && last.all Char.isDigit) || (number? last).isSome

/-- Whether a text is an address of the short form. -/
def isShort (cs : List Char) : Bool :=
  match (labels cs).mapM number? with
  | none => false
  | some numbers =>
    match numbers.reverse with
    | [] => false
    | last :: others =>
      others.length < 4 && others.all (· < 256) && last < Nat.pow 256 (4 - others.length)

-- =========================================================== long form

/-- Whether a text is a group: one to four hexadecimal digits. -/
def isGroup (cs : List Char) : Bool :=
  1 ≤ cs.length && cs.length ≤ 4 && cs.all Text.isHexDigit

/-- Whether a text is a byte in decimal, without leading zeros. -/
def isByte (cs : List Char) : Bool :=
  1 ≤ cs.length && cs.length ≤ 3 && (cs == ['0'] || cs.head? != some '0') &&
    (Text.natural? 10 cs).any (· < 256)

/-- Whether a text is four bytes joined by dots. -/
def isDotted (cs : List Char) : Bool :=
  let bytes := Text.split '.' cs
  bytes.length == 4 && bytes.all isByte

/-- How many groups the texts between colons make. The last may be four bytes,
which count as two. -/
def groups? : List (List Char) → Option Nat
  | [] => some 0
  | [last] => if isGroup last then some 1 else if isDotted last then some 2 else none
  | group :: rest => if isGroup group then (groups? rest).map (· + 1) else none

/-- The text before and after the first gap. -/
def atGap? : List Char → Option (List Char × List Char)
  | ':' :: ':' :: rest => some ([], rest)
  | c :: rest => (atGap? rest).map fun (before, after) => (c :: before, after)
  | [] => none

/-- How many groups there are on one side of a gap. Before it all are
hexadecimal. -/
def side? (cs : List Char) : Option Nat :=
  if cs.isEmpty then some 0 else groups? (Text.split ':' cs)

/-- Whether a text is an address of the long form. -/
def isLong (cs : List Char) : Bool :=
  match atGap? cs with
  | none => groups? (Text.split ':' cs) == some 8
  | some (before, after) =>
    !before.contains '.' &&
      match side? before, side? after with
      | some m, some n => m + n < 8
      | _, _ => false

end Address

end Conformance
