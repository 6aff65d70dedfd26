/-
Writing JSON values.

There are two layouts. The compact one has no spaces; the indented one puts
every item and member on a line of its own, two spaces deeper than its
bracket, and keeps empty brackets together. Strings escape only what they
must. Reals are written with the fewest digits that read back, plainly while
the first digit stands within sixteen places before the point or five after
it, and with an exponent otherwise.
-/
import Conformance.Json.Basic
import Conformance.Text.Digit

namespace Conformance

-- ============================================================= numbers

/-- The spelling of reals: which decimal exponents of the first digit are
written out. -/
structure RealLayout where
  least : Int
  below : Int

namespace RealLayout

/-- Plain from `0.00001` up to, and without, `1e+16`. -/
def json : RealLayout := ⟨-5, 16⟩

/-- `zeros n` is `n` zeros. -/
def zeros (n : Nat) : String := "".pushn '0' n

/-- A decimal without an exponent; at least one digit follows the point. -/
def plain (digits : String) (exponent : Int) : String :=
  let point := (digits.length : Int) + exponent
  if 0 ≤ exponent then digits ++ zeros exponent.toNat ++ ".0"
  else if 0 < point then
    (digits.take point.toNat).toString ++ "." ++ (digits.drop point.toNat).toString
  else "0." ++ zeros (-point).toNat ++ digits

/-- One digit before the point, none after it if there is no other, and an
exponent with its sign. -/
def scientific (digits : String) (first : Int) : String :=
  let tail := (digits.drop 1).toString
  let mark := if first < 0 then "e-" else "e+"
  (digits.take 1).toString ++ (if tail.isEmpty then "" else "." ++ tail) ++ mark
    ++ toString first.natAbs

/-- The text of a real. -/
def text (layout : RealLayout) (x : Binary64) : String :=
  let d := x.shortest
  let digits := toString d.digits
  let first := (digits.length : Int) - 1 + d.exponent
  (if x.negative then "-" else "") ++
    if layout.least ≤ first ∧ first < layout.below then plain digits d.exponent
    else scientific digits first

end RealLayout

/-- The text of a number. -/
def Number.text : Number → String
  | whole n => toString n
  | real x => RealLayout.json.text x

-- ============================================================= strings

namespace Json

/-- How a character is written between quotes: the quote, the backslash and
the control characters are escaped, by a letter where they have one. -/
def escape : Char → List Char
  | '"' => ['\\', '"']
  | '\\' => ['\\', '\\']
  | '\n' => ['\\', 'n']
  | '\r' => ['\\', 'r']
  | '\t' => ['\\', 't']
  | '\x08' => ['\\', 'b']
  | '\x0c' => ['\\', 'f']
  | c =>
    if c.toNat < 0x20 then
      ['\\', 'u', '0', '0', Text.hexDigit (c.toNat / 16), Text.hexDigit (c.toNat % 16)]
    else [c]

/-- A string in its quotes. -/
def quote (s : String) : String := String.ofList ('"' :: s.toList.flatMap escape ++ ['"'])

-- ============================================================= layouts

mutual

/-- The text of a value without any space. -/
def compact : Json → String
  | null => "null"
  | bool b => if b then "true" else "false"
  | number n => n.text
  | string s => quote s
  | array items => "[" ++ ",".intercalate (compactItems items) ++ "]"
  | object members =>
      String.singleton '{' ++ ",".intercalate (compactMembers members) ++ String.singleton '}'

def compactItems : List Json → List String
  | [] => []
  | v :: rest => compact v :: compactItems rest

def compactMembers : List (String × Json) → List String
  | [] => []
  | (name, v) :: rest => (quote name ++ ":" ++ compact v) :: compactMembers rest

end

/-- A new line `depth` levels deep. -/
def newLine (depth : Nat) : String := "\n".pushn ' ' (2 * depth)

/-- Parts in brackets, each on its own line. -/
def block (opening closing : String) (depth : Nat) (parts : List String) : String :=
  if parts.isEmpty then opening ++ closing
  else
    opening ++ newLine (depth + 1) ++ ("," ++ newLine (depth + 1)).intercalate parts
      ++ newLine depth ++ closing

mutual

/-- The text of a value over several lines, at a given depth. -/
def indented (depth : Nat) : Json → String
  | array items => block "[" "]" depth (indentedItems (depth + 1) items)
  | object members =>
      block (String.singleton '{') (String.singleton '}') depth
        (indentedMembers (depth + 1) members)
  | null => "null"
  | bool b => if b then "true" else "false"
  | number n => n.text
  | string s => quote s

def indentedItems (depth : Nat) : List Json → List String
  | [] => []
  | v :: rest => indented depth v :: indentedItems depth rest

def indentedMembers (depth : Nat) : List (String × Json) → List String
  | [] => []
  | (name, v) :: rest =>
    (quote name ++ ": " ++ indented depth v) :: indentedMembers depth rest

end

end Json

end Conformance
