/-
Transcripts: JSON texts as they are written.

A transcript is the tree of a text before any decision about its meaning.
Numerals keep their digits, repeated members stay apart, and a string whose
escapes spell no text is kept as `none`. Readers of typed records need that
much: they refuse repeated fields and pass over members they do not know,
whatever those hold. The value of a transcript is decided in `Json.Reader`.

Reading is structural. Values recurse on how deeply they may still nest, and
the items of one array or object on a count of how many they may be: the length
of the text, which they cannot outnumber.
-/
import Conformance.Json.Numeral
import Conformance.Text.Digit

namespace Conformance

/-- A JSON text as written. -/
inductive Transcript where
  | null
  | bool (b : Bool)
  | number (n : Numeral)
  | string (text : Option String)
  | array (items : List Transcript)
  | object (members : List (Option String × Transcript))
  deriving Inhabited, Repr

namespace Transcript

/-- What a reading step yields: a result and the rest of the text. -/
abbrev Step (α : Type) := List Char → Option (α × List Char)

def isBlank (c : Char) : Bool := c == ' ' || c == '\t' || c == '\n' || c == '\r'

def skipBlanks (cs : List Char) : List Char := cs.dropWhile isBlank

-- ============================================================= strings

/-- One element of a quoted string: a character that stands for itself, or a
16-bit unit written in hexadecimal. -/
inductive Piece where
  | char (c : Char)
  | unit (n : Nat)

/-- The value of four hexadecimal digits. -/
def hexUnit? (a b c d : Char) : Option Nat :=
  Text.natural? 16 [a, b, c, d]

/-- The character that a single-letter escape stands for. -/
def escaped? : Char → Option Char
  | '"' => some '"'
  | '\\' => some '\\'
  | '/' => some '/'
  | 'b' => some '\x08'
  | 'f' => some '\x0c'
  | 'n' => some '\n'
  | 'r' => some '\r'
  | 't' => some '\t'
  | _ => none

/-- Reads up to the closing quote. A control character may not stand for
itself. -/
def pieces (read : List Piece) : Step (List Piece)
  | '"' :: rest => some (read.reverse, rest)
  | '\\' :: 'u' :: a :: b :: c :: d :: rest =>
    match hexUnit? a b c d with
    | some n => pieces (.unit n :: read) rest
    | none => none
  | '\\' :: e :: rest =>
    match escaped? e with
    | some c => pieces (.char c :: read) rest
    | none => none
  | c :: rest => if c.toNat < 0x20 || c == '\\' then none else pieces (.char c :: read) rest
  | [] => none

/-- The text the pieces spell, after what is spelled already. Units above
0xD800 stand for a character only as a high one followed by a low one. -/
def spell (spelled : List Char) : List Piece → Option (List Char)
  | [] => some spelled.reverse
  | .char c :: rest => spell (c :: spelled) rest
  | .unit high :: .unit low :: rest =>
    if 0xD800 ≤ high ∧ high < 0xDC00 ∧ 0xDC00 ≤ low ∧ low < 0xE000 then
      let c := 0x10000 + (high - 0xD800) * 0x400 + (low - 0xDC00)
      spell (.ofNat c :: spelled) rest
    else if 0xD800 ≤ high ∧ high < 0xE000 then none
    else spell (.ofNat high :: spelled) (.unit low :: rest)
  | .unit n :: rest =>
    if 0xD800 ≤ n ∧ n < 0xE000 then none else spell (.ofNat n :: spelled) rest

/-- A string after its opening quote. -/
def quoted : Step (Option String) := fun cs =>
  (pieces [] cs).map fun (read, rest) => ((spell [] read).map String.ofList, rest)

-- ============================================================ numerals

def digitsOf (cs : List Char) : List Nat × List Char :=
  ((cs.takeWhile Char.isDigit).map fun c => c.toNat - '0'.toNat, cs.dropWhile Char.isDigit)

/-- The digits before the point: a single zero, or digits that start with
none. -/
def wholeDigits : Step (List Nat) := fun cs =>
  match digitsOf cs with
  | ([], _) => none
  | ([d], rest) => some ([d], rest)
  | (0 :: _, _) => none
  | found => some found

/-- The digits after the point, if there is one. -/
def fractionDigits : Step (Option (List Nat))
  | '.' :: cs =>
    match digitsOf cs with
    | ([], _) => none
    | (digits, rest) => some (some digits, rest)
  | cs => some (none, cs)

/-- The exponent after its sign. -/
def exponentDigits (negative : Bool) : Step (Option Int) := fun cs =>
  match digitsOf cs with
  | ([], _) => none
  | (digits, rest) =>
    let n := Text.ofDigits 10 digits
    some (some (if negative then -(n : Int) else n), rest)

/-- The exponent, if there is one. -/
def exponentPart : Step (Option Int)
  | e :: cs =>
    if e == 'e' || e == 'E' then
      match cs with
      | '-' :: rest => exponentDigits true rest
      | '+' :: rest => exponentDigits false rest
      | _ => exponentDigits false cs
    else some (none, e :: cs)
  | [] => some (none, [])

def numeral (negative : Bool) : Step Numeral := fun cs => do
  let (whole, cs) ← wholeDigits cs
  let (fraction, cs) ← fractionDigits cs
  let (exponent, cs) ← exponentPart cs
  return (⟨negative, whole, fraction, exponent⟩, cs)

-- ============================================================== values

/-- One word must come next. -/
def expect (word : List Char) (t : Transcript) : Step Transcript := fun cs =>
  if word.isPrefixOf cs then some (t, cs.drop word.length) else none

/-- Items separated by commas up to a closing bracket. The first is there; there
may be `limit` of them. -/
def separated {α : Type} (close : Char) (item : Step α) : Nat → List α → Step (List α)
  | 0, _, _ => none
  | limit + 1, read, cs => do
    let (x, cs) ← item cs
    match skipBlanks cs with
    | ',' :: cs => separated close item limit (x :: read) cs
    | c :: cs => if c == close then some ((x :: read).reverse, cs) else none
    | [] => none

/-- A bracketed list of up to `limit` items after its opening bracket. -/
def bracketed {α : Type} (limit : Nat) (close : Char) (item : Step α) : Step (List α) :=
  fun cs =>
    match skipBlanks cs with
    | c :: rest => if c == close then some ([], rest) else separated close item limit [] cs
    | [] => none

/-- A member: a quoted name, a colon and a value. -/
def member (value : Step Transcript) : Step (Option String × Transcript) := fun cs =>
  match skipBlanks cs with
  | '"' :: cs => do
    let (name, cs) ← quoted cs
    match skipBlanks cs with
    | ':' :: cs =>
      let (v, cs) ← value cs
      return ((name, v), cs)
    | _ => none
  | _ => none

/-- A value whose arrays and objects may hold `limit` items each and nest
`depth` deep. -/
def value (limit depth : Nat) : Step Transcript := fun cs =>
  match skipBlanks cs with
  | '"' :: rest => (quoted rest).map fun (s, rest) => (.string s, rest)
  | '[' :: rest =>
    match depth with
    | 0 => none
    | depth + 1 =>
      (bracketed limit ']' (value limit depth) rest).map fun (items, rest) =>
        (.array items, rest)
  | '{' :: rest =>
    match depth with
    | 0 => none
    | depth + 1 =>
      (bracketed limit '}' (member (value limit depth)) rest).map fun (ms, rest) =>
        (.object ms, rest)
  | '-' :: rest => (numeral true rest).map fun (n, rest) => (.number n, rest)
  | 'n' :: rest => expect "ull".toList .null rest
  | 't' :: rest => expect "rue".toList (.bool true) rest
  | 'f' :: rest => expect "alse".toList (.bool false) rest
  | rest => (numeral false rest).map fun (n, rest) => (.number n, rest)

/-- The transcript of a text that holds one value and blanks around it. -/
def read? (depth : Nat) (text : String) : Option Transcript :=
  match value text.length depth text.toList with
  | some (t, rest) => if (skipBlanks rest).isEmpty then some t else none
  | none => none

end Transcript

end Conformance
