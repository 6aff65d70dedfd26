/-
Regular expressions.

An expression is what a written pattern means, free of its flags: letter case
has become part of the sets, and each anchor carries what it needs to know.
Expressions match characters, not bytes.

A machine for an expression may be very much larger than its text, since
counted repetitions multiply. `weight` estimates its size over the bytes of
UTF-8 without building it, and patterns beyond `weightLimit` are refused.
-/
import Conformance.Unicode.Category
import Conformance.Unicode.Property

namespace Conformance

/-- How a position must lie to the words around it: `boundary` and `inside`
compare its two sides, the others ask for one or both. -/
inductive WordSide where
  | boundary
  | inside
  | start
  | finish
  | startHalf
  | finishHalf
  deriving DecidableEq, Repr

/-- A condition on a position. Lines end at a line feed; with `crlf` they end
at a carriage return too, and the pair of both ends one line. -/
inductive Anchor where
  | textStart
  | textEnd
  | lineStart (crlf : Bool)
  | lineEnd (crlf : Bool)
  | word (ascii : Bool) (side : WordSide)
  deriving DecidableEq, Repr

/-- A regular expression. -/
inductive Expression where
  | empty
  | set (s : CodeSet)
  | anchor (a : Anchor)
  | concat (parts : List Expression)
  | alternate (branches : List Expression)
  | repeated (body : Expression) (least : Nat) (most : Option Nat)
  | group (body : Expression)
  deriving Inhabited

-- ============================================================== words

namespace Pattern

/-- Letters, marks, decimal digits, connectors and joiners. -/
def wordCodes : CodeSet :=
  CodeSet.ofList
    [CodeSet.decode Property.alphabetic, CodeSet.decode Property.joinControl,
      Category.codes [.nonspacingMark, .spacingMark, .enclosingMark, .decimalNumber,
        .connectorPunctuation]]

/-- The decimal digits of any script. -/
def digitCodes : CodeSet := Category.codes [.decimalNumber]

def spaceCodes : CodeSet := CodeSet.decode Property.whiteSpace

def asciiDigits : CodeSet := CodeSet.range '0'.toNat '9'.toNat

def asciiSpaces : CodeSet :=
  (CodeSet.range '\t'.toNat '\r'.toNat).union (CodeSet.single ' '.toNat)

def asciiLetters : CodeSet :=
  (CodeSet.range 'A'.toNat 'Z'.toNat).union (CodeSet.range 'a'.toNat 'z'.toNat)

def asciiWord : CodeSet :=
  CodeSet.ofList [asciiDigits, asciiLetters, CodeSet.single '_'.toNat]

end Pattern

namespace WordSide

/-- Whether the condition holds between something that is part of a word or
not, and something that is or not. -/
def holds (side : WordSide) (before after : Bool) : Bool :=
  match side with
  | boundary => before != after
  | inside => before == after
  | start => !before && after
  | finish => before && !after
  | startHalf => !before
  | finishHalf => !after

end WordSide

namespace Anchor

/-- Whether a character, if there is one, is part of a word. -/
def inWord (ascii : Bool) : Option Char → Bool
  | some c => if ascii then Pattern.asciiWord.has c else Pattern.wordCodes.has c
  | none => false

/-- Whether the condition holds between two characters; at an end of the text
there is none. -/
def holds (a : Anchor) (before after : Option Char) : Bool :=
  match a with
  | textStart => before.isNone
  | textEnd => after.isNone
  | lineStart crlf =>
    match before with
    | none => true
    | some '\n' => true
    | some '\r' => crlf && after != some '\n'
    | some _ => false
  | lineEnd crlf =>
    match after with
    | none => true
    | some '\n' => !crlf || before != some '\r'
    | some '\r' => crlf
    | some _ => false
  | word ascii side => side.holds (inWord ascii before) (inWord ascii after)

end Anchor

-- ============================================================= weight

namespace Expression

/-- Bytes that one state takes. -/
def stateWeight : Nat := 32

/-- Bytes that a set takes: a small table if it is ASCII, and otherwise a tree
over the byte sequences of each stretch, of which a stretch that spans planes
needs some dozens. -/
def setWeight (s : CodeSet) : Nat :=
  let stretches := s.ranges
  if stretches.all (·.2 < 0x80) then 2 * stateWeight + 8 * stretches.length
  else
    stretches.foldl (fun total r =>
      total + if r.2 - r.1 < 0x10000 then 62 else 936) (2 * stateWeight)

mutual

/-- Estimates the bytes that the machine for an expression takes. -/
def weight : Expression → Nat
  | empty => stateWeight
  | set s =>
    match s.ranges with
    | [(a, b)] => if a == b then stateWeight * (Char.ofNat a).utf8Size else setWeight s
    | _ => setWeight s
  | anchor _ => stateWeight
  | concat parts => weightOf parts
  | alternate branches => 2 * stateWeight + 4 * branches.length + weightOf branches
  | repeated body least none => max least 1 * weight body + 2 * stateWeight
  | repeated body least (some most) =>
    least * weight body + (most - least) * (weight body + stateWeight + 8) + stateWeight
  | group body => weight body + 2 * stateWeight

def weightOf : List Expression → Nat
  | [] => 0
  | e :: rest => weight e + weightOf rest

end

/-- The heaviest machine that is built. -/
def weightLimit : Nat := 10 * Nat.pow 2 20

end Expression

end Conformance
