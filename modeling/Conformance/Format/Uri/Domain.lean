/-
Domain names.

A name is brought to its composed, small-letter form and parted at its dots.
Each label must be fit to be looked up: it does not start with a mark, joiners
stand only where they join, and a label written in Punycode holds what could
not have been written plainly. As soon as one character of the name is written
from right to left, every label must keep a direction of its own.
-/
import Conformance.Format.Uri.Punycode
import Conformance.Text.Split
import Conformance.Unicode.Category
import Conformance.Unicode.Direction
import Conformance.Unicode.DomainMapping
import Conformance.Unicode.Joining
import Conformance.Unicode.Normalization

namespace Conformance

namespace Domain

def isAscii (c : Char) : Bool := c.toNat < 0x80

/-- The ASCII characters that may not stand in a host: blanks and controls, and
what has a meaning of its own in a URI. -/
def isDelimiter (c : Char) : Bool :=
  c ≤ ' ' || c == '\x7f' || "%#/:<>?@[\\]^|".contains c

-- ============================================================== joiners

/-- The marks that suppress a vowel, after which a joiner may stand. -/
def isVirama (c : Char) : Bool := Decomposition.combiningClass c.toNat == 9

/-- The first letter that joining does not look through. -/
def joined? (cs : List Char) : Option Char := cs.find? fun c => !Joining.transparent.has c

/-- Whether every joiner has its place. `before` holds, backwards, what stands
before. Either joiner may follow a virama; the one that parts letters may stand
between letters that would join. -/
def joinersFit (before : List Char) : List Char → Bool
  | [] => true
  | c :: rest =>
    (if c == '\u200c' then
      before.head?.any isVirama ||
        ((joined? before).any Joining.joinsNext && (joined? rest).any Joining.joinsPrevious)
    else if c == '\u200d' then before.head?.any isVirama
    else true) && joinersFit (c :: before) rest

-- =========================================================== directions

/-- The classes that turn a name into one with a direction. -/
def turns : Direction → Bool
  | .rightToLeft | .arabicLetter | .arabicNumber => true
  | _ => false

/-- The classes that either direction admits. -/
def isNeutral : Direction → Bool
  | .europeanNumber | .europeanSeparator | .europeanTerminator | .commonSeparator
  | .nonspacingMark | .boundaryNeutral | .otherNeutral => true
  | _ => false

/-- Whether a label keeps its direction. The first character sets it; the last
one, marks aside, must be a letter of that direction or a number. From right to
left, only one kind of numbers may occur. -/
def keepsDirection (label : List Char) : Bool :=
  let classes := label.map Direction.of
  let last := classes.reverse.find? (· != .nonspacingMark)
  match classes with
  | [] => true
  | .leftToRight :: rest =>
    rest.all (fun d => d == .leftToRight || isNeutral d) &&
      last.any (fun d => d == .leftToRight || d == .europeanNumber)
  | .rightToLeft :: rest | .arabicLetter :: rest =>
    rest.all (fun d => turns d || isNeutral d) &&
      last.any (fun d => turns d || d == .europeanNumber) &&
      !(rest.contains .europeanNumber && rest.contains .arabicNumber)
  | _ => false

-- =============================================================== labels

/-- The marks of every kind. -/
def marks : CodeSet := Category.codes [.nonspacingMark, .spacingMark, .enclosingMark]

/-- Whether a label may stand in a name, whatever its direction. -/
def isFit (label : List Char) : Bool :=
  !label.any isDelimiter && !label.head?.any marks.has && joinersFit [] label

/-- Labels of other characters may not be longer. -/
def longest : Nat := 1000

/-- Labels in Punycode may not be longer. -/
def longestWritten : Nat := 2000

/-- What a label in Punycode stands for. It must not be ASCII and must be in
the form that every name is brought to. -/
def unwritten? (written : List Char) : Option (List Char) := do
  guard (written.length ≤ longestWritten && written.all isAscii)
  let label ← Punycode.decode? written
  guard (!label.all isAscii && label.all DomainMapping.keeps)
  guard (Normalization.composed label == label)
  return label

/-- What a label of a name in its common form stands for. -/
def plain? : List Char → Option (List Char)
  | 'x' :: 'n' :: '-' :: '-' :: written => unwritten? written
  | label => if label.all isAscii || label.length ≤ longest then some label else none

/-- What a label stands for, if it is fit. -/
def label? (label : List Char) : Option (List Char) := (plain? label).filter isFit

/-- The common form of a name, if each of its labels is fit. -/
def ofText? (cs : List Char) : Option (List Char) := do
  let name := Normalization.composed (← cs.mapM DomainMapping.replacement?).flatten
  let labels ← (Text.split '.' name).mapM label?
  guard (!labels.any (·.any fun c => turns (Direction.of c)) || labels.all keepsDirection)
  return name

end Domain

end Conformance
