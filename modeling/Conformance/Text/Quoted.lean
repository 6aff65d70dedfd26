/-
Quoted text in messages.

A message shows a text between double quotes, on one line whatever it holds.
What would not show, or would attach itself to its neighbour, is escaped: the
quote, the backslash, line ends and the like by a letter, other characters by
their code point in hexadecimal. Everything that prints stands for itself.
-/
import Conformance.Unicode.Category
import Conformance.Unicode.Property

namespace Conformance

namespace Text

/-- The characters that leave no mark of their own: controls, format
characters, separators, and code points without a character. -/
def unprintable : CodeSet :=
  Category.codes [.control, .format, .surrogate, .privateUse, .unassigned,
    .lineSeparator, .paragraphSeparator, .spaceSeparator]

/-- The characters that extend the one before them. -/
def extending : CodeSet := CodeSet.decode Property.graphemeExtend

/-- The characters that a text may be shown without, fillers among them. -/
def ignorable : CodeSet := CodeSet.decode Property.defaultIgnorableCodePoint

/-- Whether a character may stand for itself. Of the separators only the plain
space may. -/
def standsAlone (c : Char) : Bool :=
  c == ' ' || !(extending.has c || unprintable.has c || ignorable.has c)

/-- A code point in braces, in hexadecimal. -/
def codePoint (c : Char) : List Char :=
  ['\\', 'u', '{'] ++ Nat.toDigits 16 c.toNat ++ ['}']

/-- A character between quotes. -/
def quoteChar : Char → List Char
  | '"' => ['\\', '"']
  | '\\' => ['\\', '\\']
  | '\n' => ['\\', 'n']
  | '\r' => ['\\', 'r']
  | '\t' => ['\\', 't']
  | '\x00' => ['\\', '0']
  | c => if standsAlone c then [c] else codePoint c

/-- A text in its quotes. -/
def quoted (s : String) : String := String.ofList ('"' :: s.toList.flatMap quoteChar ++ ['"'])

/-- A list of texts, each in its quotes. -/
def quotedList (texts : List String) : String :=
  "[" ++ ", ".intercalate (texts.map quoted) ++ "]"

end Text

end Conformance
