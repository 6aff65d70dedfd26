/-
Universally unique identifiers: five groups of hexadecimal digits of either
case, joined by hyphens.
-/
import Conformance.Text.Digit
import Conformance.Text.Split

namespace Conformance

namespace Uuid

/-- The lengths of the groups. -/
def groupLengths : List Nat := [8, 4, 4, 4, 12]

/-- Whether a text is an identifier in its hyphenated form. -/
def isValid (text : String) : Bool :=
  let groups := Text.split '-' text.toList
  groups.map List.length == groupLengths && groups.all fun group => group.all Text.isHexDigit

end Uuid

end Conformance
