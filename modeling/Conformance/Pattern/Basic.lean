/-
Patterns: regular expressions ready to be searched for.

A pattern is found in a text if some stretch of the text matches it; only
anchors tie a match to the ends.
-/
import Conformance.Pattern.Automaton
import Conformance.Pattern.Grammar

namespace Conformance

/-- A pattern as it was written, with its automaton. -/
structure Pattern where
  source : String
  automaton : Automaton
  deriving Inhabited

namespace Pattern

/-- Reads a pattern, or says what is wrong with it. -/
def ofText (source : String) : Except PatternError Pattern :=
  (expression? source).map fun e => ⟨source, Automaton.ofExpression e⟩

/-- Whether the pattern occurs in a text. -/
def occursIn (pattern : Pattern) (text : String) : Bool := pattern.automaton.occursIn text

end Pattern

end Conformance
