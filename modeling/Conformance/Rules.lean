/-
Rules for strings, numbers and arrays.

Every rule is optional and imposes nothing when it is not set. All that are set
are checked, and each that is broken is reported on its own.
-/
import Conformance.Format.Basic
import Conformance.Issue
import Conformance.Pattern.Basic

namespace Conformance

-- ============================================================= strings

/-- Rules for a string. Lengths count characters. -/
structure StringRules where
  minLength : Option Nat := none
  maxLength : Option Nat := none
  pattern : Option Pattern := none
  format : Option StringFormat := none
  deriving Inhabited

namespace StringRules

/-- The issues of a string. -/
def check (rules : StringRules) (s : String) (location : Location) : List Issue :=
  let length := s.length
  let tooShort := rules.minLength.bind fun least =>
    if length < least then
      some (.about location (.tooShort least)
        s!"string length {length} is less than minLength {least}")
    else none
  let tooLong := rules.maxLength.bind fun most =>
    if most < length then
      some (.about location (.tooLong most)
        s!"string length {length} exceeds maxLength {most}")
    else none
  let mismatch := rules.pattern.bind fun pattern =>
    if pattern.occursIn s then none
    else
      some (.about location (.patternMismatch pattern.source)
        ("value " ++ Text.quoted s ++ " does not match pattern " ++ Text.quoted pattern.source))
  let malformed := rules.format.bind fun format =>
    if format.accepts s then none
    else
      some (.about location (.invalidFormat format.name)
        ("value " ++ Text.quoted s ++ " is not a valid " ++ format.name))
  [tooShort, tooLong, mismatch, malformed].filterMap id

end StringRules

-- ============================================================= numbers

/-- Rules for a number. -/
structure NumberRules where
  integer : Bool := false
  minimum : Option Number := none
  exclusiveMinimum : Option Number := none
  maximum : Option Number := none
  exclusiveMaximum : Option Number := none
  multipleOf : Option Number := none
  deriving DecidableEq, Inhabited

/-- The four ways to bound a number. -/
inductive Bound where
  | minimum
  | exclusiveMinimum
  | maximum
  | exclusiveMaximum
  deriving DecidableEq, Repr

namespace Bound

/-- The keyword that sets the bound. -/
def keyword : Bound → String
  | minimum => "minimum"
  | exclusiveMinimum => "exclusiveMinimum"
  | maximum => "maximum"
  | exclusiveMaximum => "exclusiveMaximum"

/-- How a number that breaks the bound lies to it, in words. -/
def phrase : Bound → String
  | minimum => "is less than minimum"
  | exclusiveMinimum => "is not greater than exclusive minimum"
  | maximum => "exceeds maximum"
  | exclusiveMaximum => "is not less than exclusive maximum"

/-- Whether a number that compares to the bound in the given way keeps it. -/
def keeps : Bound → Ordering → Bool
  | minimum, o => o != .lt
  | exclusiveMinimum, o => o == .gt
  | maximum, o => o != .gt
  | exclusiveMaximum, o => o == .lt

/-- The issue of a number that breaks the bound. -/
def check (bound : Bound) (limit : Option Number) (n : Number) (location : Location) :
    Option Issue :=
  limit.bind fun limit =>
    if bound.keeps (n.compare limit) then none
    else
      some (.about location (.outOfRange bound.keyword (.number limit))
        ("value " ++ n.text ++ " " ++ bound.phrase ++ " " ++ limit.text))

end Bound

namespace NumberRules

/-- The issues of a number. -/
def check (rules : NumberRules) (n : Number) (location : Location) : List Issue :=
  let fractional :=
    if rules.integer && !n.isWhole then
      some (.about location .notInteger ("expected an integer, got " ++ n.text))
    else none
  let uneven := rules.multipleOf.bind fun step =>
    if n.isMultipleOf step then none
    else
      some (.about location (.notMultipleOf (.number step))
        ("value " ++ n.text ++ " is not a multiple of " ++ step.text))
  [fractional, Bound.minimum.check rules.minimum n location,
    Bound.exclusiveMinimum.check rules.exclusiveMinimum n location,
    Bound.maximum.check rules.maximum n location,
    Bound.exclusiveMaximum.check rules.exclusiveMaximum n location, uneven].filterMap id

end NumberRules

-- ============================================================== arrays

/-- Rules for the length of an array. -/
structure ItemBounds where
  minItems : Option Nat := none
  maxItems : Option Nat := none
  deriving DecidableEq, Inhabited

namespace ItemBounds

/-- The issues of an array of the given length. -/
def check (bounds : ItemBounds) (length : Nat) (location : Location) : List Issue :=
  let tooFew := bounds.minItems.bind fun least =>
    if length < least then
      some (.about location (.tooFewItems least)
        s!"array length {length} is less than minItems {least}")
    else none
  let tooMany := bounds.maxItems.bind fun most =>
    if most < length then
      some (.about location (.tooManyItems most)
        s!"array length {length} exceeds maxItems {most}")
    else none
  [tooFew, tooMany].filterMap id

end ItemBounds

end Conformance
