/-
Constraints: the keywords that restrict strings, numbers and arrays.

Each keyword is read on its own. One whose value cannot be used imposes nothing
and is noted. The exception is a pattern, which must be readable.
-/
import Conformance.Keyword
import Conformance.Rules

namespace Conformance

namespace Constraint

/-- The value of a keyword that counts something, such as `minLength`. -/
def count (schema : Members) (keyword path : String) : Option Nat × List Warning :=
  match Members.get? schema keyword with
  | none => (none, [])
  | some (.number n) =>
    match n.count? with
    | some k => (some k, [])
    | none => (none, [.countNotWhole path keyword (.number n)])
  | some other => (none, [.countNotWhole path keyword other])

/-- The value of a keyword that is a number. A keyword that may also be a
switch is silently no number when it is one. -/
def number (schema : Members) (keyword path : String) (switch : Bool := false) :
    Option Number × List Warning :=
  match Members.get? schema keyword with
  | none => (none, [])
  | some (.number n) => (some n, [])
  | some other =>
    match switch, other with
    | true, .bool _ => (none, [])
    | _, _ => (none, [.boundNotNumeric path keyword other])

/-- Whether a switch is on. -/
def isOn (schema : Members) (keyword : String) : Bool :=
  match Members.get? schema keyword with
  | some (.bool true) => true
  | _ => false

/-- The rules for numbers. A switched-on exclusive bound takes the plain bound
over; a step must be above zero. -/
def numberRules (schema : Members) (integer : Bool) (path : String) :
    NumberRules × List Warning :=
  let (minimum, noMinimum) := number schema "minimum" path
  let (maximum, noMaximum) := number schema "maximum" path
  let (above, noAbove) := number schema "exclusiveMinimum" path true
  let (below, noBelow) := number schema "exclusiveMaximum" path true
  let (step, noStep) := number schema "multipleOf" path
  let (minimum, above) :=
    if isOn schema "exclusiveMinimum" then (none, minimum) else (minimum, above)
  let (maximum, below) :=
    if isOn schema "exclusiveMaximum" then (none, maximum) else (maximum, below)
  let (step, badStep) := match step with
    | some n => if n.isPositive then (some n, []) else (none, [.stepNotPositive path n])
    | none => (none, [])
  ({ integer, minimum, maximum, exclusiveMinimum := above, exclusiveMaximum := below,
     multipleOf := step },
    noMinimum ++ noMaximum ++ noAbove ++ noBelow ++ noStep ++ badStep)

/-- The bounds on the length of an array. -/
def itemBounds (schema : Members) (path : String) : ItemBounds × List Warning :=
  let (minItems, noMin) := count schema "minItems" path
  let (maxItems, noMax) := count schema "maxItems" path
  ({ minItems, maxItems }, noMin ++ noMax)

/-- The bounds on the length of a string. -/
def lengthRules (schema : Members) (path : String) : StringRules × List Warning :=
  let (minLength, noMin) := count schema "minLength" path
  let (maxLength, noMax) := count schema "maxLength" path
  ({ minLength, maxLength }, noMin ++ noMax)

/-- The pattern a schema asks for; an empty one asks for nothing. -/
def pattern (schema : Members) (path : String) : Option String × List Warning :=
  match Members.get? schema "pattern" with
  | none => (none, [])
  | some (.string source) => (if source.isEmpty then none else some source, [])
  | some other => (none, [.patternNotString path other])

/-- The known format a schema asks for, if formats count. -/
def format (schema : Members) (policy : FormatPolicy) : Option StringFormat :=
  match policy, Members.get? schema "format" with
  | .enforce, some (.string keyword) => StringFormat.ofKeyword? keyword
  | _, _ => none

/-- The names that a schema requires. -/
def required (schema : Members) (path : String) : List String × List Warning :=
  match Members.get? schema "required" with
  | none => ([], [])
  | some (.array names) => (names.filterMap Json.string?, [])
  | some other => ([], [.requiredNotArray path other])

/-- What an enumeration of values compiles to. -/
inductive Choice where
  | one (value : Json)
  | strings (allowed : List String)
  | values (values : List Json)

/-- The texts of a list of values that are all strings. -/
def strings? : List Json → Option (List String)
  | [] => some []
  | .string s :: rest => (strings? rest).map (s :: ·)
  | _ => none

theorem eq_map_of_strings? {values : List Json} : ∀ {allowed : List String},
    strings? values = some allowed → values = allowed.map .string := by
  induction values with
  | nil =>
    intro allowed h
    cases h
    rfl
  | cons value rest ih =>
    intro allowed h
    cases value with
    | string s =>
      obtain ⟨others, hothers, rfl⟩ := Option.map_eq_some_iff.mp h
      rw [ih hothers, List.map_cons]
    | _ => cases h

/-- A single value stands for itself, strings are compared as texts, and
anything else value by value. -/
def choice (values : List Json) : Choice :=
  match values with
  | [] => .values []
  | [value] => .one value
  | values =>
    match strings? values with
    | some allowed => .strings allowed
    | none => .values values

end Constraint

end Conformance
