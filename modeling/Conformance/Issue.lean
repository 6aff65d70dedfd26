/-
Issues: why a value was rejected.

An issue names a location in the data by its pointer, a kind and a message.
Issues have a JSON form, in which a kind is an object with its tag under
`type` and its fields beside it. Reading it back also takes every record as an
array of its fields in order. Fields may not be missing or repeated, and
members of other names are passed over.
-/
import Conformance.Options
import Conformance.Pointer
import Conformance.Text.Quoted

namespace Conformance

/-- The kinds of issue, with what they say about the rule that was broken. -/
inductive IssueKind where
  | invalidType (expected actual : String)
  | missing
  | unknownProperty (name : String)
  | tooShort (minLength : Nat)
  | tooLong (maxLength : Nat)
  | patternMismatch (pattern : String)
  | invalidFormat (format : String)
  | notInteger
  | outOfRange (constraint : String) (bound : Json)
  | notMultipleOf (multipleOf : Json)
  | tooFewItems (minItems : Nat)
  | tooManyItems (maxItems : Nat)
  | literalMismatch (expected : Json)
  | notInEnum (allowed : List String)
  | noMatchingVariant (variants : Nat)
  | unresolvedReference (reference : String)

/-- One reason why a value was rejected. -/
structure Issue where
  path : String
  kind : IssueKind
  message : String

/-- The issues of a rejected value, in the order in which they were found. -/
structure Failure where
  issues : List Issue

-- ========================================================== locations

/-- A location in the data: the member names and indices that lead to it. -/
abbrev Location := List String

namespace Location

/-- A location is written as a pointer, the root as a single slash. -/
def text (location : Location) : String :=
  if location.isEmpty then "/" else Pointer.extend "" location

/-- The location of an item. -/
def item (location : Location) (i : Nat) : Location := location ++ [toString i]

/-- The location of a member. -/
def member (location : Location) (name : String) : Location := location ++ [name]

end Location

namespace Issue

/-- An issue about the value at a location. -/
def about (location : Location) (kind : IssueKind) (message : String) : Issue :=
  ⟨location.text, kind, message⟩

/-- The line that reports an issue. -/
def text (issue : Issue) : String := issue.path ++ ": " ++ issue.message

end Issue

namespace Failure

/-- Whether an issue was reported at exactly this path. -/
def hasIssueAt (failure : Failure) (path : String) : Bool :=
  failure.issues.any (·.path == path)

/-- The failure on one line: its first issue, and how many more there are. -/
def text (failure : Failure) : String :=
  let opening := "value does not conform to schema"
  match failure.issues with
  | [] => opening
  | [only] => opening ++ ": " ++ only.text
  | first :: rest => opening ++ ": " ++ first.text ++ s!" (and {rest.length} more)"

end Failure

-- ========================================================== JSON form

/-- The forms that a field may have. -/
inductive FieldForm where
  | text
  | count
  | any
  | texts

/-- The value of a field. -/
inductive FieldValue where
  | text (s : String)
  | count (n : Nat)
  | any (v : Json)
  | texts (ss : List String)

namespace FieldValue

def toJson : FieldValue → Json
  | text s => .string s
  | count n => .number (.whole n)
  | any v => v
  | texts ss => .array (ss.map .string)

/-- The texts of a list of strings. -/
def textsOf? : List Json → Option (List String)
  | [] => some []
  | .string s :: rest => (textsOf? rest).map (s :: ·)
  | _ => none

/-- A JSON value as a field of the given form. -/
def ofJson? : FieldForm → Json → Option FieldValue
  | .text, .string s => some (text s)
  | .count, .number (.whole n) => if 0 ≤ n then some (count n.toNat) else none
  | .any, v => some (any v)
  | .texts, .array items => (textsOf? items).map texts
  | _, _ => none

end FieldValue

namespace IssueKind

/-- The tag that names a kind. -/
def tag : IssueKind → String
  | invalidType .. => "invalid_type"
  | missing => "missing"
  | unknownProperty _ => "unknown_property"
  | tooShort _ => "too_short"
  | tooLong _ => "too_long"
  | patternMismatch _ => "pattern_mismatch"
  | invalidFormat _ => "invalid_format"
  | notInteger => "not_integer"
  | outOfRange .. => "out_of_range"
  | notMultipleOf _ => "not_multiple_of"
  | tooFewItems _ => "too_few_items"
  | tooManyItems _ => "too_many_items"
  | literalMismatch _ => "literal_mismatch"
  | notInEnum _ => "not_in_enum"
  | noMatchingVariant _ => "no_matching_variant"
  | unresolvedReference _ => "unresolved_reference"

/-- The fields of a kind, in order. -/
def fields : IssueKind → List (String × FieldValue)
  | invalidType expected actual => [("expected", .text expected), ("actual", .text actual)]
  | missing => []
  | unknownProperty name => [("name", .text name)]
  | tooShort n => [("min_length", .count n)]
  | tooLong n => [("max_length", .count n)]
  | patternMismatch pattern => [("pattern", .text pattern)]
  | invalidFormat format => [("format", .text format)]
  | notInteger => []
  | outOfRange constraint bound => [("constraint", .text constraint), ("bound", .any bound)]
  | notMultipleOf step => [("multiple_of", .any step)]
  | tooFewItems n => [("min_items", .count n)]
  | tooManyItems n => [("max_items", .count n)]
  | literalMismatch expected => [("expected", .any expected)]
  | notInEnum allowed => [("allowed", .texts allowed)]
  | noMatchingVariant n => [("variants", .count n)]
  | unresolvedReference reference => [("reference", .text reference)]

/-- The fields that a tag calls for, in order. -/
def form? : String → Option (List (String × FieldForm))
  | "invalid_type" => some [("expected", .text), ("actual", .text)]
  | "missing" => some []
  | "unknown_property" => some [("name", .text)]
  | "too_short" => some [("min_length", .count)]
  | "too_long" => some [("max_length", .count)]
  | "pattern_mismatch" => some [("pattern", .text)]
  | "invalid_format" => some [("format", .text)]
  | "not_integer" => some []
  | "out_of_range" => some [("constraint", .text), ("bound", .any)]
  | "not_multiple_of" => some [("multiple_of", .any)]
  | "too_few_items" => some [("min_items", .count)]
  | "too_many_items" => some [("max_items", .count)]
  | "literal_mismatch" => some [("expected", .any)]
  | "not_in_enum" => some [("allowed", .texts)]
  | "no_matching_variant" => some [("variants", .count)]
  | "unresolved_reference" => some [("reference", .text)]
  | _ => none

/-- The kind with the given tag and field values. -/
def build? : String → List FieldValue → Option IssueKind
  | "invalid_type", [.text expected, .text actual] => some (invalidType expected actual)
  | "missing", [] => some missing
  | "unknown_property", [.text name] => some (unknownProperty name)
  | "too_short", [.count n] => some (tooShort n)
  | "too_long", [.count n] => some (tooLong n)
  | "pattern_mismatch", [.text pattern] => some (patternMismatch pattern)
  | "invalid_format", [.text format] => some (invalidFormat format)
  | "not_integer", [] => some notInteger
  | "out_of_range", [.text constraint, .any bound] => some (outOfRange constraint bound)
  | "not_multiple_of", [.any step] => some (notMultipleOf step)
  | "too_few_items", [.count n] => some (tooFewItems n)
  | "too_many_items", [.count n] => some (tooManyItems n)
  | "literal_mismatch", [.any expected] => some (literalMismatch expected)
  | "not_in_enum", [.texts allowed] => some (notInEnum allowed)
  | "no_matching_variant", [.count n] => some (noMatchingVariant n)
  | "unresolved_reference", [.text reference] => some (unresolvedReference reference)
  | _, _ => none

/-- A kind as JSON: the tag first, then the fields. -/
def toJson (kind : IssueKind) : Json :=
  .object (("type", .string kind.tag) :: kind.fields.map fun f => (f.1, f.2.toJson))

/-- Reads the fields of a form from what is found under their names. Each must
be there once. -/
def readMembers? (members : List (Option String × Json)) :
    List (String × FieldForm) → Option (List FieldValue)
  | [] => some []
  | (name, form) :: rest =>
    match members.filter (·.1 == some name) with
    | [(_, v)] => do return (← FieldValue.ofJson? form v) :: (← readMembers? members rest)
    | _ => none

/-- Reads the fields of a form from a list of exactly as many values. -/
def readItems? : List Json → List (String × FieldForm) → Option (List FieldValue)
  | [], [] => some []
  | v :: vs, (_, form) :: rest => do
    return (← FieldValue.ofJson? form v) :: (← readItems? vs rest)
  | _, _ => none

/-- The members of an object, each value read on its own so that repeated names
stay apart. -/
def memberValues? (depth : Nat) :
    List (Option String × Transcript) → Option (List (Option String × Json))
  | [] => some []
  | (name, t) :: rest => do
    let name ← name
    return (some name, ← t.toJson? depth) :: (← memberValues? depth rest)

/-- Reads a kind whose values may nest `depth` deep. Everything in it is read,
whether its kind has such a field or not. -/
def ofTranscript? (depth : Nat) : Transcript → Option IssueKind
  | .object members => do
    let values ← memberValues? depth members
    match values.filter (·.1 == some "type") with
    | [(_, .string tag)] => build? tag (← readMembers? values (← form? tag))
    | _ => none
  | .array items => do
    match ← Transcript.itemsToJson? depth items with
    | .string tag :: values => build? tag (← readItems? values (← form? tag))
    | _ => none
  | _ => none

end IssueKind

namespace Transcript

/-- The values of the named fields of a record, written as an object with each
of them once or as an array of exactly as many. -/
def record? (names : List String) : Transcript → Option (List Transcript)
  | object members =>
    if named members then
      names.mapM fun name => do
        match members.filter (·.1 == some name) with
        | [(_, t)] => some t
        | _ => none
    else none
  | array items => if items.length = names.length then some items else none
  | _ => none

def text? : Transcript → Option String
  | string text => text
  | _ => none

end Transcript

namespace Issue

def toJson (issue : Issue) : Json :=
  .object [("path", .string issue.path), ("kind", issue.kind.toJson),
    ("message", .string issue.message)]

/-- A failure, its list of issues, an issue and its kind enclose what a kind
holds. -/
def valueDepth : Nat := Json.nestingLimit - 4

def ofTranscript? (t : Transcript) : Option Issue := do
  match ← t.record? ["path", "kind", "message"] with
  | [path, kind, message] =>
    return ⟨← path.text?, ← IssueKind.ofTranscript? valueDepth kind, ← message.text?⟩
  | _ => none

end Issue

namespace Failure

def toJson (failure : Failure) : Json :=
  .object [("issues", .array (failure.issues.map Issue.toJson))]

def ofTranscript? (t : Transcript) : Option Failure := do
  match ← t.record? ["issues"] with
  | [.array issues] => return ⟨← issues.mapM Issue.ofTranscript?⟩
  | _ => none

end Failure

end Conformance
