/-
Options of a compilation, and the kind of a request.

Each has a JSON form. A named choice is written as its name, and may be read
also as an object that gives the name a null. A record is written as an object
and may be read also as an array of its fields in order; a field that is
missing takes its default, one that is given twice is refused, and members of
other names are passed over unread.
-/
import Conformance.Json.Reader
import Conformance.Json.Writer

namespace Conformance

/-- What happens to `format` keywords: known formats are checked, or all are
ignored. -/
inductive FormatPolicy where
  | enforce
  | ignore
  deriving DecidableEq, Repr, Inhabited

/-- The kind of request a schema comes with. It decides what stands in for a
schema that is missing: a string for an extraction, anything for a query. -/
inductive RequestKind where
  | extract
  | query
  deriving DecidableEq, Repr, Inhabited

/-- How deep a schema may nest, and whether formats count. -/
structure CompileOptions where
  maxDepth : Nat := 128
  formats : FormatPolicy := .enforce
  deriving DecidableEq, Repr, Inhabited

namespace Transcript

/-- The name of a choice, written on its own or as the one key of an object
that holds null. -/
def choiceName? : Transcript → Option String
  | string name => name
  | object [(name, null)] => name
  | _ => none

/-- A natural number that fits 64 bits. A real is none, even when whole. -/
def natural? : Transcript → Option Nat
  | number n =>
    match n.value? with
    | some (.whole k) => if 0 ≤ k then some k.toNat else none
    | _ => none
  | _ => none

/-- The field of one name. Absent is `some none`; given twice is an error. -/
def field? (members : List (Option String × Transcript)) (name : String) :
    Option (Option Transcript) :=
  match members.filter (·.1 == some name) with
  | [] => some none
  | [(_, t)] => some (some t)
  | _ => none

/-- Whether every name of an object is a text. -/
def named (members : List (Option String × Transcript)) : Bool :=
  members.all (·.1.isSome)

end Transcript

namespace FormatPolicy

/-- The word for a policy, both in requests and in what is shown. -/
def name : FormatPolicy → String
  | enforce => "enforce"
  | ignore => "ignore"

/-- A policy is given by its word. -/
def ofTranscript? (t : Transcript) : Option FormatPolicy := do
  match ← t.choiceName? with
  | "enforce" => some enforce
  | "ignore" => some ignore
  | _ => none

def toJson (policy : FormatPolicy) : Json := .string policy.name

end FormatPolicy

namespace RequestKind

/-- The word for a kind of request. -/
def name : RequestKind → String
  | extract => "extract"
  | query => "query"

def ofName? : String → Option RequestKind
  | "extract" => some extract
  | "query" => some query
  | _ => none

def ofTranscript? (t : Transcript) : Option RequestKind := t.choiceName?.bind ofName?

def toJson (kind : RequestKind) : Json := .string kind.name

end RequestKind

namespace CompileOptions

/-- Fills in what was given; a given field must have the right form. -/
def ofFields? (maxDepth formats : Option Transcript) : Option CompileOptions := do
  let maxDepth ← match maxDepth with
    | some t => t.natural?
    | none => some ({} : CompileOptions).maxDepth
  let formats ← match formats with
    | some t => FormatPolicy.ofTranscript? t
    | none => some ({} : CompileOptions).formats
  return { maxDepth, formats }

/-- Options are given by name or in their order, and the ones left out have their
defaults. -/
def ofTranscript? : Transcript → Option CompileOptions
  | .object members =>
    if Transcript.named members then do
      ofFields? (← Transcript.field? members "max-depth")
        (← Transcript.field? members "formats")
    else none
  | .array [] => ofFields? none none
  | .array [maxDepth] => ofFields? (some maxDepth) none
  | .array [maxDepth, formats] => ofFields? (some maxDepth) (some formats)
  | _ => none

def toJson (options : CompileOptions) : Json :=
  .object [("max-depth", .number (.whole options.maxDepth)),
    ("formats", options.formats.toJson)]

end CompileOptions

/-- Reads a record or a choice from a text. What the record passes over may
nest as deep as it likes. -/
def Transcript.decode? {α : Type} (of : Transcript → Option α) (text : String) : Option α :=
  (Transcript.read? text.length text).bind of

end Conformance
