/-
Reading JSON values.

The value of a transcript exists when its numerals are in range, its strings
and names are texts and it does not nest too deeply. Members of one name are
merged: the name keeps its first place and takes its last value.
-/
import Conformance.Json.Basic
import Conformance.Json.Transcript

namespace Conformance

/-- Arrays and objects may nest this deep in a text. -/
def Json.nestingLimit : Nat := 127

namespace Transcript

mutual

/-- The value meant by a transcript that may nest `depth` deep. -/
def toJson? (depth : Nat) : Transcript → Option Json
  | null => some .null
  | bool b => some (.bool b)
  | number n => n.value?.map .number
  | string s => s.map .string
  | array items =>
    match depth with
    | 0 => none
    | depth + 1 => (itemsToJson? depth items).map .array
  | object members =>
    match depth with
    | 0 => none
    | depth + 1 => (membersToJson? depth members).map fun ms => .object (Members.ofList ms)

/-- Items are read at the depth that is left. -/
def itemsToJson? (depth : Nat) : List Transcript → Option (List Json)
  | [] => some []
  | t :: rest => do
    let v ← toJson? depth t
    let vs ← itemsToJson? depth rest
    return v :: vs

/-- Members are, too, and their names must be texts. -/
def membersToJson? (depth : Nat) :
    List (Option String × Transcript) → Option (List (String × Json))
  | [] => some []
  | (name, t) :: rest => do
    let name ← name
    let v ← toJson? depth t
    let ms ← membersToJson? depth rest
    return (name, v) :: ms

end

end Transcript

namespace Json

/-- The value written in a text, if there is one. -/
def read? (text : String) : Option Json :=
  (Transcript.read? nestingLimit text).bind (·.toJson? nestingLimit)

end Json

end Conformance
