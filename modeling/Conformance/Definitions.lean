/-
Definition pools.

A pool maps names to schemas and is what references are resolved against. A
reference names a definition by its last segment, so `#/$defs/Node`,
`#/definitions/Node` and `Node` are the same reference as far as the pool is
concerned.
-/
import Conformance.Json.Identity
import Conformance.Pointer

namespace Conformance

/-- Named schemas, in order of declaration. -/
structure Definitions where
  members : Members := []
  deriving DecidableEq, Inhabited

namespace Definitions

/-- The pool of a list of definitions, later ones replacing earlier ones of the
same name. -/
def ofList (entries : List (String × Json)) : Definitions := ⟨Members.ofList entries⟩

def isEmpty (pool : Definitions) : Bool := pool.members.isEmpty

def size (pool : Definitions) : Nat := pool.members.length

def names (pool : Definitions) : List String := Members.names pool.members

def get? (pool : Definitions) (name : String) : Option Json := Members.get? pool.members name

/-- The pool that a schema declares: its `$defs` if that is an object, else its
`definitions` if that is one, else none. -/
def declaredBy (schema : Members) : Definitions :=
  match Members.get? schema "$defs", Members.get? schema "definitions" with
  | some (.object defs), _ => ⟨defs⟩
  | _, some (.object defs) => ⟨defs⟩
  | _, _ => ⟨[]⟩

/-- The pool declared by any JSON value. -/
def ofSchema : Json → Definitions
  | .object schema => declaredBy schema
  | _ => ⟨[]⟩

/-- The name of the definition a reference points at. -/
def targetName (reference : String) : String :=
  String.ofList (Pointer.unescapeChars (Pointer.lastSegment reference.toList))

/-- The schema a reference points at. -/
def resolve? (pool : Definitions) (reference : String) : Option Json :=
  pool.get? (targetName reference)

end Definitions

end Conformance
