/-
Validators: what a schema compiles to.

A validator is a tree. Two of its nodes stand for references. A shared node
holds what the reference's definition compiled to, and carries a number, so
that every use of the definition is seen to be the same node. A deferred node
holds only what is needed to compile its definition later; it stands where the
definition was already being compiled, so the tree stays finite.
-/
import Conformance.Definitions
import Conformance.Options
import Conformance.Rules
import Conformance.Visited

namespace Conformance

/-- A reference whose definition is compiled when it is first needed. The
branch it stands on has entered the reference before and descended into the
data since.

Its key tells it apart from every other: its number within its compilation,
before the key of the deferred reference that this compilation was for. -/
structure Deferred where
  key : List Nat
  reference : String
  pool : Definitions
  visited : VisitedPath
  options : CompileOptions
  nested : visited.isNested reference = true

/-- The keys are compared before the pools, and nothing is compared of one and
the same reference. -/
instance : DecidableEq Deferred := fun a b => withPtrEqDecEq a b fun _ =>
  decidable_of_iff
    (a.key = b.key ∧ a.reference = b.reference ∧ a.options = b.options ∧
      a.visited = b.visited ∧ a.pool = b.pool)
    (by cases a; cases b; grind)

/-- A declared property of an object. -/
structure Property (α : Type) where
  name : String
  required : Bool
  validator : α

/-- What becomes of members that are not declared: left out unread, refused, or
validated and kept. -/
inductive Additional (α : Type) where
  | ignore
  | reject
  | schema (validator : α)

/-- A compiled schema. -/
inductive Validator where
  | any
  | null
  | boolean
  | string (rules : StringRules)
  | number (rules : NumberRules)
  | literal (value : Json)
  | stringEnum (allowed : List String)
  | array (items : Validator) (bounds : ItemBounds)
  | object (properties : List (Property Validator)) (additional : Additional Validator)
  | union (variants : List Validator)
  | optional (inner : Validator)
  | deferred (target : Deferred)
  | shared (number : Nat) (target : Validator)

namespace Validator

instance : Inhabited Validator := ⟨any⟩

/-- The declared property of a name; of several the last. -/
def property? (v : Validator) (name : String) : Option (Property Validator) :=
  match v with
  | object properties _ => properties.reverse.find? (·.name == name)
  | _ => none

end Validator

end Conformance
