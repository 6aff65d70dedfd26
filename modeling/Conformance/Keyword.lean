/-
Keywords: what a schema object asks for.

A schema may carry several keywords that each decide what it means. One order
of precedence settles which of them counts. A keyword whose value has the wrong
shape does not count; it is noted, and the next one is looked at.
-/
import Conformance.Json.Writer

namespace Conformance

-- =============================================================== types

/-- The types that a schema can name. -/
inductive PrimitiveType where
  | string
  | number
  | integer
  | boolean
  | null
  | array
  | object
  deriving DecidableEq, Repr

namespace PrimitiveType

def name : PrimitiveType → String
  | string => "string"
  | number => "number"
  | integer => "integer"
  | boolean => "boolean"
  | null => "null"
  | array => "array"
  | object => "object"

def ofName? : String → Option PrimitiveType
  | "string" => some string
  | "number" => some number
  | "integer" => some integer
  | "boolean" => some boolean
  | "null" => some null
  | "array" => some array
  | "object" => some object
  | _ => none

end PrimitiveType

-- ============================================================ warnings

/-- Something in a schema that was passed over. -/
inductive Warning where
  | malformedReference (value : Json)
  | anyOfNotArray (value : Json)
  | enumNotArray (value : Json)
  | fruitlessCycle (reference path : String)
  | tupleItems (path : String)
  | propertiesNotObject (path : String) (value : Json)
  | requiredNotArray (path : String) (value : Json)
  | patternNotString (path : String) (value : Json)
  | countNotWhole (path keyword : String) (value : Json)
  | boundNotNumeric (path keyword : String) (value : Json)
  | stepNotPositive (path : String) (step : Number)

namespace Warning

/-- The warning in words. -/
def message : Warning → String
  | malformedReference _ => "ignoring malformed $ref"
  | anyOfNotArray _ => "ignoring anyOf that is not an array"
  | enumNotArray _ => "ignoring enum that is not an array"
  | fruitlessCycle .. => "reference cycle never reaches a nested value, matches nothing"
  | tupleItems _ => "tuple-form items not supported, elements unchecked"
  | propertiesNotObject .. => "ignoring non-object properties"
  | requiredNotArray .. => "ignoring non-array required"
  | patternNotString .. => "ignoring non-string pattern"
  | countNotWhole .. => "ignoring non-integer count keyword"
  | boundNotNumeric .. => "ignoring non-numeric keyword"
  | stepNotPositive .. => "ignoring non-positive multipleOf"

/-- What the warning is about, field by field. -/
def fields : Warning → List (String × String)
  | malformedReference value => [("value", value.compact)]
  | anyOfNotArray value => [("value", value.compact)]
  | enumNotArray value => [("value", value.compact)]
  | fruitlessCycle reference path => [("reference", reference), ("path", path)]
  | tupleItems path => [("path", path)]
  | propertiesNotObject path value => [("path", path), ("value", value.compact)]
  | requiredNotArray path value => [("path", path), ("value", value.compact)]
  | patternNotString path value => [("path", path), ("value", value.compact)]
  | countNotWhole path keyword value =>
    [("path", path), ("keyword", keyword), ("value", value.compact)]
  | boundNotNumeric path keyword value =>
    [("path", path), ("keyword", keyword), ("value", value.compact)]
  | stepNotPositive path step => [("path", path), ("multiple_of", step.text)]

end Warning

-- ========================================================== precedence

/-- The deciding keyword of a schema object, with what it holds. -/
inductive SchemaKind where
  | reference (target : String)
  | union (variants : List Json)
  | typeList (names : List Json)
  | enum (values : List Json)
  | const (value : Json)
  | primitive (type : PrimitiveType)
  | implicitObject
  | unconstrained

namespace SchemaKind

/-- The type that a schema names, if it is a known one. -/
def primitive? (schema : Members) : Option PrimitiveType :=
  match Members.get? schema "type" with
  | some (.string name) => PrimitiveType.ofName? name
  | _ => none

/-- Below the other keywords: a named type, and else the mention of
properties. -/
def ofType (schema : Members) : SchemaKind :=
  match primitive? schema with
  | some type => primitive type
  | none => if (Members.get? schema "properties").isSome then implicitObject else unconstrained

/-- Below type lists: an array of values, and else a single one. -/
def ofValues (schema : Members) : SchemaKind × List Warning :=
  let single := match Members.get? schema "const" with
    | some value => const value
    | none => ofType schema
  match Members.get? schema "enum" with
  | some (.array values) => (enum values, [])
  | some other => (single, [.enumNotArray other])
  | none => (single, [])

/-- What was found below a keyword that had to be passed over. -/
def passingOver (warning : Warning) (found : SchemaKind × List Warning) :
    SchemaKind × List Warning :=
  (found.1, warning :: found.2)

/-- Below unions: an array of types. -/
def ofTypes (schema : Members) : SchemaKind × List Warning :=
  match Members.get? schema "type" with
  | some (.array names) => (typeList names, [])
  | _ => ofValues schema

/-- Below references: an array of alternatives. -/
def ofUnion (schema : Members) : SchemaKind × List Warning :=
  match Members.get? schema "anyOf" with
  | some (.array variants) => (union variants, [])
  | some other => passingOver (.anyOfNotArray other) (ofTypes schema)
  | none => ofTypes schema

/-- The deciding keyword of a schema object, and the keywords passed over on the
way to it. A reference that is not empty comes first. -/
def of (schema : Members) : SchemaKind × List Warning :=
  match Members.get? schema "$ref" with
  | some (.string target) =>
    if target.isEmpty then
      passingOver (.malformedReference (.string target)) (ofUnion schema)
    else (reference target, [])
  | some other => passingOver (.malformedReference other) (ofUnion schema)
  | none => ofUnion schema

end SchemaKind

end Conformance
