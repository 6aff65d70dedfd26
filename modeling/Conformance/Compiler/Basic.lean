/-
Compiling schemas to validators.

One recursive rule turns a schema into a validator by its deciding keyword.
Schemas nest only so deep: the recursion is on the number of levels left, and
where none is left compilation fails, so the limit is also what makes it
terminate.

References. A branch remembers the references it has entered. A reference it
has not entered is followed. One it has entered is not: if the branch has since
descended into the data it becomes a deferred node, to be compiled when data
gets there; if it has not, following it would never reach any data, and it
becomes a union of nothing.

Sharing. A followed reference is compiled once for each pool, branch history
and depth it is met with, and every further use is the same shared node. Pools
are told apart by number, not by what they hold: while no definitions are in
force, a schema that declares some starts a pool of its own.

The rules for everything but references do not depend on what is remembered.
They are stated for any kind of compilation that can fail and note warnings.
-/
import Conformance.Compiler.Constraint
import Conformance.Validator

namespace Conformance

/-- Why a schema cannot be compiled. -/
inductive CompileError where
  | unresolvedReference (reference name : String)
  | invalidPattern (path pattern : String) (error : PatternError)
  | depthExceeded (path : String) (maxDepth : Nat)

/-- The error in words. -/
def CompileError.message : CompileError → String
  | unresolvedReference reference name =>
    "Could not resolve schema reference: " ++ reference ++
      " (no definition named '" ++ name ++ "')"
  | invalidPattern path pattern error =>
    "Invalid pattern at " ++ path ++ ": " ++ Text.quoted pattern ++
      " (" ++ error.message ++ ")"
  | depthExceeded path maxDepth =>
    "Recursion depth exceeded at " ++ path ++ s!" (max: {maxDepth})"

namespace Compiler

-- =============================================================== state

/-- What stays the same throughout a compilation: the options, and the key of
the deferred reference it is for. -/
structure Setting where
  options : CompileOptions
  origin : List Nat := []

/-- Definitions that references are resolved against, and the number by which a
compilation tells them from others that were declared apart. -/
structure Pool where
  definitions : Definitions
  number : Nat := 0

/-- Where the compiler stands: the definitions in force, the references entered
on this branch, and the path by which errors name the place. -/
structure Site where
  pool : Pool
  visited : VisitedPath
  path : String

namespace Site

/-- The same branch at another path. -/
def below (site : Site) (segments : List String) : Site :=
  { site with path := Pointer.extend site.path segments }

/-- The branch inside an item or a member. -/
def nested (site : Site) (segments : List String) : Site :=
  { site.below segments with visited := site.visited.descend }

/-- The branch inside the definition that a reference points at. -/
def entered (site : Site) (target : String) : Site :=
  { site with visited := site.visited.enter target, path := target }

end Site

/-- A followed reference: what it was compiled from, and its shared node. -/
structure Followed where
  pool : Pool
  reference : String
  visited : VisitedPath
  levels : Nat
  number : Nat
  target : Validator

/-- How far a compilation has come. The pool that it was begun with has the
number zero. -/
structure Progress where
  followed : List Followed := []
  sharedCount : Nat := 0
  deferredCount : Nat := 0
  poolCount : Nat := 1
  warnings : Array Warning := #[]

/-- A step of a compilation. What was noted before a failure stays noted. -/
abbrev Compile := ExceptT CompileError (StateM Progress)

/-- Computations that can note warnings. -/
class Noting (m : Type → Type) where
  note : List Warning → m Unit

export Noting (note)

instance : Noting Compile where
  note warnings := modify fun p => { p with warnings := p.warnings ++ warnings.toArray }

-- ========================================================== references

/-- The shared node of a reference that was followed before under the same
circumstances: in the same pool, with the same history, at the same depth. -/
def remembered? (target : String) (site : Site) (levels : Nat) :
    Compile (Option Validator) := do
  let found := (← get).followed.find? fun f =>
    f.pool.number == site.pool.number && f.levels == levels && f.reference == target &&
      f.visited == site.visited.enter target
  return found.map fun f => .shared f.number f.target

/-- Remembers what a reference compiled to, as a new shared node. -/
def remember (target : String) (site : Site) (levels : Nat) (compiled : Validator) :
    Compile Validator := do
  let number := (← get).sharedCount
  modify fun p => { p with
    followed := ⟨site.pool, target, site.visited.enter target, levels, number, compiled⟩ ::
      p.followed
    sharedCount := number + 1 }
  return .shared number compiled

/-- A new deferred node. -/
def defer (setting : Setting) (target : String) (site : Site)
    (nested : site.visited.isNested target = true) : Compile Validator := do
  let number := (← get).deferredCount
  modify fun p => { p with deferredCount := number + 1 }
  return .deferred
    { key := number :: setting.origin, reference := target, pool := site.pool.definitions,
      visited := site.visited, options := setting.options, nested }

/-- A reference. Its definition is compiled by `next`, with `levels` left. -/
def reference (setting : Setting) (levels : Nat) (next : Json → Site → Compile Validator)
    (target : String) (site : Site) : Compile Validator := do
  if site.visited.contains target then
    if nested : site.visited.isNested target = true then
      defer setting target site nested
    else
      note [.fruitlessCycle target site.path]
      return .union []
  else
    match ← remembered? target site levels with
    | some shared => return shared
    | none =>
      match site.pool.definitions.resolve? target with
      | none => throw (.unresolvedReference target (Definitions.targetName target))
      | some definition => remember target site levels (← next definition (site.entered target))

section

/-! The rules below compile what lies beneath a schema by `next`, which has one
level less, and references by `follow`. -/

variable {m : Type → Type} [Monad m] [MonadExceptOf CompileError m] [Noting m]
variable (options : CompileOptions) (follow : String → Site → m Validator)
variable (next : Json → Site → m Validator)

/-- A value that was read with warnings. -/
def noting {α : Type} (read : α × List Warning) : m α := do
  note read.2
  return read.1

-- ======================================================= alternatives

/-- Compiles schemas one after the other. -/
def each : List (Json × Site) → m (List Validator)
  | [] => return []
  | (schema, site) :: rest => do
    let v ← next schema site
    let vs ← each rest
    return v :: vs

/-- The only element that is not null, with its place, where at least one other
is. -/
def soleAlternative? (isNull : Json → Bool) (alternatives : List Json) :
    Option (Json × Nat) :=
  match alternatives.zipIdx.filter fun a => !isNull a.1 with
  | [sole] => if 1 < alternatives.length then some sole else none
  | _ => none

/-- Whether an alternative is a schema for null. -/
def isNullSchema (schema : Json) : Bool :=
  (schema.member? "type").bind Json.string? == some "null"

/-- Whether a listed type is null. -/
def isNullName (name : Json) : Bool := name.string? == some "null"

/-- A schema with one of its alternatives laid over it. -/
def merged (schema : Members) (alternative : Json) : Json :=
  let fields := match alternative with
    | .object fields => fields
    | _ => []
  .object (Members.erase (Members.merge schema fields) "anyOf")

/-- A schema with its type replaced. -/
def withType (schema : Members) (type : Json) : Json :=
  .object (Members.insert schema "type" type)

/-- Alternatives by schema. One that only adds null to another makes that other
optional, merged with what stands beside the alternatives. -/
def union (schema : Members) (variants : List Json) (site : Site) : m Validator :=
  match soleAlternative? isNullSchema variants with
  | some (sole, i) =>
    return .optional (← next (merged schema sole) (site.below ["anyOf", toString i]))
  | none =>
    return .union (← each next
      (variants.zipIdx.map fun v => (v.1, site.below ["anyOf", toString v.2])))

/-- Alternatives by type. Each is the schema with that type alone. -/
def typeList (schema : Members) (names : List Json) (site : Site) : m Validator :=
  match soleAlternative? isNullName names with
  | some (sole, _) => return .optional (← next (withType schema sole) site)
  | none =>
    return .union (← each next
      (names.zipIdx.map fun n => (withType schema n.1, site.below ["type", toString n.2])))

/-- Alternatives by value. -/
def enumeration (values : List Json) : Validator :=
  match Constraint.choice values with
  | .one value => .literal value
  | .strings allowed => .stringEnum allowed
  | .values values => .union (values.map .literal)

-- ============================================================== types

/-- The pattern that a schema asks for, which must be readable. -/
def pattern (schema : Members) (site : Site) : m (Option Pattern) := do
  match ← noting (Constraint.pattern schema site.path) with
  | none => return none
  | some source =>
    match Pattern.ofText source with
    | .ok pattern => return some pattern
    | .error e => throw (.invalidPattern (site.below ["pattern"]).path source e)

/-- A string. -/
def string (schema : Members) (site : Site) : m Validator := do
  let rules ← noting (Constraint.lengthRules schema site.path)
  let pattern ← pattern schema site
  return .string { rules with
    pattern, format := Constraint.format schema options.formats }

/-- A number, or an integer. -/
def number (schema : Members) (integer : Bool) (site : Site) : m Validator :=
  return .number (← noting (Constraint.numberRules schema integer site.path))

/-- The items of an array. Only a single schema for all of them counts. -/
def items (schema : Members) (site : Site) : m Validator := do
  match Members.get? schema "items" with
  | some (.object items) => next (.object items) (site.nested ["items"])
  | some (.array _) => do
    note [.tupleItems site.path]
    return .any
  | _ => return .any

/-- An array. -/
def array (schema : Members) (site : Site) : m Validator := do
  let items ← items next schema site
  let bounds ← noting (Constraint.itemBounds schema site.path)
  return .array items bounds

/-- Compiles schemas of properties one after the other. -/
def properties (required : List String) (site : Site) :
    List (String × Json) → m (List (Property Validator))
  | [] => return []
  | (name, schema) :: rest => do
    let validator ← next schema (site.nested ["properties", name])
    let others ← properties required site rest
    return ⟨name, required.contains name, validator⟩ :: others

/-- The declared properties of an object. -/
def declared (schema : Members) (required : List String) (site : Site) :
    m (List (Property Validator)) := do
  match Members.get? schema "properties" with
  | some (.object declared) => properties next required site declared
  | some other => do
    note [.propertiesNotObject site.path other]
    return []
  | none => return []

/-- What becomes of other members. A null stands for a schema that accepts
anything. -/
def additional (schema : Members) (site : Site) : m (Additional Validator) := do
  match Members.get? schema "additionalProperties" with
  | some (.bool false) => return .reject
  | some (.object fields) =>
    return .schema (← next (.object fields) (site.nested ["additionalProperties"]))
  | some .null => return .schema (← next .null (site.nested ["additionalProperties"]))
  | _ => return .ignore

/-- An object. -/
def object (schema : Members) (site : Site) : m Validator := do
  let required ← noting (Constraint.required schema site.path)
  let declared ← declared next schema required site
  let additional ← additional next schema site
  return .object declared additional

/-- A schema that names a type. -/
def typed (schema : Members) (type : PrimitiveType) (site : Site) : m Validator :=
  match type with
  | .string => string options schema site
  | .number => number schema false site
  | .integer => number schema true site
  | .boolean => return .boolean
  | .null => return .null
  | .array => array next schema site
  | .object => object next schema site

-- ============================================================ schemas

/-- A schema object, by its deciding keyword. -/
def schema (members : Members) (site : Site) : m Validator := do
  match ← noting (SchemaKind.of members) with
  | .reference target => follow target site
  | .union variants => union next members variants site
  | .typeList names => typeList next members names site
  | .enum values => return enumeration values
  | .const value => return .literal value
  | .primitive type => typed options next members type site
  | .implicitObject => typed options next members .object site
  | .unconstrained => return .any

end

/-- The site at a schema object: while no definitions are in force, those that
the schema declares come into force with it, as a pool of their own. -/
def establish (members : Members) (site : Site) : Compile Site := do
  if site.pool.definitions.isEmpty then
    let number := (← get).poolCount
    modify fun p => { p with poolCount := number + 1 }
    return { site with pool := ⟨Definitions.declaredBy members, number⟩ }
  else return site

/-- Compiles a schema with some levels left. -/
def compile (setting : Setting) : Nat → Json → Site → Compile Validator
  | 0, .object _, site => throw (.depthExceeded site.path setting.options.maxDepth)
  | levels + 1, .object members, site => do
    let site ← establish members site
    schema setting.options (reference setting levels (compile setting levels))
      (compile setting levels) members site
  | _, _, _ => return .any

/-- The levels that a schema may have: one more than its greatest depth. -/
def levels (options : CompileOptions) : Nat := options.maxDepth + 1

/-- What a compilation comes to: a validator or an error, and warnings. -/
structure Outcome where
  result : Except CompileError Validator
  warnings : Array Warning

/-- Runs a compilation from its beginning. -/
def start (step : Compile Validator) : Outcome :=
  let (result, progress) := (step.run).run {}
  ⟨result, progress.warnings⟩

end Compiler

-- ================================================================= API

/-- Compiles a schema against given definitions, on a branch that has entered
some references already. Definitions that are empty give way to the first ones
declared in the schema. -/
def compileNode (schema : Json) (pool : Definitions) (visited : VisitedPath)
    (options : CompileOptions) : Compiler.Outcome :=
  Compiler.start (Compiler.compile { options } (Compiler.levels options) schema
    { pool := ⟨pool, 0⟩, visited, path := "#" })

/-- Compiles a schema with its own definitions. -/
def compile (schema : Json) (options : CompileOptions := {}) : Compiler.Outcome :=
  compileNode schema {} .empty options

/-- Compiles the schema of a request, or what stands in for one that is missing
or null. -/
def compileRequest (schema : Option Json) (kind : RequestKind) (options : CompileOptions) :
    Compiler.Outcome :=
  let fallback : Compiler.Outcome :=
    match kind with
    | .extract => ⟨.ok (.string {}), #[]⟩
    | .query => ⟨.ok .any, #[]⟩
  match schema with
  | none => fallback
  | some .null => fallback
  | some schema => compile schema options

/-- Compiles the definition of a deferred reference. The reference is entered
anew, so the definition may again refer to itself only beyond a descent. -/
def Deferred.compile (d : Deferred) : Compiler.Outcome :=
  match d.pool.resolve? d.reference with
  | none => ⟨.error (.unresolvedReference d.reference (Definitions.targetName d.reference)), #[]⟩
  | some definition =>
    Compiler.start (Compiler.compile { options := d.options, origin := d.key }
      (Compiler.levels d.options) definition
      { pool := ⟨d.pool, 0⟩, visited := d.visited.enter d.reference, path := d.reference })

end Conformance
