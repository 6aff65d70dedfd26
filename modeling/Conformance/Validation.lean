/-
Validation: running validators on data.

A validator parses a value to its conforming form or reports issues. Parsing is
not the identity: undeclared members may be dropped, and members come in the
order of their declaration.

Deferred references. The walk over a validator is structural; what a deferred
node stands for is asked of a `Lookup`, which may keep a state. Behind a
deferred node the walk starts over on what its definition compiled to. That
comes to an end: entering a reference takes the mark from it, so at one and the
same value every deferred node has fewer marks than the one before, and the
data only nests so deep. A node that had no fewer would stand on a cycle that
reaches no data, which matches nothing, just as it does in compilation.
-/
import Conformance.Compiler.Basic

namespace Conformance

/-- What parsing a value yields: its conforming form, or issues. -/
abbrev Parsed := Except (List Issue) Json

/-- Finds out what a deferred reference stands for: a validator, or the reason
why there is none. -/
abbrev Lookup (σ : Type) := Deferred → StateM σ (Except String Validator)

-- ============================================================== issues

namespace Issue

/-- A value of the wrong type. -/
def wrongType (expected : String) (value : Json) (location : Location) : Issue :=
  .about location (.invalidType expected value.typeName)
    ("expected " ++ expected ++ ", got " ++ value.typeName)

/-- A value that is none of the alternatives; each tells its first reason. -/
def noVariant (variants : Nat) (reasons : List String) (location : Location) : Issue :=
  let summary := if reasons.isEmpty then "" else " (" ++ "; ".intercalate reasons ++ ")"
  .about location (.noMatchingVariant variants)
    (s!"value matched none of {variants} variants" ++ summary)

/-- A reference that could not be compiled. -/
def unresolved (reference reason : String) (location : Location) : Issue :=
  .about location (.unresolvedReference reference) reason

end Issue

namespace Validator

section

variable {σ : Type}

-- ============================================================= absence

section

/-! `enter` answers for deferred nodes. -/

variable (enter : Deferred → StateM σ Bool)

mutual

/-- Whether an absent value is acceptable. -/
def absentWith : Validator → StateM σ Bool
  | any => return true
  | optional _ => return true
  | union variants => someAbsentWith variants
  | shared _ target => absentWith target
  | deferred d => enter d
  | _ => return false

/-- Whether one of some validators accepts an absent value. The rest is not
asked. -/
def someAbsentWith : List Validator → StateM σ Bool
  | [] => return false
  | v :: rest => do
    if ← absentWith v then return true else someAbsentWith rest

end

end

-- ============================================================= parsing

/-- The value if there are no issues. -/
def accepted (value : Json) (issues : List Issue) : Parsed :=
  if issues.isEmpty then .ok value else .error issues

/-- Parses items one after the other: the issues of all, and the items that
conform. -/
def parseItems (parse : Json → Location → StateM σ Parsed) (location : Location) :
    Nat → List Json → StateM σ (List Issue × List Json)
  | _, [] => return ([], [])
  | i, item :: rest => do
    let found ← parse item (location.item i)
    let (issues, items) ← parseItems parse location (i + 1) rest
    match found with
    | .ok v => return (issues, v :: items)
    | .error own => return (own ++ issues, items)

/-- Parses members under their names: the issues of all, and the members that
conform. -/
def parseMembers (parse : Json → Location → StateM σ Parsed) (location : Location) :
    List (String × Json) → StateM σ (List Issue × List (String × Json))
  | [] => return ([], [])
  | (name, value) :: rest => do
    let found ← parse value (location.member name)
    let (issues, members) ← parseMembers parse location rest
    match found with
    | .ok v => return (issues, (name, v) :: members)
    | .error own => return (own ++ issues, members)

/-- A member that is not declared and may not be there. -/
def unknownMember (location : Location) (name : String) : Issue :=
  .about (location.member name) (.unknownProperty name)
    ("unrecognized property '" ++ name ++ "'")

/-- A declared member that should be there and is not. -/
def missingMember (location : Location) (name : String) : Issue :=
  .about (location.member name) .missing ("required property '" ++ name ++ "' is missing")

section

/-! `absent` and `enter` answer for deferred nodes. -/

variable (absent : Deferred → StateM σ Bool)
variable (enter : Deferred → Json → Location → StateM σ Parsed)

mutual

/-- Parses a value. -/
def parseWith : Validator → Json → Location → StateM σ Parsed
  | any, value, _ => return .ok value
  | null, value, location =>
    match value with
    | .null => return .ok .null
    | other => return .error [.wrongType "null" other location]
  | boolean, value, location =>
    match value with
    | .bool b => return .ok (.bool b)
    | other => return .error [.wrongType "boolean" other location]
  | string rules, value, location =>
    match value with
    | .string s => return accepted (.string s) (rules.check s location)
    | other => return .error [.wrongType "string" other location]
  | number rules, value, location =>
    match value with
    | .number n => return accepted (.number n) (rules.check n location)
    | other =>
      let expected := if rules.integer then "integer" else "number"
      return .error [.wrongType expected other location]
  | literal expected, value, location =>
    if value.same expected then return .ok value
    else
      return .error [.about location (.literalMismatch expected)
        ("expected literal " ++ expected.compact ++ ", got " ++ value.compact)]
  | stringEnum allowed, value, location =>
    match value with
    | .string s =>
      if allowed.contains s then return .ok (.string s)
      else
        return .error [.about location (.notInEnum allowed)
          ("value " ++ Text.quoted s ++ " is not one of " ++ Text.quotedList allowed)]
    | other => return .error [.wrongType "string" other location]
  | array items bounds, value, location =>
    match value with
    | .array values => do
      let (issues, parsed) ← parseItems (parseWith items) location 0 values
      return accepted (.array parsed) (bounds.check values.length location ++ issues)
    | other => return .error [.wrongType "array" other location]
  | object properties additional, value, location =>
    match value with
    | .object members => do
      let (issues, declared) ← parseProperties properties members location
      let others := members.filter fun m => !properties.any (·.name == m.1)
      let (more, extra) ← parseOthers additional others location
      return accepted (.object (Members.ofList (declared ++ extra))) (issues ++ more)
    | other => return .error [.wrongType "object" other location]
  | union variants, value, location => parseVariants variants 0 [] value location
  | optional inner, value, location =>
    match value with
    | .null => return .ok .null
    | other => parseWith inner other location
  | shared _ target, value, location => parseWith target value location
  | deferred d, value, location => enter d value location

/-- Parses the declared members of an object in the order of declaration. -/
def parseProperties : List (Property Validator) → List (String × Json) → Location →
    StateM σ (List Issue × List (String × Json))
  | [], _, _ => return ([], [])
  | ⟨name, required, validator⟩ :: rest, members, location => do
    let own : List Issue × List (String × Json) ← match Members.get? members name with
      | some value => do
        match ← parseWith validator value (location.member name) with
        | .ok v => pure ([], [(name, v)])
        | .error issues => pure (issues, [])
      | none =>
        if required then do
          if ← absentWith absent validator then pure ([], [])
          else pure ([missingMember location name], [])
        else pure ([], [])
    let (issues, parsed) ← parseProperties rest members location
    return (own.1 ++ issues, own.2 ++ parsed)

/-- Parses the members of an object that are not declared. -/
def parseOthers : Additional Validator → List (String × Json) → Location →
    StateM σ (List Issue × List (String × Json))
  | .ignore, _, _ => return ([], [])
  | .reject, members, location => return (members.map fun m => unknownMember location m.1, [])
  | .schema catchAll, members, location => parseMembers (parseWith catchAll) location members

/-- Tries alternatives in order, `tried` of them so far for the given reasons.
The first that accepts the value wins. -/
def parseVariants : List Validator → Nat → List String → Json → Location → StateM σ Parsed
  | [], tried, reasons, _, location => return .error [.noVariant tried reasons location]
  | v :: rest, tried, reasons, value, location => do
    match ← parseWith v value location with
    | .ok parsed => return .ok parsed
    | .error issues =>
      let reason := issues.head?.map fun first => s!"variant {tried}: " ++ first.message
      parseVariants rest (tried + 1) (reasons ++ reason.toList) value location

end

end

-- ========================================================== alternatives

section

/-! `parse` answers for alternatives, `enter` for deferred nodes. -/

variable (parse : Validator → Json → StateM σ Parsed)
variable (enter : Deferred → Json → StateM σ (Option Nat))

/-- The place of the first alternative that accepts a value, counted from
`place`. -/
def firstVariant (value : Json) : List Validator → Nat → StateM σ (Option Nat)
  | [], _ => return none
  | v :: rest, place => do
    match ← parse v value with
    | .ok _ => return some place
    | .error _ => firstVariant value rest (place + 1)

/-- The alternative that accepts a value, behind whatever wraps the
alternatives. -/
def variantWith : Validator → Json → StateM σ (Option Nat)
  | union variants, value => firstVariant parse value variants 0
  | optional inner, value =>
    match value with
    | .null => return none
    | other => variantWith inner other
  | shared _ target, value => variantWith target value
  | deferred d, value => enter d value
  | _, _ => return none

end

end

end Validator

-- ==================================================== deferred references

namespace Deferred

section

variable {σ : Type} (lookup : Lookup σ)

/-- Whether the definition accepts an absent value. -/
def absent (d : Deferred) : StateM σ Bool := do
  match ← lookup d with
  | .ok target =>
    Validator.absentWith
      (fun e =>
        if e.visited.nestedCount < d.visited.nestedCount then absent e else return false)
      target
  | .error _ => return false
termination_by d.visited.nestedCount

/-- Parses a value by the definition. -/
def parse (d : Deferred) (value : Json) (location : Location) : StateM σ Parsed := do
  match ← lookup d with
  | .ok target =>
    Validator.parseWith (absent lookup)
      (fun e inner place =>
        if inner.height < value.height ∨
            inner.height = value.height ∧ e.visited.nestedCount < d.visited.nestedCount then
          parse e inner place
        else return .error [.noVariant 0 [] place])
      target value location
  | .error reason => return .error [.unresolved d.reference reason location]
termination_by (value.height, d.visited.nestedCount)
decreasing_by
  rename_i h
  rcases h with h | ⟨heq, h⟩
  · exact Prod.Lex.left _ _ h
  · rw [heq]
    exact Prod.Lex.right _ h

end

end Deferred

namespace Validator

section

variable {σ : Type} (lookup : Lookup σ)

/-- Whether an absent value is acceptable. -/
def absentBy (v : Validator) : StateM σ Bool := absentWith (Deferred.absent lookup) v

/-- Parses a value at a location. -/
def parseBy (v : Validator) (value : Json) (location : Location) : StateM σ Parsed :=
  parseWith (Deferred.absent lookup) (Deferred.parse lookup) v value location

end

end Validator

namespace Deferred

section

variable {σ : Type} (lookup : Lookup σ)

/-- The alternative of the definition that accepts a value. -/
def variant (d : Deferred) (value : Json) : StateM σ (Option Nat) := do
  match ← lookup d with
  | .ok target =>
    Validator.variantWith (fun v x => v.parseBy lookup x [])
      (fun e inner =>
        if e.visited.nestedCount < d.visited.nestedCount then variant e inner else return none)
      target value
  | .error _ => return none
termination_by d.visited.nestedCount

end

end Deferred

namespace Validator

section

variable {σ : Type} (lookup : Lookup σ)

/-- The alternative that accepts a value. -/
def variantBy (v : Validator) (value : Json) : StateM σ (Option Nat) :=
  variantWith (fun v x => v.parseBy lookup x []) (Deferred.variant lookup) v value

/-- Parses a value, or its absence. -/
def parseOptionalBy (v : Validator) (value : Option Json) :
    StateM σ (Except Failure (Option Json)) := do
  match value with
  | some value =>
    match ← v.parseBy lookup value [] with
    | .ok parsed => return .ok (some parsed)
    | .error issues => return .error ⟨issues⟩
  | none =>
    if ← v.absentBy lookup then return .ok none
    else return .error ⟨[.about [] .missing "value is required"]⟩

end

end Validator

end Conformance
