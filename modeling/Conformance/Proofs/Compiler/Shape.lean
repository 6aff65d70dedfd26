/-
The shape of a schema object: what its keywords ask for, with the schemas
beneath it.

A shape says nothing of references entered, of depth or of where the schema
stands. It is what is left of a schema object once its keywords have been read,
and so it is what both the compiler and the meaning of schemas start from. A
schema object whose pattern cannot be read has no shape.
-/
import Conformance.Compiler.Basic
import Conformance.Proofs.Compiler.Kinds

namespace Conformance

/-- What a schema object asks for. -/
inductive Shape where
  | anything
  | reference (target : String)
  /-- What the inner schema asks for, or null, or nothing. -/
  | optional (inner : Json)
  | union (alternatives : List Json)
  /-- One of some values. -/
  | values (values : List Json)
  | string (rules : StringRules)
  | number (rules : NumberRules)
  | boolean
  | null
  | array (items : Json) (bounds : ItemBounds)
  | object (properties : List (Property Json)) (additional : Additional Json)

namespace Shape

open Compiler

-- ============================================================= reading

/-- The pattern of a schema, if it has none or it can be read. -/
def pattern? (members : Members) : Option (Option Pattern) :=
  match (Constraint.pattern members "").1 with
  | none => some none
  | some source =>
    match Pattern.ofText source with
    | .ok pattern => some (some pattern)
    | .error _ => none

/-- The rules for strings. -/
def stringRules? (formats : FormatPolicy) (members : Members) : Option StringRules :=
  (pattern? members).map fun pattern =>
    { (Constraint.lengthRules members "").1 with
      pattern, format := Constraint.format members formats }

/-- The schema for the items of an array. A null asks for nothing. -/
def itemSchema (members : Members) : Json :=
  match Members.get? members "items" with
  | some (.object items) => .object items
  | _ => .null

/-- The declared properties of an object, each with its schema. -/
def declared (members : Members) : List (Property Json) :=
  match Members.get? members "properties" with
  | some (.object declared) =>
    declared.map fun e => ⟨e.1, (Constraint.required members "").1.contains e.1, e.2⟩
  | _ => []

/-- What a schema asks of members that are not declared. -/
def additional (members : Members) : Additional Json :=
  match Members.get? members "additionalProperties" with
  | some (.bool false) => .reject
  | some (.object fields) => .schema (.object fields)
  | some .null => .schema .null
  | _ => .ignore

/-- The shape of a schema that names a type. -/
def typed? (formats : FormatPolicy) (members : Members) : PrimitiveType → Option Shape
  | .string => (stringRules? formats members).map .string
  | .number => some (.number (Constraint.numberRules members false "").1)
  | .integer => some (.number (Constraint.numberRules members true "").1)
  | .boolean => some .boolean
  | .null => some .null
  | .array => some (.array (itemSchema members) (Constraint.itemBounds members "").1)
  | .object => some (.object (declared members) (additional members))

/-- Alternatives by schema: one optional schema, or a union. -/
def ofVariants (members : Members) (variants : List Json) : Shape :=
  match soleAlternative? isNullSchema variants with
  | some (sole, _) => .optional (merged members sole)
  | none => .union variants

/-- Alternatives by type: one optional schema, or a union. -/
def ofNames (members : Members) (names : List Json) : Shape :=
  match soleAlternative? isNullName names with
  | some (sole, _) => .optional (withType members sole)
  | none => .union (names.map (withType members))

end Shape

/-- The shape of a schema object, by its deciding keyword. -/
def shape? (formats : FormatPolicy) (members : Members) : Option Shape :=
  match (SchemaKind.of members).1 with
  | .reference target => some (.reference target)
  | .union variants => some (Shape.ofVariants members variants)
  | .typeList names => some (Shape.ofNames members names)
  | .enum values => some (.values values)
  | .const value => some (.values [value])
  | .primitive type => Shape.typed? formats members type
  | .implicitObject => Shape.typed? formats members .object
  | .unconstrained => some .anything

-- ============================================================== by kind

section

variable {members : Members} (formats : FormatPolicy)

/-- A reference hides all other keywords of its node. -/
theorem shape?_of_reference {target : String}
    (h : (SchemaKind.of members).1 = .reference target) :
    shape? formats members = some (.reference target) := by
  rw [shape?, h]

/-- An `anyOf` hides the rules for values. -/
theorem shape?_of_union {variants : List Json}
    (h : (SchemaKind.of members).1 = .union variants) :
    shape? formats members = some (.ofVariants members variants) := by
  rw [shape?, h]

/-- A list of types does, too, until one of them is put in its place. -/
theorem shape?_of_typeList {names : List Json}
    (h : (SchemaKind.of members).1 = .typeList names) :
    shape? formats members = some (.ofNames members names) := by
  rw [shape?, h]

/-- An array has a shape whatever is under `items`. -/
theorem shape?_of_array (h : (SchemaKind.of members).1 = .primitive .array) :
    shape? formats members
      = some (.array (Shape.itemSchema members) (Constraint.itemBounds members "").1) := by
  rw [shape?, h]
  rfl

/-- Whether the type is given or taken from `properties`, an object has the same shape. -/
theorem shape?_of_isObject (h : (SchemaKind.of members).1.IsObject) :
    shape? formats members
      = some (.object (Shape.declared members) (Shape.additional members)) := by
  rcases h with h | h
  · rw [shape?, h]; rfl
  · rw [shape?, h]; rfl

/-- A string schema whose pattern cannot be read has no shape. -/
theorem shape?_of_pattern {source : String} {error : PatternError}
    (h : (SchemaKind.of members).1 = .primitive .string)
    (hsource : (Constraint.pattern members "").1 = some source)
    (herror : Pattern.ofText source = .error error) : shape? formats members = none := by
  have hpattern : Shape.pattern? members = none := by
    rw [Shape.pattern?, hsource]
    simp only [herror]
  rw [shape?, h]
  simp only [Shape.typed?, Shape.stringRules?, hpattern]
  rfl

end

-- ================================================== values and warnings

/-! A keyword's value does not depend on where the schema stands. Only the
warnings do. -/

namespace Constraint

/-- A path shows in warnings only, so what is read under one path is read under any. -/
theorem count_fst (members : Members) (keyword path : String) :
    (count members keyword path).1 = (count members keyword "").1 := by
  unfold count
  split
  · rfl
  · split <;> rfl
  · rfl

theorem number_fst (members : Members) (keyword path : String) (switch : Bool) :
    (number members keyword path switch).1 = (number members keyword "" switch).1 := by
  unfold number
  split
  · rfl
  · rfl
  · split <;> rfl

/-- The same holds of all rules that are read off several keywords. -/
theorem lengthRules_fst (members : Members) (path : String) :
    (lengthRules members path).1 = (lengthRules members "").1 := by
  show StringRules.mk (count members "minLength" path).1 (count members "maxLength" path).1 _ _ = _
  rw [count_fst, count_fst members "maxLength"]
  rfl

theorem itemBounds_fst (members : Members) (path : String) :
    (itemBounds members path).1 = (itemBounds members "").1 := by
  show ItemBounds.mk (count members "minItems" path).1 (count members "maxItems" path).1 = _
  rw [count_fst, count_fst members "maxItems"]
  rfl

theorem pattern_fst (members : Members) (path : String) :
    (pattern members path).1 = (pattern members "").1 := by
  unfold pattern
  split <;> rfl

/-- Required names that are no strings are passed over with a warning. -/
theorem required_fst (members : Members) (path : String) :
    (required members path).1 = (required members "").1 := by
  unfold required
  split <;> rfl

theorem numberRules_fst (members : Members) (integer : Bool) (path : String) :
    (numberRules members integer path).1 = (numberRules members integer "").1 := by
  unfold numberRules
  simp only [number_fst members _ path]
  -- of the rules themselves only the warning about the step mentions the path
  cases (number members "multipleOf" "").1 with
  | none => rfl
  | some step => cases hpositive : step.isPositive <;> simp [hpositive]

end Constraint

end Conformance
