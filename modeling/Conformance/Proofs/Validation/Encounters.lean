/-
How nodes take values.

Most kinds of node are for values of one type. A value of any other type is not looked into,
and all that is said of it is that it has the wrong type (`Mistyped`). The other kinds take
every value. So of all pairs of a node and a value only a few behave in a way of their own,
one for each kind of node and two for the optional one. `Faces` lists them, with all the
mistyped values as one more. A proof that goes through what a validator can meet goes
through this list, and not through every type of value at every kind of node.
-/
import Conformance.Proofs.Validator.Basic
import Conformance.Validation

namespace Conformance

/-- The value is of the type. -/
inductive PrimitiveType.Of : PrimitiveType → Json → Prop
  | string (s : String) : Of .string (.string s)
  | number (n : Number) : Of .number (.number n)
  | integer {n : Number} (h : n.isWhole = true) : Of .integer (.number n)
  | boolean (b : Bool) : Of .boolean (.bool b)
  | null : Of .null .null
  | array (items : List Json) : Of .array (.array items)
  | object (members : Members) : Of .object (.object members)

namespace Validator

/-- The value is not of the type that the node is for, and wherever it stands and whatever is
known of deferred references, this is what is said of it. A number that is not whole is not
meant: where whole numbers are asked for, that is a rule which it breaks. -/
structure Mistyped (v : Validator) (x : Json) (expected : PrimitiveType) : Prop where
  not_of : ¬ expected.Of x
  parseWith_eq : ∀ {σ : Type} (absent : Deferred → StateM σ Bool)
    (enter : Deferred → Json → Location → StateM σ Parsed) (location : Location),
    parseWith absent enter v x location = pure (.error [.wrongType expected.name x location])

/-- A node and a value: one the node is for, or one of the wrong type. -/
inductive Faces : Validator → Json → Prop
  | any (x : Json) : Faces any x
  | null : Faces null .null
  | boolean (b : Bool) : Faces boolean (.bool b)
  | string (rules : StringRules) (s : String) : Faces (string rules) (.string s)
  | number (rules : NumberRules) (n : Number) : Faces (number rules) (.number n)
  | literal (expected x : Json) : Faces (literal expected) x
  | stringEnum (allowed : List String) (s : String) : Faces (stringEnum allowed) (.string s)
  | array (items : Validator) (bounds : ItemBounds) (values : List Json) :
      Faces (array items bounds) (.array values)
  | object (properties : List (Property Validator)) (additional : Additional Validator)
      (members : Members) : Faces (object properties additional) (.object members)
  | union (variants : List Validator) (x : Json) : Faces (union variants) x
  | optionalNull (inner : Validator) : Faces (optional inner) .null
  | optional (inner : Validator) {x : Json} (hx : x ≠ .null) : Faces (optional inner) x
  | shared (number : Nat) (target : Validator) (x : Json) : Faces (shared number target) x
  | deferred (d : Deferred) (x : Json) : Faces (deferred d) x
  | mistyped {v : Validator} {x : Json} (expected : PrimitiveType)
      (h : v.Mistyped x expected) : Faces v x

/-- There are no other pairs. -/
theorem faces (v : Validator) (x : Json) : v.Faces x := by
  cases v with
  | any => exact .any x
  | null =>
      cases x with
      | null => exact .null
      | _ => exact .mistyped .null ⟨nofun, fun _ _ _ => rfl⟩
  | boolean =>
      cases x with
      | bool b => exact .boolean b
      | _ => exact .mistyped .boolean ⟨nofun, fun _ _ _ => rfl⟩
  | string rules =>
      cases x with
      | string s => exact .string rules s
      | _ => exact .mistyped .string ⟨nofun, fun _ _ _ => rfl⟩
  | number rules =>
      -- the type that is named depends on the rules, the values that are looked into do not
      obtain ⟨integer, minimum, exclusiveMinimum, maximum, exclusiveMaximum, multipleOf⟩ := rules
      cases x with
      | number n => exact .number _ n
      | _ =>
          cases integer with
          | false => exact .mistyped .number ⟨nofun, fun _ _ _ => rfl⟩
          | true => exact .mistyped .integer ⟨nofun, fun _ _ _ => rfl⟩
  | literal expected => exact .literal expected x
  | stringEnum allowed =>
      cases x with
      | string s => exact .stringEnum allowed s
      | _ => exact .mistyped .string ⟨nofun, fun _ _ _ => rfl⟩
  | array items bounds =>
      cases x with
      | array values => exact .array items bounds values
      | _ => exact .mistyped .array ⟨nofun, fun _ _ _ => rfl⟩
  | object properties additional =>
      cases x with
      | object members => exact .object properties additional members
      | _ => exact .mistyped .object ⟨nofun, fun _ _ _ => rfl⟩
  | union variants => exact .union variants x
  | optional inner =>
      cases x with
      | null => exact .optionalNull inner
      | _ => exact .optional inner nofun
  | deferred d => exact .deferred d x
  | shared number target => exact .shared number target x

/-- An optional node is not felt but by null. -/
theorem parseWith_optional_of_ne {σ : Type} {absent : Deferred → StateM σ Bool}
    {enter : Deferred → Json → Location → StateM σ Parsed} {x : Json} (hx : x ≠ .null)
    (inner : Validator) (location : Location) :
    parseWith absent enter (optional inner) x location
      = parseWith absent enter inner x location := by
  cases x with
  | null => exact absurd rfl hx
  | _ => rfl

end Validator

end Conformance
