/-
What a schema object says when a keyword decides it.

Each stage of the precedence of keywords either finds its keyword in the right
shape, and then that decides, or leaves the decision to the next stage. So from
the kind of a schema object one can read off what stands in it.
-/
import Conformance.Keyword

namespace Conformance

namespace SchemaKind

variable {members : Members}

-- =============================================================== stages

/-- The keywords are tried in turn. A reference decides, or else what comes below it. -/
theorem of_cases (members : Members) :
    (∃ target, members.get? "$ref" = some (.string target) ∧ target.isEmpty = false ∧
      (of members).1 = reference target) ∨
    (of members).1 = (ofUnion members).1 := by
  unfold of
  split
  · next target hget =>
    cases hempty : target.isEmpty with
    | true => exact .inr rfl
    | false => exact .inl ⟨target, hget, hempty, rfl⟩
  · exact .inr rfl
  · exact .inr rfl

/-- Then an array under `anyOf`. -/
theorem ofUnion_cases (members : Members) :
    (∃ variants, members.get? "anyOf" = some (.array variants) ∧
      (ofUnion members).1 = union variants) ∨
    (∀ variants, members.get? "anyOf" ≠ some (.array variants)) ∧
      (ofUnion members).1 = (ofTypes members).1 := by
  unfold ofUnion
  split
  · next variants hget => exact .inl ⟨variants, hget, rfl⟩
  · next other hother hget =>
    refine .inr ⟨fun variants h => ?_, rfl⟩
    exact hother variants (Option.some.inj (hget.symm.trans h))
  · next hget => exact .inr ⟨fun variants h => (nomatch hget.symm.trans h), rfl⟩

/-- Where neither a reference nor alternatives decide, types or values do. -/
theorem of_eq_ofTypes (hunion : ∀ variants, (of members).1 ≠ union variants)
    (hreference : ∀ target, (of members).1 ≠ reference target) :
    (of members).1 = (ofTypes members).1 := by
  rcases of_cases members with ⟨target, -, -, hof⟩ | hof
  · exact absurd hof (hreference target)
  · rcases ofUnion_cases members with ⟨variants, -, hofUnion⟩ | ⟨-, hofUnion⟩
    · exact absurd (hof.trans hofUnion) (hunion variants)
    · exact hof.trans hofUnion

/-- Then an array under `type`. -/
theorem ofTypes_cases (members : Members) :
    (∃ names, members.get? "type" = some (.array names) ∧
      (ofTypes members).1 = typeList names) ∨
    (ofTypes members).1 = (ofValues members).1 := by
  unfold ofTypes
  split
  · next names hget => exact .inl ⟨names, hget, rfl⟩
  · exact .inr rfl

/-- Then the values that are listed, or the single one. -/
theorem ofValues_cases (members : Members) :
    (∃ values, (ofValues members).1 = enum values) ∨
    (∃ value, (ofValues members).1 = const value) ∨
    (ofValues members).1 = ofType members := by
  unfold ofValues
  cases members.get? "enum" with
  | none =>
      cases members.get? "const" with
      | some value => exact .inr (.inl ⟨value, rfl⟩)
      | none => exact .inr (.inr rfl)
  | some listed =>
      cases listed with
      | array values => exact .inl ⟨values, rfl⟩
      | _ =>
          cases members.get? "const" with
          | some value => exact .inr (.inl ⟨value, rfl⟩)
          | none => exact .inr (.inr rfl)

/-- At last the name of a type, or `properties` without one. -/
theorem ofType_cases (members : Members) :
    (∃ type, primitive? members = some type ∧ ofType members = primitive type) ∨
    ofType members = implicitObject ∨ ofType members = unconstrained := by
  unfold ofType
  split
  · next type htype => exact .inl ⟨type, htype, rfl⟩
  · split
    · exact .inr (.inl rfl)
    · exact .inr (.inr rfl)

-- ============================================================= readings

/-- The kind is one that lists no schemas and points at none. -/
def IsPlain : SchemaKind → Prop
  | reference _ | union _ | typeList _ => False
  | _ => True

/-- The schema object describes the members of an object. -/
def IsObject (kind : SchemaKind) : Prop := kind = primitive .object ∨ kind = implicitObject

/-- Below lists of types there are no schemas to be gone into, except those of an object
or an array. -/
theorem isPlain_ofValues (members : Members) : (ofValues members).1.IsPlain := by
  rcases ofValues_cases members with ⟨values, h⟩ | ⟨value, h⟩ | h
  · rw [h]; trivial
  · rw [h]; trivial
  · rw [h]
    rcases ofType_cases members with ⟨type, -, h⟩ | h | h
    · rw [h]; trivial
    · rw [h]; trivial
    · rw [h]; trivial

/-- The deciding keyword with what it holds, down to the keywords that neither
list schemas nor point at any. -/
theorem decided (members : Members) :
    (∃ target, members.get? "$ref" = some (.string target) ∧ target.isEmpty = false ∧
      (of members).1 = reference target) ∨
    (∃ variants, members.get? "anyOf" = some (.array variants) ∧
      (of members).1 = union variants) ∨
    (∀ variants, members.get? "anyOf" ≠ some (.array variants)) ∧
      ((∃ names, members.get? "type" = some (.array names) ∧ (of members).1 = typeList names) ∨
      (of members).1 = (ofValues members).1) := by
  rcases of_cases members with h | hof
  · exact .inl h
  · rw [hof]
    rcases ofUnion_cases members with h | ⟨hnone, hunion⟩
    · exact .inr (.inl h)
    · rw [hunion]
      exact .inr (.inr ⟨hnone, ofTypes_cases members⟩)

/-- A reference decides where `$ref` holds a string that is not empty. -/
theorem of_eq_reference_iff {target : String} :
    (of members).1 = reference target ↔
      members.get? "$ref" = some (.string target) ∧ target.isEmpty = false := by
  constructor
  · intro h
    have hplain := isPlain_ofValues members
    -- the keyword that has decided is `$ref`, since no other yields a reference
    rcases decided members with ⟨_, hget, hempty, hof⟩ | ⟨_, _, hof⟩ | ⟨_, ⟨_, _, hof⟩ | hof⟩
    · rw [hof] at h
      cases h
      exact ⟨hget, hempty⟩
    · rw [hof] at h; cases h
    · rw [hof] at h; cases h
    · rw [← hof, h] at hplain; cases hplain
  · intro h
    obtain ⟨hget, hempty⟩ := h
    unfold of
    rw [hget]
    simp only [hempty]
    rfl

/-- Alternatives decide where `anyOf` holds them. -/
theorem get?_of_union {variants : List Json} (h : (of members).1 = union variants) :
    members.get? "anyOf" = some (.array variants) := by
  have hplain := isPlain_ofValues members
  rcases decided members with ⟨_, _, _, hof⟩ | ⟨_, hget, hof⟩ | ⟨_, ⟨_, _, hof⟩ | hof⟩
  · rw [hof] at h; cases h
  · rw [hof] at h
    cases h
    exact hget
  · rw [hof] at h; cases h
  · rw [← hof, h] at hplain; cases hplain

/-- A list of types decides where `type` holds it, unless there are
alternatives. -/
theorem get?_of_typeList {names : List Json} (h : (of members).1 = typeList names) :
    members.get? "type" = some (.array names) ∧
      ∀ variants, members.get? "anyOf" ≠ some (.array variants) := by
  have hplain := isPlain_ofValues members
  rcases decided members with ⟨_, _, _, hof⟩ | ⟨_, _, hof⟩ | ⟨hnone, ⟨_, hget, hof⟩ | hof⟩
  · rw [hof] at h; cases h
  · rw [hof] at h; cases h
  · rw [hof] at h
    cases h
    exact ⟨hget, hnone⟩
  · rw [← hof, h] at hplain; cases hplain

end SchemaKind

end Conformance
