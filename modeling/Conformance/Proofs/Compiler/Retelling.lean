/-
Schemas told otherwise.

The compiler reads a schema object by looking up keywords. Those in
`plainKeywords` hold no schemas, and what they say depends on what is found
under them and on nothing else (`Members.Agree`). The other four hold schemas,
and to those the compiler hands on what it finds.

So there are ways to tell a schema otherwise, without the compiler asking for
anything else of it: leave the plain keywords as they are, and tell the schemas
beneath in the same way. `Retelling` says what such a way has to come up to. Both
the schemas that the compiler puts together from two are told like all others.
-/
import Conformance.Proofs.Compiler.Kinds
import Conformance.Proofs.Lists
import Conformance.Compiler.Basic

namespace Conformance

-- ========================================================= plain keywords

/-- The keywords that are read as they stand. -/
def plainKeywords : List String :=
  ["$ref", "type", "enum", "const", "minLength", "maxLength", "pattern", "format", "minimum",
    "maximum", "exclusiveMinimum", "exclusiveMaximum", "multipleOf", "minItems", "maxItems",
    "required"]

/-- The same is found under every plain keyword. -/
def Members.Agree (ms ns : Members) : Prop := ∀ name ∈ plainKeywords, ms.get? name = ns.get? name

namespace Constraint

variable {ms ns : Members}

/-- A keyword that is found with the same value is read in the same way, with the same
warnings. -/
theorem count_congr {keyword : String} (h : ms.get? keyword = ns.get? keyword) (path : String) :
    count ms keyword path = count ns keyword path := by
  rw [count, count, h]

theorem number_congr {keyword : String} (h : ms.get? keyword = ns.get? keyword) (path : String)
    (switch : Bool) : number ms keyword path switch = number ns keyword path switch := by
  rw [number, number, h]

theorem isOn_congr {keyword : String} (h : ms.get? keyword = ns.get? keyword) :
    isOn ms keyword = isOn ns keyword := by
  rw [isOn, isOn, h]

variable (h : ms.Agree ns)

include h

/-- So are the rules for each type of data, which are read off plain keywords. -/
theorem lengthRules_congr (path : String) : lengthRules ms path = lengthRules ns path := by
  have hmin := count_congr (h "minLength" (by decide)) path
  have hmax := count_congr (h "maxLength" (by decide)) path
  rw [lengthRules, lengthRules, hmin, hmax]

theorem itemBounds_congr (path : String) : itemBounds ms path = itemBounds ns path := by
  have hmin := count_congr (h "minItems" (by decide)) path
  have hmax := count_congr (h "maxItems" (by decide)) path
  rw [itemBounds, itemBounds, hmin, hmax]

theorem numberRules_congr (integer : Bool) (path : String) :
    numberRules ms integer path = numberRules ns integer path := by
  have hminimum := number_congr (h "minimum" (by decide)) path false
  have hmaximum := number_congr (h "maximum" (by decide)) path false
  have habove := h "exclusiveMinimum" (by decide)
  have hbelow := h "exclusiveMaximum" (by decide)
  have hstep := number_congr (h "multipleOf" (by decide)) path false
  rw [numberRules, numberRules, hminimum, hmaximum, number_congr habove, number_congr hbelow,
    hstep, isOn_congr habove, isOn_congr hbelow]

theorem pattern_congr (path : String) : pattern ms path = pattern ns path := by
  rw [pattern, pattern, h "pattern" (by decide)]

theorem format_congr (policy : FormatPolicy) : format ms policy = format ns policy := by
  unfold format
  rw [h "format" (by decide)]

/-- What is required is a list of names, so it is read as it stands too. -/
theorem required_congr (path : String) : required ms path = required ns path := by
  rw [required, required, h "required" (by decide)]

end Constraint

-- ================================================================ kinds

namespace SchemaKind

/-- The kind with the alternatives that it holds replaced. -/
def map (f : Json → Json) : SchemaKind → SchemaKind
  | union variants => union (variants.map f)
  | kind => kind

variable {ms ns : Members} (h : ms.Agree ns)
variable (hproperties : (ms.get? "properties").isSome = (ns.get? "properties").isSome)

include h hproperties

/-- Below alternatives only plain keywords decide, and the mention of properties. -/
theorem ofTypes_congr : ofTypes ms = ofTypes ns := by
  have htype := h "type" (by decide)
  have hof : ofType ms = ofType ns := by
    rw [ofType, ofType, primitive?, primitive?, htype, hproperties]
  rw [ofTypes, ofTypes, htype, ofValues, ofValues, h "enum" (by decide), h "const" (by decide),
    hof]

end SchemaKind

-- ========================================================= alternatives

/-- Which alternative is the only one beside null is seen from which of them are null, and
its place is the same. -/
theorem Compiler.soleAlternative?_map {isNull : Json → Bool} {f : Json → Json}
    (hnull : ∀ x, isNull (f x) = isNull x) (alternatives : List Json) :
    soleAlternative? isNull (alternatives.map f)
      = (soleAlternative? isNull alternatives).map fun found => (f found.1, found.2) := by
  -- those that are left are the same ones, told otherwise
  have hplaces : (alternatives.map f).zipIdx.filter (fun a => !isNull a.1)
      = (alternatives.zipIdx.filter fun a => !isNull a.1).map fun a => (f a.1, a.2) := by
    rw [List.zipIdx_map, List.filter_map]
    refine congrArg _ (List.filter_congr fun a _ => ?_)
    show (!isNull (f a.1)) = _
    rw [hnull]
  unfold soleAlternative?
  rw [hplaces, List.length_map]
  cases alternatives.zipIdx.filter fun a => !isNull a.1 with
  | nil => rfl
  | cons a rest =>
      cases rest with
      | nil =>
          show ite _ _ _ = Option.map _ (ite _ _ _)
          split <;> rfl
      | cons _ _ => rfl

-- ============================================================ retellings

/-- The items of an array replaced. -/
def Json.mapItems (f : Json → Json) : Json → Json
  | array items => array (items.map f)
  | x => x

/-- The values of an object's members replaced. -/
def Json.mapMembers (f : Json → Json) : Json → Json
  | object members => object (members.map fun m => (m.1, f m.2))
  | x => x

/-- A way to tell schemas otherwise. Only schema objects are told otherwise. Under
the plain keywords they say the same, and under those that hold schemas these
schemas told in the same way. -/
structure Retelling where
  schema : Json → Json
  members : Members → Members
  schema_object : ∀ ms, schema (.object ms) = .object (members ms)
  schema_other : ∀ {x}, (∀ ms, x ≠ .object ms) → schema x = x
  agree : ∀ ms, (members ms).Agree ms
  anyOf : ∀ ms, (members ms).get? "anyOf" = (ms.get? "anyOf").map (Json.mapItems schema)
  items : ∀ ms, (members ms).get? "items" = (ms.get? "items").map schema
  properties : ∀ ms,
    (members ms).get? "properties" = (ms.get? "properties").map (Json.mapMembers schema)
  additional : ∀ ms,
    (members ms).get? "additionalProperties" = (ms.get? "additionalProperties").map schema
  merged : ∀ ms x, Compiler.merged (members ms) (schema x) = schema (Compiler.merged ms x)
  withType : ∀ ms type, Compiler.withType (members ms) type = schema (Compiler.withType ms type)

namespace Retelling

/-- Every schema as it is. -/
def same : Retelling where
  schema := id
  members := id
  schema_object _ := rfl
  schema_other _ := rfl
  agree _ _ _ := rfl
  anyOf ms := by
    have hid : Json.mapItems id = id := funext fun x => by
      cases x <;> simp [Json.mapItems]
    simp [hid]
  items ms := by simp
  properties ms := by
    have hid : Json.mapMembers id = id := funext fun x => by
      cases x <;> simp [Json.mapMembers]
    simp [hid]
  additional ms := by simp
  merged _ _ := rfl
  withType _ _ := rfl

variable (r : Retelling)

/-- A schema of null stays one, and no other becomes one, since the type is a plain
keyword. -/
theorem isNullSchema (x : Json) :
    Compiler.isNullSchema (r.schema x) = Compiler.isNullSchema x := by
  by_cases hx : ∃ ms, x = .object ms
  · obtain ⟨ms, rfl⟩ := hx
    rw [r.schema_object]
    show ((Members.get? _ "type").bind Json.string? == _)
      = ((Members.get? _ "type").bind Json.string? == _)
    rw [r.agree ms "type" (by decide)]
  · rw [r.schema_other fun ms heq => hx ⟨ms, heq⟩]

/-- The same keyword decides, and holds its alternatives told otherwise. -/
theorem kind (ms : Members) :
    (SchemaKind.of (r.members ms)).1 = (SchemaKind.of ms).1.map r.schema := by
  -- only alternatives are schemas, so the other kinds are the same
  have hplain : ∀ {kind : SchemaKind}, (∀ variants, kind ≠ .union variants) →
      kind.map r.schema = kind := fun {kind} h => by
    cases kind with
    | union variants => exact absurd rfl (h variants)
    | _ => rfl
  have hproperties : ((r.members ms).get? "properties").isSome = (ms.get? "properties").isSome := by
    rw [r.properties, Option.isSome_map]
  -- below `anyOf` the keywords are plain
  have htypes : (SchemaKind.ofTypes (r.members ms)).1 = (SchemaKind.ofTypes ms).1.map r.schema := by
    rw [SchemaKind.ofTypes_congr (r.agree ms) hproperties, hplain]
    intro variants h
    rcases SchemaKind.ofTypes_cases ms with ⟨_, _, hkind⟩ | hkind
    · rw [hkind] at h
      cases h
    · have hvalues := SchemaKind.isPlain_ofValues ms
      rw [← hkind, h] at hvalues
      cases hvalues
  have hunion : (SchemaKind.ofUnion (r.members ms)).1 = (SchemaKind.ofUnion ms).1.map r.schema := by
    unfold SchemaKind.ofUnion
    rw [r.anyOf]
    cases ms.get? "anyOf" with
    | none => exact htypes
    | some x =>
        cases x with
        | array variants => rfl
        | _ => exact htypes
  unfold SchemaKind.of
  rw [r.agree ms "$ref" (by decide)]
  cases ms.get? "$ref" with
  | none => exact hunion
  | some x =>
      cases x with
      | string target =>
          cases hempty : target.isEmpty with
          | true =>
              simp only [hempty]
              exact hunion
          | false =>
              simp only [hempty]
              rfl
      | _ => exact hunion

end Retelling

end Conformance
