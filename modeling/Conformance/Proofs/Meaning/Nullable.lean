/-
Alternatives that only add null.

Where all alternatives but one are null, the compiler does not compile them one by
one. It compiles the one that is not null merged with what stands beside the
alternatives, and makes it optional. The merged schema is not that alternative. It
is written in another order, and `anyOf` has been taken out of it, so an alternative
that is decided by alternatives of its own loses them (`nullable_nested_union`).

No other alternative is decided by what it has under `anyOf`, and schema objects that
differ in such an `anyOf` only mean the same (`Beside`, `Satisfies.beside`). Nearly all
such have the same shape. The exception are lists of types: each type is put into the
whole schema, so there the two differ again, in the same way. Hence the induction.

So a schema with nothing but alternatives accepts what one of them accepts, however
it is compiled (`check_nullable_iff`).
-/
import Conformance.Proofs.Compiler.Descent
import Conformance.Proofs.Compiler.Retelling
import Conformance.Proofs.Meaning.Compiled

namespace Conformance

open Compiler

-- ================================================= schemas but for `anyOf`

/-- The schema objects have the same members but under `anyOf`, and in neither the
alternatives there decide. -/
structure Members.Beside (ms ns : Members) : Prop where
  get? : ∀ name, name ≠ "anyOf" → ms.get? name = ns.get? name
  left : ∀ variants, (SchemaKind.of ms).1 ≠ .union variants
  right : ∀ variants, (SchemaKind.of ns).1 ≠ .union variants

namespace Members.Beside

variable {ms ns : Members}

/-- To be the same but for `anyOf` goes both ways. -/
theorem symm (h : ms.Beside ns) : ns.Beside ms :=
  ⟨fun name hname => (h.get? name hname).symm, h.right, h.left⟩

/-- The plain keywords are among those that are the same. -/
theorem agree (h : ms.Beside ns) : ms.Agree ns := by
  intro name hname
  refine h.get? name ?_
  rintro rfl
  revert hname
  decide

/-- Neither is decided by `anyOf`, so the keywords that decide are the same. -/
theorem kind (h : ms.Beside ns) : (SchemaKind.of ms).1 = (SchemaKind.of ns).1 := by
  have hreference : ∀ target, (SchemaKind.of ms).1 = .reference target ↔
      (SchemaKind.of ns).1 = .reference target := fun target => by
    rw [SchemaKind.of_eq_reference_iff, SchemaKind.of_eq_reference_iff,
      h.get? "$ref" (by decide)]
  by_cases hms : ∃ target, (SchemaKind.of ms).1 = .reference target
  · obtain ⟨target, hms⟩ := hms
    rw [hms, (hreference target).mp hms]
  · have hns : ∀ target, (SchemaKind.of ns).1 ≠ .reference target := fun target hns =>
      hms ⟨target, (hreference target).mpr hns⟩
    have hproperties := congrArg Option.isSome (h.get? "properties" (by decide))
    rw [SchemaKind.of_eq_ofTypes h.left fun target htarget => hms ⟨target, htarget⟩,
      SchemaKind.of_eq_ofTypes h.right hns, SchemaKind.ofTypes_congr h.agree hproperties]

/-- A node of one type reads no `anyOf`. -/
theorem typed? (h : ms.Beside ns) (formats : FormatPolicy) (type : PrimitiveType) :
    Shape.typed? formats ms type = Shape.typed? formats ns type := by
  have hitems := h.get? "items" (by decide)
  have hproperties := h.get? "properties" (by decide)
  have hadditional := h.get? "additionalProperties" (by decide)
  cases type with
  | string =>
      simp only [Shape.typed?, Shape.stringRules?, Shape.pattern?,
        Constraint.pattern_congr h.agree, Constraint.lengthRules_congr h.agree,
        Constraint.format_congr h.agree]
  | number => simp only [Shape.typed?, Constraint.numberRules_congr h.agree]
  | integer => simp only [Shape.typed?, Constraint.numberRules_congr h.agree]
  | boolean => rfl
  | null => rfl
  | array =>
      simp only [Shape.typed?, Shape.itemSchema, hitems, Constraint.itemBounds_congr h.agree]
  | object =>
      simp only [Shape.typed?, Shape.declared, Shape.additional, hproperties, hadditional,
        Constraint.required_congr h.agree]

/-- The two have one shape, or both list types, each of which is put into two schemas
that differ in the same way. -/
theorem shape? (h : ms.Beside ns) (formats : FormatPolicy) :
    Conformance.shape? formats ms = Conformance.shape? formats ns ∨
      ∃ names, Conformance.shape? formats ms = some (.ofNames ms names) ∧
        Conformance.shape? formats ns = some (.ofNames ns names) ∧
        ∀ type, (ms.insert "type" type).Beside (ns.insert "type" type) := by
  cases hkind : (SchemaKind.of ms).1 with
  | typeList names =>
      have hkind' := h.kind ▸ hkind
      refine .inr ⟨names, shape?_of_typeList _ hkind, shape?_of_typeList _ hkind', fun type => ?_⟩
      -- a type that is put in does not make `anyOf` decide
      have hnone : ∀ {ls : Members}, (SchemaKind.of ls).1 = .typeList names →
          ∀ variants, (SchemaKind.of (ls.insert "type" type)).1 ≠ .union variants := by
        intro ls hls variants hunion
        have hget := SchemaKind.get?_of_union hunion
        rw [Members.get?_insert_of_ne (by decide)] at hget
        exact (SchemaKind.get?_of_typeList hls).2 variants hget
      refine ⟨fun name hname => ?_, hnone hkind, hnone hkind'⟩
      by_cases htype : "type" = name
      · subst htype
        rw [Members.get?_insert_self, Members.get?_insert_self]
      · rw [Members.get?_insert_of_ne htype, Members.get?_insert_of_ne htype, h.get? name hname]
  | union variants => exact absurd hkind (h.left variants)
  | _ =>
      left
      simp only [Conformance.shape?, ← h.kind, hkind, h.typed?]

/-- Declarations are made under other keywords. -/
theorem inForce (h : ms.Beside ns) (pool : Definitions) : pool.inForce ms = pool.inForce ns := by
  have hdefs := h.get? "$defs" (by decide)
  have hdefinitions := h.get? "definitions" (by decide)
  rw [Definitions.inForce, Definitions.inForce, Definitions.declaredBy, Definitions.declaredBy,
    hdefs, hdefinitions]

end Members.Beside

-- ============================================================== meaning

section

variable {formats : FormatPolicy} {pool : Definitions} {ms ns : Members} {data : Data}

/-- What a list of types asks for is asked for again with the types put into another
schema, if it is asked for with each of them. -/
theorem Meets.ofNames {holds holds' : Json → Data → Prop} {names : List Json}
    (himp : ∀ type data, holds (withType ms type) data → holds' (withType ns type) data)
    (h : Meets pool holds (.ofNames ms names) data) :
    Meets pool holds' (.ofNames ns names) data := by
  unfold Shape.ofNames at h ⊢
  cases hsole : soleAlternative? isNullName names with
  | some found =>
      simp only [hsole] at h ⊢
      cases h with
      | absent => exact .absent _
      | null => exact .null _
      | inner h => exact .inner (himp _ _ h)
  | none =>
      simp only [hsole] at h ⊢
      cases h with
      | alternative hschema h =>
          obtain ⟨type, htype, rfl⟩ := List.mem_map.mp hschema
          exact .alternative (List.mem_map_of_mem htype) (himp _ _ h)

/-- Schema objects that differ in what stands under `anyOf` and does not decide hold
of the same data. -/
theorem Satisfies.beside (h : Satisfies formats pool (.object ms) data) (hbeside : ms.Beside ns) :
    Satisfies formats pool (.object ns) data := by
  -- what lies beneath is the same on both sides, unless types have been put in
  refine (h.least (R := fun pool schema data => Satisfies formats pool schema data ∧
    ∀ ms ns : Members, schema = .object ms → ms.Beside ns →
      Satisfies formats pool (.object ns) data)
    ?_ ?_).2 ms ns rfl hbeside
  · intro pool schema hschema data
    exact ⟨.free hschema data, fun ms _ heq => absurd heq (hschema ms)⟩
  · intro pool members shape data hshape hmeets
    have hself : Satisfies formats pool (.object members) data :=
      satisfies_object_iff.mpr ⟨shape, hshape, hmeets.imp fun _ _ h => h.1⟩
    refine ⟨hself, fun ms ns heq hbeside => ?_⟩
    cases heq
    rcases hbeside.shape? formats with hsame | ⟨names, hms, hns, hinsert⟩
    · refine satisfies_object_iff.mpr ⟨shape, hsame ▸ hshape, ?_⟩
      rw [← hbeside.inForce]
      exact hmeets.imp fun _ _ h => h.1
    · cases hshape.symm.trans hms
      refine satisfies_object_iff.mpr ⟨_, hns, ?_⟩
      rw [← hbeside.inForce]
      exact hmeets.ofNames fun type data h => h.2 _ _ rfl (hinsert type)

end

-- ========================================================= alternatives

/-- The schema is decided by alternatives. -/
def Json.IsUnion (schema : Json) : Prop :=
  ∃ members variants, schema = .object members ∧ (SchemaKind.of members).1 = .union variants

/-- The schema for null and nothing else. -/
def nullSchema : Json := .object [("type", .string "null")]

/-- A schema with nothing but alternatives. -/
def anyOfSchema (alternatives : List Json) : Json := .object [("anyOf", .array alternatives)]

section

variable {formats : FormatPolicy} {pool : Definitions} {alternatives : List Json}

/-- Of values, only null satisfies the schema of null. -/
theorem satisfies_nullSchema_iff {x : Json} :
    Satisfies formats pool nullSchema (some x) ↔ x = .null := by
  have hshape : shape? formats [("type", .string "null")] = some .null := rfl
  rw [nullSchema, satisfies_object_iff]
  constructor
  · intro h
    obtain ⟨_, hsome, hmeets⟩ := h
    cases hshape.symm.trans hsome
    cases hmeets
    rfl
  · rintro rfl
    exact ⟨.null, hshape, .nullType⟩

/-- Merged with nothing but alternatives, a schema that alternatives do not decide
means the same. -/
theorem satisfies_merged_iff {schema : Json} (hdistinct : schema.Distinct)
    (hunion : ¬ schema.IsUnion) {data : Data} :
    Satisfies formats pool (merged [("anyOf", .array alternatives)] schema) data ↔
      Satisfies formats pool schema data := by
  by_cases hschema : ∃ members, schema = .object members
  · obtain ⟨members, rfl⟩ := hschema
    -- the schema merged with alternatives that go away again differs in `anyOf` alone
    have hbeside : Members.Beside members
        (Members.erase (Members.merge [("anyOf", .array alternatives)] members) "anyOf") := by
      refine ⟨fun name hname => ?_, fun variants hkind => hunion ⟨members, variants, rfl, hkind⟩,
        fun variants hkind => ?_⟩
      · rw [Members.get?_erase_of_ne hname.symm,
          Members.get?_merge (Members.Distinct.names hdistinct),
          Members.get?_cons_of_ne hname.symm]
        exact (Option.or_none ..).symm
      · have hget := SchemaKind.get?_of_union hkind
        rw [Members.get?_erase_self] at hget
        cases hget
    exact ⟨fun h => h.beside hbeside.symm, fun h => h.beside hbeside⟩
  · have hnone : ∀ members, schema ≠ .object members := fun members heq =>
      hschema ⟨members, heq⟩
    have hmerged : merged [("anyOf", .array alternatives)] schema = .object [] := by
      cases schema with
      | object members => exact absurd rfl (hnone members)
      | _ => rfl
    rw [hmerged]
    exact ⟨fun _ => .free hnone data,
      fun _ => satisfies_object_iff.mpr ⟨.anything, rfl, .anything data⟩⟩

/-- A schema of alternatives alone declares nothing. -/
theorem inForce_anyOf (pool : Definitions) (alternatives : List Json) :
    pool.inForce [("anyOf", .array alternatives)] = pool := by
  obtain ⟨members⟩ := pool
  cases members <;> rfl

/-- A schema with nothing but alternatives holds of the values that one of them holds
of, whether it adds null to a single one or not. -/
theorem satisfies_anyOf_iff (hdistinct : ∀ b ∈ alternatives, b.Distinct)
    (hnull : ∀ b ∈ alternatives, isNullSchema b = true → b = nullSchema)
    (hsole : ∀ found, soleAlternative? isNullSchema alternatives = some found →
      ¬ found.1.IsUnion) {x : Json} :
    Satisfies formats pool (anyOfSchema alternatives) (some x) ↔
      ∃ b ∈ alternatives, Satisfies formats pool b (some x) := by
  have hkind : (SchemaKind.of [("anyOf", .array alternatives)]).1 = .union alternatives := rfl
  have hshape := shape?_of_union formats hkind
  rw [anyOfSchema, satisfies_object_iff, hshape, inForce_anyOf]
  simp only [Option.some.injEq, exists_eq_left']
  unfold Shape.ofVariants
  cases hfound : soleAlternative? isNullSchema alternatives with
  | none =>
      constructor
      · intro h
        cases h with
        | alternative hb h => exact ⟨_, hb, h⟩
      · intro h
        obtain ⟨b, hb, h⟩ := h
        exact .alternative hb h
  | some found =>
      -- one alternative is left beside null, merged with the whole
      have hmem := mem_of_soleAlternative? hfound
      have hmerged : Satisfies formats pool (merged [("anyOf", .array alternatives)] found.1)
          (some x) ↔ _ := satisfies_merged_iff (hdistinct _ hmem) (hsole found hfound)
      constructor
      · intro h
        cases h with
        | null =>
            obtain ⟨b, hb, hisNull⟩ := exists_isNull_of_soleAlternative? hfound
            refine ⟨b, hb, ?_⟩
            rw [hnull b hb hisNull]
            exact satisfies_nullSchema_iff.mpr rfl
        | inner h => exact ⟨found.1, hmem, hmerged.mp h⟩
      · intro h
        obtain ⟨b, hb, h⟩ := h
        rcases eq_or_isNull_of_soleAlternative? hfound hb with rfl | hisNull
        · exact .inner (hmerged.mpr h)
        · rw [hnull b hb hisNull, satisfies_nullSchema_iff] at h
          subst h
          exact .null _

end

/-- However it is compiled, a schema with nothing but alternatives accepts a value just
if one of the alternatives accepts it on its own, where a single alternative that null
is added to is not decided by alternatives in turn. -/
theorem check_nullable_iff {alternatives : List Json} {pool : Definitions}
    {options : CompileOptions} {v : Validator}
    (hdistinct : ∀ b ∈ alternatives, b.Distinct)
    (hnull : ∀ b ∈ alternatives, isNullSchema b = true → b = nullSchema)
    (hsole : ∀ found, soleAlternative? isNullSchema alternatives = some found →
      ¬ found.1.IsUnion)
    (hv : (compileNode (anyOfSchema alternatives) pool .empty options).result = .ok v)
    (halternatives : ∀ b ∈ alternatives, ∃ w, (compileNode b pool .empty options).result = .ok w)
    (x : Json) :
    v.check x = true ↔ ∃ b ∈ alternatives, ∃ w,
      (compileNode b pool .empty options).result = .ok w ∧ w.check x = true := by
  -- what is accepted is what satisfies the schema, so the meaning of schemas decides
  have hmeaning : ∀ {schema : Json} {w : Validator},
      (compileNode schema pool .empty options).result = .ok w →
      (w.check x = true ↔ Satisfies options.formats pool schema (some x)) :=
    fun h => (Stands.of_compileNode h).accepts_iff_satisfies (some x)
  rw [hmeaning hv, satisfies_anyOf_iff hdistinct hnull hsole]
  constructor
  · intro h
    obtain ⟨b, hb, h⟩ := h
    obtain ⟨w, hw⟩ := halternatives b hb
    exact ⟨b, hb, w, hw, (hmeaning hw).mpr h⟩
  · intro h
    obtain ⟨b, hb, w, hw, h⟩ := h
    exact ⟨b, hb, (hmeaning hw).mp h⟩

/-- A whole number from one, or any text. -/
def countOrText : Json :=
  .object [("type", .array [.string "integer", .string "string"]), ("minimum", .number (.whole 1))]

/-- The alternative that is left beside null is a list of types, and so not decided by
`anyOf`. -/
theorem check_nullable_iff_countOrText :
    ∃ v, (compileNode (anyOfSchema [countOrText, nullSchema]) {} .empty {}).result = .ok v ∧
      ∀ x, v.check x = true ↔ ∃ b ∈ [countOrText, nullSchema], ∃ w,
        (compileNode b {} .empty {}).result = .ok w ∧ w.check x = true := by
  have hdistinct : ∀ b ∈ [countOrText, nullSchema], b.Distinct := by
    simp [countOrText, nullSchema, Members.names]
  have hnull : ∀ b ∈ [countOrText, nullSchema], isNullSchema b = true → b = nullSchema := by
    intro b hb hisNull
    rcases List.mem_pair.mp hb with rfl | rfl
    · cases hisNull
    · rfl
  have hsole : ∀ found, soleAlternative? isNullSchema [countOrText, nullSchema] = some found →
      ¬ found.1.IsUnion := by
    intro found hfound hunion
    cases hfound
    obtain ⟨members, variants, hmembers, hkind⟩ := hunion
    cases hmembers
    cases hkind
  have hv : (compileNode (anyOfSchema [countOrText, nullSchema]) {} .empty {}).result
      = .ok _ := rfl
  refine ⟨_, hv, check_nullable_iff hdistinct hnull hsole hv fun b hb => ?_⟩
  rcases List.mem_pair.mp hb with rfl | rfl
  · exact ⟨_, rfl⟩
  · exact ⟨_, rfl⟩

/-- A text, said by a single alternative. -/
def nestedText : Json := anyOfSchema [.object [("type", .string "string")]]

/-- Made optional, the alternative has lost what it asked for: a number is accepted that
neither it nor null accepts. -/
theorem nullable_nested_union : ∃ v w u,
    (compileNode (anyOfSchema [nestedText, nullSchema]) {} .empty {}).result = .ok v ∧
    (compileNode nestedText {} .empty {}).result = .ok w ∧
    (compileNode nullSchema {} .empty {}).result = .ok u ∧
    v.check (.number (.whole 5)) = true ∧ w.check (.number (.whole 5)) = false ∧
    u.check (.number (.whole 5)) = false :=
  ⟨_, _, _, rfl, rfl, rfl, rfl, rfl, rfl⟩

end Conformance
