/-
Declared names come from the schema.

An object that a validator involves declares properties, and issues show their names. The
compiler does not make names up. It reads them off the `properties` of a schema object, and
the schema objects that it comes to are parts of the document or put together from members of
such parts. So each name stands under some `properties` of the document
(`declaresName_of_declares`), also where the object is what a deferred reference stands for.

What is carried from a schema to what it leads to is that all its names, and those of the
definitions in force, are among some given names (`Sprung`). The document is the case where
these are its own.
-/
import Conformance.Proofs.Compiler.Cycles
import Conformance.Proofs.Validation.Involved
import Conformance.Proofs.Validation.Resolved

namespace Conformance

open Compiler

-- ============================================================ in a schema

/-- Some object in the document, at any depth, has an object with the name under
`properties`. -/
inductive Json.DeclaresName : Json → String → Prop
  | here {members declared : Members} {name : String}
      (hdeclared : ("properties", .object declared) ∈ members) (h : name ∈ declared.names) :
      DeclaresName (.object members) name
  | item {items : List Json} {x : Json} {name : String} (hx : x ∈ items)
      (h : DeclaresName x name) : DeclaresName (.array items) name
  | member {members : Members} {m : String × Json} {name : String} (hm : m ∈ members)
      (h : DeclaresName m.2 name) : DeclaresName (.object members) name

/-- All names that the document declares are among the names. -/
def Json.NamedBy (names : String → Prop) (x : Json) : Prop :=
  ∀ name, x.DeclaresName name → names name

/-- So are those that a member of a schema object declares, by what it is called and by what
it holds. -/
structure Members.EntryNamedBy (names : String → Prop) (m : String × Json) : Prop where
  declared : ∀ declared, m = ("properties", .object declared) → ∀ name ∈ Members.names declared,
    names name
  value : m.2.NamedBy names

namespace Json

variable {names : String → Prop}

/-- A value without parts declares nothing. -/
theorem namedBy_null : Json.null.NamedBy names := fun _ h => nomatch h

/-- What an item declares is declared by the whole. -/
theorem NamedBy.item {items : List Json} (h : (Json.array items).NamedBy names) {x : Json}
    (hx : x ∈ items) : x.NamedBy names :=
  fun name hname => h name (.item hx hname)

/-- For an object it is asked of its members. -/
theorem namedBy_object_iff {members : Members} :
    (Json.object members).NamedBy names ↔ ∀ m ∈ members, Members.EntryNamedBy names m := by
  constructor
  · intro h m hm
    refine ⟨?_, fun name hname => h name (.member hm hname)⟩
    rintro declared rfl name hname
    exact h name (.here hm hname)
  · intro h name hname
    cases hname with
    | here hdeclared hname => exact (h _ hdeclared).declared _ rfl _ hname
    | member hm hname => exact (h _ hm).value _ hname

/-- What is found under a keyword is named by the same names. -/
theorem NamedBy.member {members : Members} (h : (Json.object members).NamedBy names)
    {keyword : String} {x : Json} (hget : members.get? keyword = some x) : x.NamedBy names :=
  (namedBy_object_iff.mp h _ (Members.mem_of_get? hget)).value

/-- What is laid over a schema declares what it declares itself. -/
theorem NamedBy.merged {members : Members} {alternative : Json}
    (h : (Json.object members).NamedBy names) (halternative : alternative.NamedBy names) :
    (Compiler.merged members alternative).NamedBy names := by
  refine namedBy_object_iff.mpr fun m hm => ?_
  rcases Members.mem_of_mem_merge (List.mem_filter.mp hm).1 with hm | hm
  · exact namedBy_object_iff.mp h m hm
  · cases alternative with
    | object fields => exact namedBy_object_iff.mp halternative m hm
    | _ => cases hm

/-- A type that is put in brings no names of its own. -/
theorem NamedBy.withType {members : Members} {name : Json}
    (h : (Json.object members).NamedBy names) (hname : name.NamedBy names) :
    (Compiler.withType members name).NamedBy names := by
  refine namedBy_object_iff.mpr fun m hm => ?_
  rcases Members.mem_of_mem_insert hm with rfl | hm
  · have hne : "type" ≠ "properties" := by decide
    exact ⟨fun declared heq => absurd (congrArg Prod.fst heq) hne, hname⟩
  · exact namedBy_object_iff.mp h m hm

end Json

-- =============================================================== leading on

section

variable {names : String → Prop} {pool : Definitions} {members : Members} {child : Json}

/-- The definitions in force declare no other names. -/
theorem Definitions.namedBy_inForce (hpool : ∀ m ∈ pool.members, m.2.NamedBy names)
    (h : (Json.object members).NamedBy names) :
    ∀ m ∈ (pool.inForce members).members, m.2.NamedBy names := by
  have hdefs : ∀ {keyword : String} {defs : Members}, members.get? keyword = some (.object defs) →
      ∀ m ∈ defs, m.2.NamedBy names :=
    fun hget m hm => (Json.namedBy_object_iff.mp (h.member hget) m hm).value
  unfold Definitions.inForce
  split
  · intro m hm
    unfold Definitions.declaredBy at hm
    split at hm
    · next defs hget => exact hdefs hget m hm
    · next defs hget _ => exact hdefs hget m hm
    · cases hm
  · exact hpool

/-- What a schema leads to declares no other names. -/
theorem Leads.namedBy (hpool : ∀ m ∈ pool.members, m.2.NamedBy names)
    (h : (Json.object members).NamedBy names) (hleads : Leads pool members child) :
    child.NamedBy names := by
  cases hleads with
  | definition _ hresolve => exact hpool _ (Members.mem_of_get? hresolve)
  | sole hkind hfound =>
      have hvariants := h.member (SchemaKind.get?_of_union hkind)
      exact h.merged (hvariants.item (mem_of_soleAlternative? hfound))
  | variant hkind _ hvariant => exact (h.member (SchemaKind.get?_of_union hkind)).item hvariant
  | type hkind hname =>
      exact h.withType ((h.member (SchemaKind.get?_of_typeList hkind).1).item hname)
  | items _ hget => exact h.member hget
  | property _ hget he => exact (Json.namedBy_object_iff.mp (h.member hget) _ he).value
  | other _ hget => exact h.member hget

/-- The properties of an object are those that its schema declares, whichever keyword has
made it an object. -/
theorem Shape.eq_declared {formats : FormatPolicy} {properties : List (Property Json)}
    {additional : Additional Json}
    (h : shape? formats members = some (.object properties additional)) :
    properties = declared members := by
  -- of the single types only the one of objects has properties
  have htyped : ∀ type, typed? formats members type = some (.object properties additional) →
      properties = declared members := by
    intro type htype
    cases type with
    | object =>
        cases htype
        rfl
    | _ => simp [typed?] at htype
  unfold shape? at h
  split at h
  · cases h
  · unfold ofVariants at h
    split at h <;> cases h
  · unfold ofNames at h
    split at h <;> cases h
  · cases h
  · cases h
  · exact htyped _ h
  · exact htyped _ h
  · cases h

end

/-- No leaf is an object. -/
theorem Validator.leaf_ne_object {shape : Shape} {ps : List (Property Validator)}
    {a : Additional Validator} : shape.leaf? ≠ some (.object ps a) := by
  intro hleaf
  cases shape with
  | values list =>
      have heq : enumeration list = .object ps a := Option.some.inj hleaf
      unfold enumeration at heq
      split at heq <;> cases heq
  | _ => cases hleaf

-- ============================================================== compiled

/-- The validator is what a schema comes to that declares, together with the definitions in
force, no other names. -/
structure Sprung (names : String → Prop) (options : CompileOptions) (pool : Definitions)
    (visited : VisitedPath) (schema : Json) (v : Validator) : Prop where
  stands : Stands options pool visited schema v
  pool : ∀ m ∈ pool.members, m.2.NamedBy names
  schema : schema.NamedBy names

namespace Sprung

variable {names : String → Prop} {options : CompileOptions} {pool : Definitions}
variable {visited : VisitedPath} {schema : Json} {v w : Validator}

/-- A node comes from one whose schema declares the same names, and so do the nodes
beneath it. -/
theorem layer {members : Members} (h : Sprung names options pool visited (.object members) v) :
    ∃ shape, shape? options.formats members = some shape ∧
      Layer options (pool.inForce members) visited
        (Sprung names options (pool.inForce members)) shape v := by
  obtain ⟨shape, hshape, hlayer⟩ := h.stands.layer
  have hforce := Definitions.namedBy_inForce h.pool h.schema
  refine ⟨shape, hshape, hlayer.imp fun path child w hhands hw => ⟨hw, hforce, ?_⟩⟩
  rcases hhands.leads hshape with rfl | hleads
  · exact Json.namedBy_null
  · exact hleads.namedBy hforce h.schema

/-- A part comes from a schema again, but for the literals of an enumeration. -/
theorem part (h : Sprung names options pool visited schema v) (hpart : v.Part w) :
    (∃ pool visited schema, Sprung names options pool visited schema w) ∨ ∃ x, w = .literal x := by
  obtain ⟨members, rfl⟩ := h.stands.exists_members (by rintro rfl; cases hpart)
  obtain ⟨shape, -, hlayer⟩ := h.layer
  rcases hlayer.part hpart with ⟨path, child, -, hw⟩ | hliteral
  · exact .inl ⟨_, _, _, hw⟩
  · exact .inr hliteral

/-- So does what a deferred reference stands for. -/
theorem target {d : Deferred} {t : Validator}
    (h : Sprung names options pool visited schema (.deferred d)) (ht : d.target = .ok t) :
    ∃ pool visited schema, Sprung names options pool visited schema t := by
  obtain ⟨members, rfl⟩ := h.stands.exists_members fun h => nomatch h
  obtain ⟨shape, -, hlayer⟩ := h.layer
  obtain ⟨-, hpool, -, -⟩ := hlayer.of_deferred
  have hforce := Definitions.namedBy_inForce h.pool h.schema
  rw [← hpool] at hforce
  obtain ⟨definition, hresolve, hstands⟩ := h.stands.settled.stands_target ht
  exact ⟨_, _, _, hstands, hforce, hforce _ (Members.mem_of_get? hresolve)⟩

/-- All that the validator involves is sprung from such schemas, but for the values of
enumerations. -/
theorem involves (h : Sprung names options pool visited schema v) (hw : v.Involves w) :
    (∃ pool visited schema, Sprung names options pool visited schema w) ∨ ∃ x, w = .literal x := by
  induction hw with
  | self => exact .inl ⟨_, _, _, h⟩
  | part _ hpart ih =>
      rcases ih with ⟨_, _, _, hw⟩ | ⟨x, rfl⟩
      · exact hw.part hpart
      · cases hpart
  | target _ ht ih =>
      rcases ih with ⟨_, _, _, hw⟩ | ⟨x, hliteral⟩
      · exact .inl (hw.target ht)
      · cases hliteral

/-- An object declares names that its schema declares. -/
theorem names_of_object {ps : List (Property Validator)} {a : Additional Validator}
    (h : Sprung names options pool visited schema (.object ps a)) :
    ∀ p ∈ ps, names p.name := by
  obtain ⟨members, rfl⟩ := h.stands.exists_members fun h => nomatch h
  obtain ⟨shape, hshape, hlayer⟩ := h.layer
  intro p hp
  cases hlayer with
  | leaf hleaf => exact absurd hleaf Validator.leaf_ne_object
  | object hproperties =>
      obtain rfl := Shape.eq_declared hshape
      obtain ⟨q, hq, hname, -⟩ := exists_left_of_forall₂ hproperties p hp
      -- the property stands under `properties`, where all names are declared ones
      unfold Shape.declared at hq
      split at hq
      · next declared hget =>
        obtain ⟨e, he, rfl⟩ := List.mem_map.mp hq
        rw [← hname]
        have hentry := Json.namedBy_object_iff.mp h.schema _ (Members.mem_of_get? hget)
        exact hentry.declared declared rfl _ (Members.mem_names_of_mem he)
      · cases hq

end Sprung

/-- An object that the validator involves declares a property of the name. -/
def Validator.Declares (v : Validator) (name : String) : Prop :=
  ∃ ps a, v.Involves (.object ps a) ∧ ∃ p ∈ ps, p.name = name

/-- To declare is to involve an object that does, so it is passed on. -/
theorem Validator.Declares.of_involves {v w : Validator} {name : String} (hw : v.Involves w)
    (h : w.Declares name) : v.Declares name := by
  obtain ⟨ps, a, hobject, hname⟩ := h
  exact ⟨ps, a, hw.trans hobject, hname⟩

/-- The names that a compiled validator declares stand in its schema. -/
theorem declaresName_of_declares {schema : Json} {options : CompileOptions} {v : Validator}
    (h : (compile schema options).result = .ok v) {name : String} (hname : v.Declares name) :
    schema.DeclaresName name := by
  have hsprung : Sprung schema.DeclaresName options {} .empty schema v :=
    ⟨.of_compile h, fun _ hm => absurd hm List.not_mem_nil, fun _ h => h⟩
  obtain ⟨ps, a, hobject, p, hp, rfl⟩ := hname
  rcases hsprung.involves hobject with ⟨_, _, _, hps⟩ | ⟨x, hliteral⟩
  · exact hps.names_of_object p hp
  · cases hliteral

end Conformance
