/-
Compilation fails exactly where something reachable is broken.

# What is reachable

`Leads` says which schemas a schema object leads to in a pool, and `Reachable`
closes a document under it, with the definitions that come into force on the
way. Nothing in it says how the compiler gets there: no branch, no references
entered, nothing remembered. A schema is broken if its reference has no
definition or its pattern cannot be read (`Breaks`).

# Both directions

An error arises at the end of a branch, and what a branch comes to is reachable
(`reachable_of_branch`). So errors are of reachable schemas.

The other direction is about what the compiler does not do. It does not follow a
reference that the branch has entered, so there may be reachable schemas that
none of its branches comes to by the way they are reached. But every reference
on a branch is grounded: its definition was compiled, and so it stands on a
branch of its own. So when a compilation succeeds, whatever is reachable stands
(`Reachable.stands`), and what stands is not broken.
-/
import Conformance.Proofs.Compiler.Descent
import Conformance.Proofs.Compiler.Resolution
import Conformance.Proofs.Json.Parts

namespace Conformance

open Compiler

-- ============================================================ reachability

/-- The schemas that a schema object leads to, with the pool in force. -/
inductive Leads (pool : Definitions) (members : Members) : Json → Prop
  | definition {target : String} {definition : Json}
      (hkind : (SchemaKind.of members).1 = .reference target)
      (hresolve : pool.resolve? target = some definition) : Leads pool members definition
  | sole {variants : List Json} {found : Json × Nat}
      (hkind : (SchemaKind.of members).1 = .union variants)
      (hfound : soleAlternative? isNullSchema variants = some found) :
      Leads pool members (merged members found.1)
  | variant {variants : List Json} {variant : Json}
      (hkind : (SchemaKind.of members).1 = .union variants)
      (hnone : soleAlternative? isNullSchema variants = none) (hvariant : variant ∈ variants) :
      Leads pool members variant
  | type {names : List Json} {name : Json}
      (hkind : (SchemaKind.of members).1 = .typeList names) (hname : name ∈ names) :
      Leads pool members (withType members name)
  | items {fields : Members} (hkind : (SchemaKind.of members).1 = .primitive .array)
      (hget : members.get? "items" = some (.object fields)) : Leads pool members (.object fields)
  | property {declared : Members} {e : String × Json}
      (hkind : (SchemaKind.of members).1.IsObject)
      (hget : members.get? "properties" = some (.object declared)) (he : e ∈ declared) :
      Leads pool members e.2
  | other {schema : Json} (hkind : (SchemaKind.of members).1.IsObject)
      (hget : members.get? "additionalProperties" = some schema)
      (hschema : (∃ fields, schema = .object fields) ∨ schema = .null) :
      Leads pool members schema

/-- The schemas that can be reached in a document, each with the definitions in
force when it is reached. -/
inductive Reachable (whole : Json) : Definitions → Json → Prop
  | root : Reachable whole {} whole
  | step {pool : Definitions} {members : Members} {schema : Json}
      (h : Reachable whole pool (.object members))
      (hleads : Leads (pool.inForce members) members schema) :
      Reachable whole (pool.inForce members) schema

/-- With the pool in force the schema object is broken, and the error says so. -/
inductive Breaks (pool : Definitions) (members : Members) : CompileError → Prop
  | reference {target : String} (hget : members.get? "$ref" = some (.string target))
      (hempty : target.isEmpty = false) (hresolve : pool.resolve? target = none) :
      Breaks pool members (.unresolvedReference target (Definitions.targetName target))
  | pattern {path source : String} {error : PatternError}
      (hkind : (SchemaKind.of members).1 = .primitive .string)
      (hget : members.get? "pattern" = some (.string source)) (hempty : source.isEmpty = false)
      (herror : Pattern.ofText source = .error error) :
      Breaks pool members (.invalidPattern path source error)

-- ============================================= errors come from what is broken

/-- What lies beneath a node in the compiler is led to, wherever it stands. -/
theorem Compiler.Beneath.leads {members : Members} {site place : Site} {child : Json}
    (h : Beneath members site child place) (pool : Definitions) : Leads pool members child := by
  cases h with
  | sole hkind hfound => exact .sole hkind hfound
  | variant hkind hnone hv => exact .variant hkind hnone (List.fst_mem_of_mem_zipIdx hv)
  | soleType hkind hfound => exact .type hkind (mem_of_soleAlternative? hfound)
  | type hkind _ hn => exact .type hkind (List.fst_mem_of_mem_zipIdx hn)
  | items hkind hget => exact .items hkind hget
  | property hkind hget he => exact .property hkind hget he
  | other hkind hget hschema => exact .other hkind hget hschema

/-- What a branch of a document comes to can be reached in it. -/
theorem reachable_of_branch {whole : Json} {depth : Nat} {last : Json × Site}
    (h : Branch (whole, .root) depth last) :
    Reachable whole last.2.pool.definitions last.1 := by
  induction h with
  | root => exact .root
  | step _ hcall ih =>
      cases hcall with
      | beneath hbeneath =>
          rw [hbeneath.same.1]
          exact ih.step (hbeneath.leads _)
      | definition hkind _ hresolve => exact ih.step (.definition hkind hresolve)

/-- A pattern to be read is a string that is not empty. -/
theorem pattern_eq_some_iff {members : Members} {path source : String} :
    (Constraint.pattern members path).1 = some source ↔
      members.get? "pattern" = some (.string source) ∧ source.isEmpty = false := by
  constructor
  · intro h
    unfold Constraint.pattern at h
    split at h
    · cases h
    -- an empty text is no pattern
    · next text hget =>
      cases hempty : text.isEmpty with
      | true => rw [hempty] at h; cases h
      | false =>
          rw [hempty] at h
          cases h
          exact ⟨hget, hempty⟩
    · cases h
  · intro h
    obtain ⟨hget, hempty⟩ := h
    rw [Constraint.pattern, hget]
    simp only [hempty]
    rfl

/-- Apart from the depth, an error is of something reachable that is broken. -/
theorem exists_breaks {whole : Json} {options : CompileOptions} {e : CompileError}
    (h : (compile whole options).result = .error e)
    (hdepth : ∀ path limit, e ≠ .depthExceeded path limit) :
    ∃ pool members, Reachable whole pool (.object members) ∧
      Breaks (pool.inForce members) members e := by
  obtain ⟨_, _, _, -, hbranch, hfails⟩ := arises_of_compile h
  have hreachable := reachable_of_branch hbranch
  cases hfails with
  | depth => exact absurd rfl (hdepth _ _)
  | reference hkind hresolve =>
      obtain ⟨hget, hempty⟩ := SchemaKind.of_eq_reference_iff.mp hkind
      exact ⟨_, _, hreachable, .reference hget hempty hresolve⟩
  | pattern hkind hsource herror =>
      obtain ⟨hget, hempty⟩ := pattern_eq_some_iff.mp hsource
      exact ⟨_, _, hreachable, .pattern hkind hget hempty herror⟩

-- ================================================ what stands is not broken

namespace SchemaKind

variable {members : Members}

/-- What stands before a list of types in the order of keywords does not decide when
the list is replaced either. -/
theorem of_insert_type {names : List Json} (h : (of members).1 = typeList names) (type : Json) :
    (of (members.insert "type" type)).1 = (ofTypes (members.insert "type" type)).1 := by
  refine of_eq_ofTypes (fun variants hunion => ?_) fun target hreference => ?_
  · have hget := get?_of_union hunion
    rw [Members.get?_insert_of_ne (by decide)] at hget
    exact (get?_of_typeList h).2 variants hget
  · rw [of_eq_reference_iff, Members.get?_insert_of_ne (by decide), ← of_eq_reference_iff, h]
      at hreference
    cases hreference

/-- A list of types in the place of another leaves the kind of the node as it is. -/
theorem of_insert_list {names : List Json} (h : (of members).1 = typeList names)
    (others : List Json) :
    (of (members.insert "type" (.array others))).1 = typeList others := by
  rw [of_insert_type h, ofTypes, Members.get?_insert_self]

/-- With a single type in place of its list, a schema is decided by values or by that
type. -/
theorem of_insert_single {names : List Json} (h : (of members).1 = typeList names) {type : Json}
    (htype : ∀ others, type ≠ .array others) :
    (of (members.insert "type" type)).1 = (ofValues (members.insert "type" type)).1 := by
  rw [of_insert_type h, ofTypes, Members.get?_insert_self]
  split
  · next others heq => exact absurd (Option.some.inj heq) (htype others)
  · rfl

end SchemaKind

/-- Null has one name. -/
theorem eq_null_of_isNullName {name : Json} (h : isNullName name = true) :
    name = .string "null" := by
  cases name with
  | string s => rw [Option.some.inj (eq_of_beq h)]
  | _ => cases h

/-- With null for its type a schema that lists types has nothing beneath it. -/
theorem exists_leaf_of_null (formats : FormatPolicy) {members : Members} {names : List Json}
    (h : (SchemaKind.of members).1 = .typeList names) :
    ∃ shape v, shape? formats (members.insert "type" (.string "null")) = some shape ∧
      shape.leaf? = some v := by
  have htype : SchemaKind.primitive? (members.insert "type" (.string "null")) = some .null := by
    rw [SchemaKind.primitive?, Members.get?_insert_self]
    rfl
  have hsingle : ∀ others, Json.string "null" ≠ .array others := by
    intro others heq
    cases heq
  rw [shape?, SchemaKind.of_insert_single h hsingle]
  rcases SchemaKind.ofValues_cases (members.insert "type" (.string "null")) with
    ⟨values, hkind⟩ | ⟨value, hkind⟩ | hkind
  · rw [hkind]; exact ⟨_, _, rfl, rfl⟩
  · rw [hkind]; exact ⟨_, _, rfl, rfl⟩
  · rw [hkind, SchemaKind.ofType, htype]
    exact ⟨_, _, rfl, rfl⟩

namespace Stands

variable {options : CompileOptions} {pool : Definitions} {visited : VisitedPath}
variable {members : Members} {v : Validator}

/-- The definition of a reference stands, whether the branch has entered it
before or enters it now. -/
theorem definition (h : Stands options pool visited (.object members) v) {target : String}
    (hkind : (SchemaKind.of members).1 = .reference target) :
    ∃ definition w, (pool.inForce members).resolve? target = some definition ∧
      Stands options (pool.inForce members) (visited.enter target) definition w := by
  have hforce := h.grounded.inForce members
  -- a reference that was entered is grounded, so its definition comes to something again
  have hagain : visited.contains target = true → ∃ definition w,
      (pool.inForce members).resolve? target = some definition ∧
        Stands options (pool.inForce members) (visited.enter target) definition w := by
    intro hentered
    obtain ⟨definition, w, hresolve, hw⟩ := hforce.exists_expands hentered
    exact ⟨definition, w, hresolve, _, Nat.le_refl _,
      hforce.enter hresolve (Nat.le_refl _) hw, hw⟩
  obtain ⟨shape, hshape, hlayer⟩ := h.layer
  rw [shape?_of_reference options.formats hkind] at hshape
  cases hshape
  cases hlayer with
  | leaf hleaf => cases hleaf
  | cut hentered => exact hagain hentered
  | @deferred d _ hvisited =>
      exact hagain (hvisited ▸ VisitedPath.contains_of_isNested d.nested)
  | followed _ hresolve hw => exact ⟨_, _, hresolve, hw⟩

/-- What a node that stands leads to stands as well. A schema that the compiler passes
over would have come to something too. -/
theorem of_leads (h : Stands options pool visited (.object members) v) {schema : Json}
    (hleads : Leads (pool.inForce members) members schema) :
    ∃ path w, Stands options (pool.inForce members) path schema w := by
  -- the shape of the node has handed the schema down, by the same keyword
  obtain ⟨shape, hshape, hlayer⟩ := h.layer
  cases hleads with
  | definition hkind hresolve =>
      obtain ⟨_, w, hdefinition, hw⟩ := h.definition hkind
      rw [hresolve] at hdefinition
      cases hdefinition
      exact ⟨_, w, hw⟩
  | sole hkind hfound =>
      rw [shape?_of_union options.formats hkind, Shape.ofVariants, hfound] at hshape
      cases hshape
      obtain ⟨w, -, hw⟩ := hlayer.exists_optional
      exact ⟨_, w, hw⟩
  | variant hkind hnone hvariant =>
      rw [shape?_of_union options.formats hkind, Shape.ofVariants, hnone] at hshape
      cases hshape
      obtain ⟨ws, -, hws⟩ := hlayer.exists_union
      obtain ⟨w, _, hw⟩ := exists_right_of_forall₂ hws _ hvariant
      exact ⟨_, w, hw⟩
  | @type names name hkind hname =>
      rw [shape?_of_typeList options.formats hkind, Shape.ofNames] at hshape
      cases hfound : soleAlternative? isNullName names with
      | none =>
          rw [hfound] at hshape
          cases hshape
          obtain ⟨ws, -, hws⟩ := hlayer.exists_union
          obtain ⟨w, _, hw⟩ := exists_right_of_forall₂ hws _ (List.mem_map_of_mem hname)
          exact ⟨_, w, hw⟩
      | some found =>
          rw [hfound] at hshape
          cases hshape
          rcases eq_or_isNull_of_soleAlternative? hfound hname with rfl | hnull
          · obtain ⟨w, -, hw⟩ := hlayer.exists_optional
            exact ⟨_, w, hw⟩
          · -- the compiler does not compile the schema for null, but it could
            obtain ⟨leaf, w, hleaf, hw⟩ := exists_leaf_of_null options.formats hkind
            rw [eq_null_of_isNullName hnull]
            exact ⟨visited, w, _, Nat.le_refl _, h.grounded.inForce members,
              leaf, hleaf, .leaf hw⟩
  | items hkind hget =>
      rw [shape?_of_array options.formats hkind] at hshape
      cases hshape
      obtain ⟨w, -, hw⟩ := hlayer.exists_array
      rw [Shape.itemSchema, hget] at hw
      exact ⟨_, w, hw⟩
  | @property declared e hkind hget he =>
      rw [shape?_of_isObject options.formats hkind] at hshape
      cases hshape
      obtain ⟨ps, _, -, hproperties, -⟩ := hlayer.exists_object
      rw [Shape.declared, hget] at hproperties
      obtain ⟨_, _, -, -, hw⟩ := exists_right_of_forall₂ hproperties _ (List.mem_map_of_mem he)
      exact ⟨_, _, hw⟩
  | other hkind hget hschema =>
      rw [shape?_of_isObject options.formats hkind] at hshape
      cases hshape
      obtain ⟨_, a, -, -, hadditional⟩ := hlayer.exists_object
      rw [Shape.additional, hget] at hadditional
      rcases hschema with ⟨fields, rfl⟩ | rfl
      · cases hadditional with
        | schema hw => exact ⟨_, _, hw⟩
      · cases hadditional with
        | schema hw => exact ⟨_, _, hw⟩

/-- What stands is not broken, for a broken schema would have failed. -/
theorem not_breaks (h : Stands options pool visited (.object members) v) (e : CompileError) :
    ¬ Breaks (pool.inForce members) members e := by
  intro hbreaks
  cases hbreaks with
  | reference hget hempty hnone =>
      obtain ⟨_, _, hresolve, _⟩ := h.definition (SchemaKind.of_eq_reference_iff.mpr ⟨hget, hempty⟩)
      rw [hnone] at hresolve
      cases hresolve
  | pattern hkind hget hempty herror =>
      obtain ⟨shape, hshape, -⟩ := h.layer
      have hsource : (Constraint.pattern members "").1 = some _ :=
        pattern_eq_some_iff.mpr ⟨hget, hempty⟩
      rw [shape?_of_pattern options.formats hkind hsource herror] at hshape
      cases hshape

end Stands

/-- When a document compiles, all that can be reached in it stands. -/
theorem Reachable.stands {whole : Json} {options : CompileOptions} {v : Validator}
    (hcompile : (compile whole options).result = .ok v) {pool : Definitions} {schema : Json}
    (h : Reachable whole pool schema) : ∃ visited w, Stands options pool visited schema w := by
  induction h with
  | root => exact ⟨_, v, .of_compile hcompile⟩
  | step _ hleads ih =>
      obtain ⟨visited, w, hw⟩ := ih
      exact hw.of_leads hleads

-- ============================================================ both at once

/-- Where the depth allowed is never exceeded, compilation fails exactly when a
schema that can be reached is broken, and the error is of such a schema. -/
theorem compile_fails_iff (whole : Json) (options : CompileOptions)
    (hguard : ∀ path limit, (compile whole options).result ≠ .error (.depthExceeded path limit)) :
    ((∃ e, (compile whole options).result = .error e) ↔
      ∃ pool members, Reachable whole pool (.object members) ∧
        ∃ e, Breaks (pool.inForce members) members e) ∧
    ∀ e, (compile whole options).result = .error e →
      ∃ pool members, Reachable whole pool (.object members) ∧
        Breaks (pool.inForce members) members e := by
  have hnamed : ∀ e, (compile whole options).result = .error e →
      ∃ pool members, Reachable whole pool (.object members) ∧
        Breaks (pool.inForce members) members e := by
    intro e herror
    exact exists_breaks herror fun path limit heq => hguard path limit (heq ▸ herror)
  refine ⟨⟨?_, ?_⟩, hnamed⟩
  · rintro ⟨e, herror⟩
    obtain ⟨pool, members, hreachable, hbreaks⟩ := hnamed e herror
    exact ⟨pool, members, hreachable, e, hbreaks⟩
  · rintro ⟨pool, members, hreachable, e, hbreaks⟩
    cases hresult : (compile whole options).result with
    | error e => exact ⟨e, rfl⟩
    | ok v =>
        -- if compilation had succeeded, what can be reached would stand
        obtain ⟨visited, w, hw⟩ := hreachable.stands hresult
        exact absurd hbreaks (hw.not_breaks e)

/-- A tree of nodes, with a name misspelt behind the cycle. -/
def misspelt : Json :=
  .object [("$ref", .string "#/$defs/node"),
    ("$defs", .object
      [("node", .object [("properties", .object
        [("next", .object [("$ref", .string "#/$defs/node")]),
         ("label", .object [("$ref", .string "#/$defs/lable")])])]),
       ("label", .object [("type", .string "string")])])]

/-- A reference whose name is misspelt. -/
theorem compile_fails_iff_misspelt :
    (compile misspelt).result = .error (.unresolvedReference "#/$defs/lable" "lable") ∧
      ∃ pool members, Reachable misspelt pool (.object members) ∧
        Breaks (pool.inForce members) members (.unresolvedReference "#/$defs/lable" "lable") := by
  have hresult : (compile misspelt).result
      = .error (.unresolvedReference "#/$defs/lable" "lable") := by rfl
  have hguard : ∀ path limit, (compile misspelt).result ≠ .error (.depthExceeded path limit) := by
    intro path limit herror
    rw [hresult] at herror
    cases herror
  exact ⟨hresult, (compile_fails_iff misspelt {} hguard).2 _ hresult⟩

end Conformance
