/-
A branch comes back only to definitions that refer to themselves.

# The graph

Definitions of a pool refer to each other by the references of the schemas that
they comprise (`Refers`), and a definition is circular if it refers to itself by
one or more of them. Which references a branch has entered is no part of this.

# The invariant

Whatever a branch has entered is above it: the definition that a reference names
leads to the schema at hand (`Ancestral`). This holds of a branch that has
entered nothing, and it passes from a schema to those that it hands down,
because each of them gets the history of its own branch and of no other. So a
branch that comes to a reference once more has found a cycle in the graph.
-/
import Mathlib.Logic.Relation
import Conformance.Proofs.Compiler.Failure

namespace Conformance

open Relation (ReflTransGen TransGen)

-- ============================================================== the graph

/-- A schema leads to another, each with the definitions in force around it. -/
inductive Onward : Definitions × Json → Definitions × Json → Prop
  | step {pool : Definitions} {members : Members} {schema : Json}
      (hleads : Leads (pool.inForce members) members schema) :
      Onward (pool, .object members) (pool.inForce members, schema)

/-- A schema comes to another without following a reference. -/
def Comprises (pool : Definitions) : Json → Json → Prop :=
  ReflTransGen fun schema child => ∃ members, schema = .object members ∧
    (∀ r, (SchemaKind.of members).1 ≠ .reference r) ∧ Leads pool members child

/-- The definition of the first name comprises a reference to the second. -/
def Refers (pool : Definitions) (name other : String) : Prop :=
  ∃ definition members reference, pool.get? name = some definition ∧
    Comprises pool definition (.object members) ∧
    (SchemaKind.of members).1 = .reference reference ∧ Definitions.targetName reference = other

/-- The definition of the name refers to itself, by one reference or more. -/
def Circular (pool : Definitions) (name : String) : Prop := TransGen (Refers pool) name name

/-- No reference that a schema leads to names a circular definition. -/
def Acyclic (pool : Definitions) (schema : Json) : Prop :=
  ∀ around members reference, ReflTransGen Onward (pool, schema) (around, .object members) →
    (SchemaKind.of members).1 = .reference reference →
    ¬ Circular (around.inForce members) (Definitions.targetName reference)

/-- A reference leads to its definition and to nothing else. -/
theorem Leads.resolve?_of_reference {pool : Definitions} {members : Members} {child : Json}
    (h : Leads pool members child) {reference : String}
    (hkind : (SchemaKind.of members).1 = .reference reference) :
    pool.resolve? reference = some child := by
  cases h with
  | definition hkind' hresolve =>
      rw [hkind] at hkind'
      cases hkind'
      exact hresolve
  | sole hkind' | variant hkind' | type hkind' | items hkind' =>
      rw [hkind] at hkind'
      cases hkind'
  | property hkind' | other hkind' =>
      rw [hkind] at hkind'
      rcases hkind' with hkind' | hkind' <;> cases hkind'

/-- Where a definition leads is comprised in one that it refers to, if it is not
comprised in the definition itself. -/
theorem exists_comprises {pool : Definitions} {reference : String} {definition : Json}
    (hresolve : pool.resolve? reference = some definition) {place : Definitions × Json}
    (h : ReflTransGen Onward (pool, definition) place) :
    place.1 = pool ∧ ∃ other whole,
      ReflTransGen (Refers pool) (Definitions.targetName reference) other ∧
        pool.get? other = some whole ∧ Comprises pool whole place.2 := by
  induction h with
  | refl => exact ⟨rfl, _, definition, .refl, hresolve, .refl⟩
  | tail _ hstep ih =>
      obtain ⟨hpool, other, whole, hrefers, hget, hcomprises⟩ := ih
      cases hstep with
      | @step _ members child hleads =>
          subst hpool
          rw [Definitions.inForce_of_resolve? hresolve] at hleads ⊢
          refine ⟨rfl, ?_⟩
          by_cases hkind : ∃ r, (SchemaKind.of members).1 = .reference r
          · -- a reference is where one definition ends and another begins
            obtain ⟨r, hkind⟩ := hkind
            have hnext := hrefers.tail ⟨whole, members, r, hget, hcomprises, hkind, rfl⟩
            exact ⟨_, child, hnext, hleads.resolve?_of_reference hkind, .refl⟩
          · have hnone : ∀ r, (SchemaKind.of members).1 ≠ .reference r :=
              fun r hr => hkind ⟨r, hr⟩
            exact ⟨other, whole, hrefers, hget,
              hcomprises.tail ⟨members, rfl, hnone, hleads⟩⟩

/-- A definition that leads to a reference to itself is circular. -/
theorem circular_of_onward {pool around : Definitions} {members : Members} {reference : String}
    {definition : Json} (hresolve : pool.resolve? reference = some definition)
    (h : ReflTransGen Onward (pool, definition) (around, .object members))
    (hkind : (SchemaKind.of members).1 = .reference reference) :
    Circular pool (Definitions.targetName reference) := by
  obtain ⟨-, other, whole, hrefers, hget, hcomprises⟩ := exists_comprises hresolve h
  exact .tail' hrefers ⟨whole, members, reference, hget, hcomprises, hkind, rfl⟩

-- ====================================================== what is handed down

namespace Shape

variable {formats : FormatPolicy} {members : Members} {pool : Definitions}
variable {visited path : VisitedPath} {shape : Shape} {child : Json}

/-- Only a reference has the shape of one. -/
theorem kind_of_reference {target : String}
    (h : shape? formats members = some (.reference target)) :
    (SchemaKind.of members).1 = .reference target := by
  -- no node of one type is a reference, and neither are the other shapes
  have htyped : ∀ type, typed? formats members type ≠ some (.reference target) := by
    intro type
    cases type <;> simp [typed?]
  unfold shape? at h
  split at h
  · next hkind =>
    cases h
    exact hkind
  · unfold ofVariants at h
    split at h <;> cases h
  · unfold ofNames at h
    split at h <;> cases h
  · cases h
  · cases h
  · exact absurd h (htyped _)
  · exact absurd h (htyped _)
  · cases h

/-- The schema of items is one that the node leads to, if it has any. -/
theorem leads_of_itemSchema (hkind : (SchemaKind.of members).1 = .primitive .array) :
    itemSchema members = .null ∨ Leads pool members (itemSchema members) := by
  unfold itemSchema
  split
  · next hget => exact .inr (.items hkind hget)
  · exact .inl rfl

/-- Properties are led to by name. -/
theorem leads_of_declared (hkind : (SchemaKind.of members).1.IsObject) {p : Property Json}
    (hp : p ∈ declared members) : Leads pool members p.validator := by
  unfold declared at hp
  split at hp
  · next hget =>
    obtain ⟨e, he, rfl⟩ := List.mem_map.mp hp
    exact .property hkind hget he
  · cases hp

/-- A schema for other members is led to as well. -/
theorem leads_of_additional (hkind : (SchemaKind.of members).1.IsObject)
    (h : additional members = .schema child) : Leads pool members child := by
  unfold additional at h
  split at h
  · cases h
  · next fields hget =>
    cases h
    exact .other hkind hget (.inl ⟨fields, rfl⟩)
  · next hget =>
    cases h
    exact .other hkind hget (.inr rfl)
  · cases h

/-- What an object hands down is one of these. -/
theorem Hands.leads_of_isObject (hkind : (SchemaKind.of members).1.IsObject)
    (h : (Shape.object (declared members) (additional members)).Hands pool visited path child) :
    Leads pool members child := by
  generalize hadditional : additional members = a at h
  cases h with
  | property hp => exact leads_of_declared hkind hp
  | other => exact leads_of_additional hkind hadditional

/-- Of the nodes of one type, only arrays and objects hand anything down. -/
theorem Hands.leads_of_primitive {type : PrimitiveType}
    (hkind : (SchemaKind.of members).1 = .primitive type)
    (hshape : typed? formats members type = some shape)
    (h : shape.Hands pool visited path child) : child = .null ∨ Leads pool members child := by
  cases type with
  | string =>
      obtain ⟨_, _, rfl⟩ := Option.map_eq_some_iff.mp hshape
      cases h
  | number | integer | boolean | null =>
      cases hshape
      cases h
  | array =>
      cases hshape
      cases h with
      | items => exact leads_of_itemSchema hkind
  | object =>
      cases hshape
      exact .inr (h.leads_of_isObject (.inl hkind))

/-- What a shape hands down, its schema leads to, or it is nothing. -/
theorem Hands.leads (hshape : shape? formats members = some shape)
    (h : shape.Hands pool visited path child) : child = .null ∨ Leads pool members child := by
  unfold shape? at hshape
  split at hshape
  · next hkind =>
    cases hshape
    cases h with
    | definition _ hresolve => exact .inr (.definition hkind hresolve)
  · next variants hkind =>
    unfold ofVariants at hshape
    split at hshape
    · next sole _ hsole =>
      -- the alternative that is left beside null is merged with the node
      cases hshape
      cases h with
      | inner => exact .inr (.sole hkind hsole)
    · next hnone =>
      cases hshape
      cases h with
      | alternative hmem => exact .inr (.variant hkind hnone hmem)
  · next names hkind =>
    unfold ofNames at hshape
    split at hshape
    · next sole _ hsole =>
      cases hshape
      cases h with
      | inner => exact .inr (.type hkind (Compiler.mem_of_soleAlternative? hsole))
    · cases hshape
      cases h with
      | alternative hmem =>
          obtain ⟨name, hname, rfl⟩ := List.mem_map.mp hmem
          exact .inr (.type hkind hname)
  · cases hshape
    cases h
  · cases hshape
    cases h
  · next hkind => exact h.leads_of_primitive hkind hshape
  · next hkind =>
    cases hshape
    exact .inr (h.leads_of_isObject (.inr hkind))
  · cases hshape
    cases h

/-- The child's branch has entered what the shape's has, and the reference to the
child, where the shape is one. -/
theorem Hands.contains (h : shape.Hands pool visited path child) {r : String}
    (hr : path.contains r = true) :
    visited.contains r = true ∨ pool.resolve? r = some child := by
  cases h with
  | definition _ hresolve =>
      rcases VisitedPath.contains_enter.mp hr with rfl | hr
      · exact .inr hresolve
      · exact .inl hr
  | inner | alternative => exact .inl hr
  | items | property | other => exact .inl (VisitedPath.contains_descend.mp hr)

end Shape

-- =========================================================== the invariant

/-- The schema can be reached from the root, and from the definition of every
reference that its branch has entered. -/
structure Ancestral (root : Definitions × Json) (pool : Definitions) (visited : VisitedPath)
    (schema : Json) : Prop where
  reached : ReflTransGen Onward root (pool, schema)
  entered : ∀ r, visited.contains r = true → ∃ definition, pool.resolve? r = some definition ∧
    ReflTransGen Onward (pool, definition) (pool, schema)

namespace Ancestral

variable {root : Definitions × Json} {pool : Definitions} {visited path : VisitedPath}
variable {members : Members} {child : Json}

/-- Before anything has been entered there is nothing to account for. -/
theorem empty (pool : Definitions) (schema : Json) :
    Ancestral (pool, schema) pool .empty schema :=
  ⟨.refl, fun _ h => nomatch h⟩

/-- A schema led to is ancestral on a branch that has entered no more than the one
before and the reference to the schema. -/
theorem step (h : Ancestral root pool visited (.object members))
    (hleads : Leads (pool.inForce members) members child)
    (hpath : ∀ r, path.contains r = true →
      visited.contains r = true ∨ (pool.inForce members).resolve? r = some child) :
    Ancestral root (pool.inForce members) path child := by
  refine ⟨h.reached.tail (.step hleads), ?_⟩
  intro r hr
  rcases hpath r hr with hr | hresolve
  · obtain ⟨definition, hresolve, hreached⟩ := h.entered r hr
    have hstep : Onward (pool, .object members) (pool.inForce members, child) := .step hleads
    rw [Definitions.inForce_of_resolve? hresolve] at hstep ⊢
    exact ⟨definition, hresolve, hreached.tail hstep⟩
  · exact ⟨child, hresolve, .refl⟩

/-- A reference that its branch has entered names a circular definition. -/
theorem circular (h : Ancestral root pool visited (.object members)) {r : String}
    (hkind : (SchemaKind.of members).1 = .reference r) (hentered : visited.contains r = true) :
    Circular (pool.inForce members) (Definitions.targetName r) := by
  obtain ⟨definition, hresolve, hreached⟩ := h.entered r hentered
  rw [Definitions.inForce_of_resolve? hresolve]
  exact circular_of_onward hresolve hreached hkind

/-- Where no definition is circular, no reference is met that has been entered. -/
theorem not_contains (h : Ancestral root pool visited (.object members))
    (hacyclic : Acyclic root.1 root.2) {r : String}
    (hkind : (SchemaKind.of members).1 = .reference r) : visited.contains r = false := by
  cases hentered : visited.contains r with
  | false => rfl
  | true => exact absurd (h.circular hkind hentered) (hacyclic _ _ _ h.reached hkind)

end Ancestral

/-- On an ancestral branch, with some levels left, the schema comes to the validator.
A null has nothing to be reached for. -/
structure Rooted (root : Definitions × Json) (options : CompileOptions) (levels : Nat)
    (pool : Definitions) (visited : VisitedPath) (schema : Json) (v : Validator) : Prop where
  ancestral : schema ≠ .null → Ancestral root pool visited schema
  expands : Expands options levels pool visited schema v

namespace Rooted

variable {root : Definitions × Json} {options : CompileOptions} {levels : Nat}
variable {pool : Definitions} {visited : VisitedPath} {members : Members} {schema : Json}
variable {v w : Validator}

/-- What is compiled is rooted in the schema it was compiled from. -/
theorem of_compileNode (h : (compileNode schema pool .empty options).result = .ok v) :
    Rooted (pool, schema) options (Compiler.levels options) pool .empty schema v :=
  ⟨fun _ => .empty pool schema, expands_of_compileNode h⟩

theorem ancestral_object (h : Rooted root options levels pool visited (.object members) v) :
    Ancestral root pool visited (.object members) :=
  h.ancestral fun heq => nomatch heq

/-- A schema comes to a layer over rooted branches, or it is no object. -/
theorem any_or_layer (h : Rooted root options levels pool visited schema v) :
    (∀ members, schema ≠ .object members) ∧ v = .any ∨
    ∃ less members shape, levels = less + 1 ∧ schema = .object members ∧
      shape? options.formats members = some shape ∧
      Layer options (pool.inForce members) visited
        (Rooted root options less (pool.inForce members)) shape v := by
  rcases h.expands.any_or_layer with hany | ⟨less, members, shape, hlevels, rfl, hshape, hlayer⟩
  · exact .inl hany
  · refine .inr ⟨less, members, shape, hlevels, rfl, hshape, ?_⟩
    apply hlayer.imp
    intro path child w hhands hw
    refine ⟨fun hchild => ?_, hw⟩
    rcases hhands.leads hshape with hnull | hleads
    · exact absurd hnull hchild
    · exact h.ancestral_object.step hleads fun r hr => hhands.contains hr

/-- What has become of a schema handed down is rooted in the same schema. -/
theorem of_becomes (h : Rooted root options levels pool visited (.object members) v)
    {shape : Shape} (hshape : shape? options.formats members = some shape) {child : Json}
    (hbecomes : shape.Becomes (pool.inForce members) v child w) :
    ∃ less path, Rooted root options less (pool.inForce members) path child w := by
  rcases h.any_or_layer with ⟨-, rfl⟩ | ⟨less, _, _, -, heq, hshape', hlayer⟩
  · cases hbecomes
  · cases heq
    rw [hshape] at hshape'
    cases hshape'
    obtain ⟨path, -, hw⟩ := hlayer.of_becomes hbecomes
    exact ⟨less, path, hw⟩

/-- Where a reference is deferred, that much is known of it. -/
theorem deferred_eq {d : Deferred}
    (h : Rooted root options levels pool visited schema (.deferred d)) :
    ∃ members, schema = .object members ∧
      (SchemaKind.of members).1 = .reference d.reference ∧
      d.pool = pool.inForce members ∧ d.visited = visited ∧ d.options = options := by
  rcases h.any_or_layer with ⟨-, hany⟩ | ⟨_, members, shape, -, rfl, hshape, hlayer⟩
  · cases hany
  · obtain ⟨rfl, hdeferred⟩ := hlayer.of_deferred
    exact ⟨members, rfl, Shape.kind_of_reference hshape, hdeferred⟩

/-- What a deferred reference stands for is rooted where the reference was. -/
theorem of_target {d : Deferred} {t : Validator}
    (h : Rooted root options levels pool visited schema (.deferred d)) (ht : d.target = .ok t) :
    ∃ definition, d.pool.resolve? d.reference = some definition ∧
      Rooted root options (Compiler.levels options) d.pool (d.visited.enter d.reference)
        definition t := by
  obtain ⟨members, rfl, hkind, hpool, hvisited, rfl⟩ := h.deferred_eq
  obtain ⟨definition, hresolve, hexpands⟩ :=
    Deferred.expands_of_compile (Deferred.target_eq_ok.mp ht)
  refine ⟨definition, hresolve, fun _ => ?_, hexpands⟩
  rw [hpool] at hresolve ⊢
  refine h.ancestral_object.step (.definition hkind hresolve) fun r hr => ?_
  rcases VisitedPath.contains_enter.mp hr with rfl | hr
  · exact .inr hresolve
  · rw [hvisited] at hr
    exact .inl hr

/-- A deferred reference names a circular definition. -/
theorem circular_of_deferred {d : Deferred}
    (h : Rooted root options levels pool visited schema (.deferred d)) :
    Circular d.pool (Definitions.targetName d.reference) := by
  obtain ⟨members, rfl, hkind, hpool, hvisited, -⟩ := h.deferred_eq
  rw [hpool]
  apply h.ancestral_object.circular hkind
  rw [← hvisited]
  exact VisitedPath.contains_of_isNested d.nested

/-- Unless a reference names a circular definition, it has become a shared node. -/
theorem shared_or_circular {r : String}
    (h : Rooted root options levels pool visited (.object members) v)
    (hkind : (SchemaKind.of members).1 = .reference r) :
    (∃ number t, v = .shared number t) ∨
      Circular (pool.inForce members) (Definitions.targetName r) := by
  rcases h.expands.any_or_layer with ⟨hschema, -⟩ | ⟨_, _, shape, -, heq, hshape, hlayer⟩
  · exact absurd rfl (hschema members)
  · cases heq
    rw [shape?_of_reference options.formats hkind] at hshape
    cases hshape
    have hcircular := h.ancestral_object.circular hkind
    rcases hlayer.reference_cases with ⟨hentered, -, -⟩ | ⟨d, rfl, -, rfl, -⟩ |
      ⟨_, t, number, -, -, -, rfl⟩
    · exact .inr (hcircular hentered)
    · exact .inr (hcircular (VisitedPath.contains_of_isNested d.nested))
    · exact .inl ⟨number, t, rfl⟩

end Rooted

end Conformance
