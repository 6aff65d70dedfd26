/-
References are deferred for cycles alone.

`Traced` goes through a schema and its validator side by side, also into what the
deferred references stand for, so it says what each schema on the way has become.
All of it stands on rooted branches, and a reference on such a branch is a shared
node unless it names a circular definition.
-/
import Conformance.Proofs.Compiler.Plain
import Conformance.Proofs.Validation.Resolved

namespace Conformance

open Relation (ReflTransGen TransGen)

-- ================================================================ tracing

/-- Where the schema, compiled in the pool, has become the validator, a schema that
it leads to has become a node of it, or of what its deferred references stand for.
Each stands with the definitions around it. -/
inductive Traced (formats : FormatPolicy) (pool : Definitions) (schema : Json) (v : Validator) :
    Definitions → Json → Validator → Prop
  | root : Traced formats pool schema v pool schema v
  | part {around : Definitions} {members : Members} {shape : Shape} {child : Json}
      {u w : Validator} (h : Traced formats pool schema v around (.object members) u)
      (hshape : shape? formats members = some shape)
      (hbecomes : shape.Becomes (around.inForce members) u child w) :
      Traced formats pool schema v (around.inForce members) child w
  | behind {around : Definitions} {reference definition : Json} {d : Deferred} {t : Validator}
      (h : Traced formats pool schema v around reference (.deferred d))
      (hresolve : d.pool.resolve? d.reference = some definition) (ht : d.target = .ok t) :
      Traced formats pool schema v d.pool definition t

section

variable {options : CompileOptions} {pool around : Definitions} {schema place : Json}
variable {v w : Validator} {levels : Nat}

/-- Whatever is traced from a rooted branch is rooted. -/
theorem Traced.rooted (hroot : Rooted (pool, schema) options levels pool .empty schema v)
    (h : Traced options.formats pool schema v around place w) :
    ∃ less visited, Rooted (pool, schema) options less around visited place w := by
  induction h with
  | root => exact ⟨levels, .empty, hroot⟩
  | part _ hshape hbecomes ih =>
      obtain ⟨_, _, hrooted⟩ := ih
      exact hrooted.of_becomes hshape hbecomes
  | behind _ hresolve ht ih =>
      obtain ⟨_, _, hrooted⟩ := ih
      obtain ⟨definition, hresolve', htarget⟩ := hrooted.of_target ht
      rw [hresolve] at hresolve'
      cases hresolve'
      exact ⟨_, _, htarget⟩

/-- The deferred references among a traced node's nodes are traced. -/
theorem Traced.of_holds (hroot : Rooted (pool, schema) options levels pool .empty schema v)
    {d : Deferred} (hholds : w.Holds d) : ∀ {around : Definitions} {place : Json},
      Traced options.formats pool schema v around place w →
      ∃ around place, Traced options.formats pool schema v around place (.deferred d) := by
  induction hholds with
  | here d => exact fun h => ⟨_, _, h⟩
  | beneath hpart hrest ih =>
      intro around place h
      obtain ⟨_, _, hrooted⟩ := h.rooted hroot
      rcases hrooted.any_or_layer with ⟨-, rfl⟩ | ⟨_, members, shape, -, rfl, hshape, hlayer⟩
      · cases hpart
      · rcases hlayer.becomes_of_part hpart with ⟨child, hbecomes⟩ | ⟨x, rfl⟩
        · exact ih (h.part hshape hbecomes)
        · exact absurd hrest Validator.not_holds_literal

/-- Every deferred reference that can be reached is traced. -/
theorem Traced.of_reaches (hroot : Rooted (pool, schema) options levels pool .empty schema v)
    {d : Deferred} (hreach : v.Reaches d) :
    ∃ around place, Traced options.formats pool schema v around place (.deferred d) := by
  induction hreach with
  | held hholds => exact Traced.of_holds hroot hholds .root
  | behind _ ht hholds ih =>
      obtain ⟨_, _, h⟩ := ih
      obtain ⟨_, _, hrooted⟩ := h.rooted hroot
      obtain ⟨_, hresolve, -⟩ := hrooted.of_target ht
      exact Traced.of_holds hroot hholds (h.behind hresolve ht)

end

-- ================================================================ cycles

open Compiler in
/-- On a branch that begins with nothing entered, a reference is deferred or cut off
only where its definition refers to itself. So if no definition that can be reached
does, every reference has become a shared node, and up to the names of its nodes the
validator is the plain unfolding of the schema. -/
theorem deferred_only_for_cycles {schema : Json} {pool : Definitions} {options : CompileOptions}
    {v : Validator} (h : (compileNode schema pool .empty options).result = .ok v) :
    (∀ d, v.Reaches d → Circular d.pool (Definitions.targetName d.reference)) ∧
    (∀ around members reference,
      Traced options.formats pool schema v around (.object members) (.union []) →
      (SchemaKind.of members).1 = .reference reference →
      Circular (around.inForce members) (Definitions.targetName reference)) ∧
    (Acyclic pool schema →
      (∀ d, ¬ v.Reaches d) ∧
      (∀ around members reference w,
        Traced options.formats pool schema v around (.object members) w →
        (SchemaKind.of members).1 = .reference reference → ∃ number t, w = .shared number t) ∧
      plain options (levels options) pool schema = .ok v.anonymous) := by
  have hroot := Rooted.of_compileNode h
  refine ⟨?deferred, ?cut, fun hacyclic => ⟨?none, ?shared, hroot.plain_eq hacyclic⟩⟩
  case deferred =>
    intro d hreach
    -- the reference is traced back to where it was compiled, on a rooted branch
    obtain ⟨_, _, htraced⟩ := Traced.of_reaches hroot hreach
    obtain ⟨_, _, hrooted⟩ := htraced.rooted hroot
    exact hrooted.circular_of_deferred
  case cut =>
    intro around members reference htraced hkind
    obtain ⟨_, _, hrooted⟩ := htraced.rooted hroot
    rcases hrooted.shared_or_circular hkind with ⟨_, _, hshared⟩ | hcircular
    · cases hshared
    · exact hcircular
  case none =>
    intro d hreach
    obtain ⟨_, _, htraced⟩ := Traced.of_reaches hroot hreach
    obtain ⟨_, _, hrooted⟩ := htraced.rooted hroot
    obtain ⟨members, rfl, hkind, hpool, -⟩ := hrooted.deferred_eq
    have hcircular := hrooted.circular_of_deferred
    rw [hpool] at hcircular
    exact hacyclic _ _ _ hrooted.ancestral_object.reached hkind hcircular
  case shared =>
    intro around members reference w htraced hkind
    obtain ⟨_, _, hrooted⟩ := htraced.rooted hroot
    rcases hrooted.shared_or_circular hkind with hshared | hcircular
    · exact hshared
    · exact absurd hcircular (hacyclic _ _ _ hrooted.ancestral_object.reached hkind)

/-- A definition that says what a name is. -/
def nameDefinitions : Definitions := ⟨[("Name", .object [("type", .string "string")])]⟩

/-- A person with two names, both by the same definition. -/
def personSchema : Json :=
  .object
    [("$defs", .object nameDefinitions.members),
     ("properties", .object
       [("first", .object [("$ref", .string "#/$defs/Name")]),
        ("last", .object [("$ref", .string "#/$defs/Name")])])]

/-- What a name is depends on no definition. -/
theorem not_refers_nameDefinitions (name other : String) :
    ¬ Refers nameDefinitions name other := by
  rintro ⟨definition, members, reference, hget, hcomprises, hkind, -⟩
  obtain ⟨-, rfl⟩ := Prod.mk.inj (List.mem_singleton.mp (Members.mem_of_get? hget))
  have hstring : (SchemaKind.of [("type", .string "string")]).1 = .primitive .string := rfl
  rcases ReflTransGen.cases_head hcomprises with heq | ⟨child, ⟨_, heq, -, hleads⟩, -⟩
  · cases heq
    rw [hstring] at hkind
    cases hkind
  · cases heq
    cases hleads with
    | definition hkind' | sole hkind' | variant hkind' | type hkind' | items hkind' =>
        rw [hstring] at hkind'
        cases hkind'
    | property hkind' | other hkind' =>
        rw [hstring] at hkind'
        rcases hkind' with hkind' | hkind' <;> cases hkind'

/-- From here one comes to a single definition, and that refers to none. -/
theorem acyclic_personSchema : Acyclic {} personSchema := by
  intro around members reference honward hkind hcircular
  -- all that can be reached is under the one pool
  have hpool : ∀ place, ReflTransGen Onward ({}, personSchema) place →
      place = ({}, personSchema) ∨ place.1 = nameDefinitions := by
    intro place h
    induction h with
    | refl => exact .inl rfl
    | tail _ hstep ih =>
        cases hstep with
        | step hleads =>
            right
            rcases ih with heq | rfl
            · cases heq
              rfl
            · rfl
  have hforce : around.inForce members = nameDefinitions := by
    rcases hpool _ honward with heq | rfl
    · cases heq
      rfl
    · rfl
  rw [hforce] at hcircular
  obtain ⟨other, hrefers, -⟩ := TransGen.head'_iff.mp hcircular
  exact not_refers_nameDefinitions _ _ hrefers

/-- The definition of a name is compiled in both places, and that of a node, which
refers to itself, is deferred. -/
theorem deferred_only_for_cycles_person_node :
    (∃ v, (compile personSchema).result = .ok v ∧ (∀ d, ¬ v.Reaches d) ∧
      Compiler.plain {} (Compiler.levels {}) {} personSchema = .ok v.anonymous) ∧
    ∃ v d, (compile Validator.nodeSchema).result = .ok v ∧ v.Reaches d ∧
      Circular d.pool (Definitions.targetName d.reference) := by
  constructor
  · have hcompile : (compileNode personSchema {} .empty {}).result = .ok _ := rfl
    obtain ⟨hnone, -, hplain⟩ := (deferred_only_for_cycles hcompile).2.2 acyclic_personSchema
    exact ⟨_, hcompile, hnone, hplain⟩
  · have hcompile : (compileNode Validator.nodeSchema {} .empty {}).result = .ok _ := rfl
    obtain ⟨hdeferred, -⟩ := deferred_only_for_cycles hcompile
    refine ⟨_, ?d, hcompile, ?reached, hdeferred _ ?reached⟩
    case reached =>
      refine .held (.beneath .target (.beneath (.property (List.mem_cons_self ..)) ?_))
      exact .here _

end Conformance
