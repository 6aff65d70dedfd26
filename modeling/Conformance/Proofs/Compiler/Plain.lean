/-
Compiling without a history.

`plain` follows every reference, no matter which have been followed before, so
nothing it makes is deferred or cut off. It keeps no history at all: what it is
given is a schema and the definitions in force around it. Where a schema leads to
no circular definition, this is what the compiler does (`Rooted.plain_eq`).
-/
import Conformance.Proofs.Compiler.Cycles

namespace Conformance

namespace Compiler

/-- A reference, its definition compiled in its place. -/
def referencePlain (next : Definitions → Json → Except CompileError Validator)
    (pool : Definitions) (target : String) : Except CompileError Validator :=
  match pool.resolve? target with
  | none => .error (.unresolvedReference target (Definitions.targetName target))
  | some definition => (next pool definition).map (.shared 0)

/-- Compiles a schema with some levels left, every reference followed. The paths in
errors are left out. -/
def plain (options : CompileOptions) : Nat → Definitions → Json → Except CompileError Validator
  | 0, _, .object _ => .error (.depthExceeded "#" options.maxDepth)
  | levels + 1, pool, .object members =>
    schema options
      (fun target site => referencePlain (plain options levels) site.pool.definitions target)
      (fun child site => plain options levels site.pool.definitions child) members
      { pool := ⟨pool.inForce members, 0⟩, visited := .empty, path := "#" }
  | _, _, _ => .ok .any

end Compiler

variable {options : CompileOptions} {pool : Definitions} {visited : VisitedPath}
variable {shape : Shape} {v : Validator}

/-- A layer that enters something new, or enters nothing, does not depend on what has
been entered. -/
theorem Layer.afresh {below : Json → Validator → Prop}
    (h : Layer options pool visited (fun _ => below) shape v)
    (hnew : ∀ target, shape = .reference target → visited.contains target = false) :
    Layer options pool .empty (fun _ => below) shape v := by
  cases h with
  | leaf h => exact .leaf h
  | cut hentered =>
      rw [hnew _ rfl] at hentered
      cases hentered
  | @deferred d _ hvisited =>
      have hentered := VisitedPath.contains_of_isNested d.nested
      rw [hvisited, hnew _ rfl] at hentered
      cases hentered
  | followed _ hresolve h => exact .followed rfl hresolve h
  | optional h => exact .optional h
  | union hs => exact .union hs
  | array h => exact .array h
  | object hproperties hadditional => exact .object hproperties hadditional

namespace Compiler

/-- With nothing entered, the plain rule for references gives the reference's layer. -/
theorem referencePlain_eq_ok {next : Definitions → Json → Except CompileError Validator}
    {target : String} :
    referencePlain next pool target = .ok v.anonymous ↔
      Layer options pool .empty (fun _ schema w => next pool schema = .ok w.anonymous)
        (.reference target) v := by
  unfold referencePlain
  constructor
  · intro h
    split at h
    · cases h
    · next definition hresolve =>
      cases hfound : next pool definition with
      | error e => rw [hfound] at h; cases h
      | ok w =>
          rw [hfound] at h
          obtain ⟨k, u, rfl, rfl⟩ := Validator.anonymous_eq_shared (Except.ok.inj h).symm
          exact .followed rfl hresolve hfound
  · intro h
    rcases h.reference_cases with ⟨hentered, -, -⟩ | ⟨d, rfl, -, hvisited, -⟩ |
      ⟨definition, t, number, -, hresolve, ht, rfl⟩
    · cases hentered
    · have hentered := VisitedPath.contains_of_isNested d.nested
      rw [hvisited] at hentered
      cases hentered
    · rw [hresolve]
      simp only [ht]
      rfl

/-- A layer over what plain compiling makes, on a branch that has entered nothing,
is what plain compiling makes. -/
theorem plain_object_eq_ok {levels : Nat} {members : Members} :
    plain options (levels + 1) pool (.object members) = .ok v.anonymous ↔
      ∃ shape, shape? options.formats members = some shape ∧
        Layer options (pool.inForce members) .empty
          (fun _ schema w => plain options levels (pool.inForce members) schema = .ok w.anonymous)
          shape v := by
  refine schema_eq_ok ?next ?free rfl fun target => referencePlain_eq_ok
  case next =>
    intro schema site w hpool
    rw [hpool]
  case free =>
    intro _ w
    have hany : Except.ok .any = (Except.ok w.anonymous : Except CompileError _) ↔ w = .any := by
      rw [Except.ok.injEq]
      exact eq_comm.trans (Validator.anonymous_eq_leaf (show Shape.anything.leaf? = _ from rfl))
    cases levels <;> exact hany

end Compiler

open Compiler in
/-- Where a schema leads to no circular definition, what it comes to is what plain
compiling makes of it. -/
theorem Rooted.plain_eq {root : Definitions × Json} (hacyclic : Acyclic root.1 root.2)
    {levels : Nat} : ∀ {pool : Definitions} {visited : VisitedPath} {schema : Json} {v : Validator},
      Rooted root options levels pool visited schema v →
      plain options levels pool schema = .ok v.anonymous := by
  have hany : ∀ {levels pool schema}, (∀ members, schema ≠ .object members) →
      plain options levels pool schema = .ok .any := by
    intro levels pool schema hschema
    cases schema with
    | object members => exact absurd rfl (hschema members)
    | _ => cases levels <;> rfl
  induction levels with
  | zero =>
      intro pool visited schema v h
      rcases h.any_or_layer with ⟨hschema, rfl⟩ | ⟨_, _, _, hlevels, -⟩
      · exact hany hschema
      · cases hlevels
  | succ levels ih =>
      intro pool visited schema v h
      rcases h.any_or_layer with ⟨hschema, rfl⟩ | ⟨_, members, shape, hlevels, rfl, hshape, hlayer⟩
      · exact hany hschema
      · cases hlevels
        have hplain : Layer options (pool.inForce members) visited
            (fun _ child w => plain options levels (pool.inForce members) child = .ok w.anonymous)
            shape v := hlayer.imp fun _ _ _ _ hw => ih hw
        refine plain_object_eq_ok.mpr ⟨shape, hshape, hplain.afresh ?_⟩
        rintro target rfl
        exact h.ancestral_object.not_contains hacyclic (Shape.kind_of_reference hshape)

end Conformance
