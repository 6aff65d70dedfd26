/-
What a schema compiles to, as a relation.

`Expands` says, with the number of levels left, which validators a schema comes to in a
pool and after a history. One level of it is a `Layer` over the schema's shape. So a fact
about everything that can be compiled is an induction on levels with one case for each kind
of layer, and no rule of the compiler has to be opened again.

`unfold_eq_ok_iff` is the bridge: the results of `unfold` are the expansions.
-/
import Conformance.Proofs.Compiler.Outcomes

namespace Conformance

section

variable (options : CompileOptions)

/-- With some levels left, a schema comes to the validator in a pool and after a
history. -/
def Expands : Nat → Definitions → VisitedPath → Json → Validator → Prop
  | 0, _, _, .object _, _ => False
  | levels + 1, pool, visited, .object members, v =>
    ∃ shape, shape? options.formats members = some shape ∧
      Layer options (pool.inForce members) visited (Expands levels (pool.inForce members))
        shape v
  | _, _, _, _, v => v = .any

end

namespace Expands

variable {options : CompileOptions} {levels : Nat} {pool : Definitions} {visited : VisitedPath}
variable {schema : Json} {v w : Validator}

/-- A schema comes to a layer over what one level less comes to, or it is no
object and allows anything. -/
theorem any_or_layer (h : Expands options levels pool visited schema v) :
    (∀ members, schema ≠ .object members) ∧ v = .any ∨
    ∃ less members shape, levels = less + 1 ∧ schema = .object members ∧
      shape? options.formats members = some shape ∧
      Layer options (pool.inForce members) visited (Expands options less (pool.inForce members))
        shape v := by
  cases schema with
  | object members =>
      cases levels with
      | zero => exact absurd h id
      | succ less =>
          obtain ⟨shape, hshape, hlayer⟩ := h
          exact .inr ⟨less, members, shape, rfl, rfl, hshape, hlayer⟩
  | _ =>
      refine .inl ⟨?_, ?_⟩
      · intro members heq
        cases heq
      · cases levels <;> exact h

/-- The parts of what a schema comes to are what schemas come to with one level
less, but for the values of an enumeration. -/
theorem part (h : Expands options levels pool visited schema v) (hpart : v.Part w) :
    (∃ less pool path child, levels = less + 1 ∧ Expands options less pool path child w) ∨
      ∃ x, w = .literal x := by
  rcases h.any_or_layer with ⟨-, rfl⟩ | ⟨less, _, _, hlevels, -, -, hlayer⟩
  · cases hpart
  · rcases hlayer.part hpart with ⟨_, _, -, hw⟩ | hliteral
    · exact .inl ⟨less, _, _, _, hlevels, hw⟩
    · exact .inr hliteral

/-- A reference is deferred with the options at hand. -/
theorem options_eq {d : Deferred} (h : Expands options levels pool visited schema (.deferred d)) :
    d.options = options := by
  rcases h.any_or_layer with ⟨-, hany⟩ | ⟨_, _, _, -, -, -, hlayer⟩
  · cases hany
  · exact hlayer.of_deferred.2.2.2

theorem options_eq_of_holds {d : Deferred} (hholds : v.Holds d) :
    ∀ {levels : Nat} {pool : Definitions} {visited : VisitedPath} {schema : Json},
      Expands options levels pool visited schema v → d.options = options := by
  induction hholds with
  | here d => exact fun h => h.options_eq
  | beneath hpart hrest ih =>
      intro levels pool visited schema h
      rcases h.part hpart with ⟨_, _, _, _, -, hw⟩ | ⟨x, rfl⟩
      · exact ih hw
      · exact absurd hrest Validator.not_holds_literal

end Expands

-- ================================================================ bridge

namespace Compiler

variable {options : CompileOptions}

/-- The results of compiling afresh are the expansions. -/
theorem unfold_eq_ok_iff {levels : Nat} : ∀ {schema : Json} {site : Site} {v : Validator},
    unfold options levels schema site = .ok v.anonymous ↔
      Expands options levels site.pool.definitions site.visited schema v := by
  have hany : ∀ v : Validator, (Except.ok .any : Except CompileError _) = .ok v.anonymous ↔
      v = .any := fun v => by
    rw [Except.ok.injEq]
    exact eq_comm.trans (Validator.anonymous_eq_leaf (show Shape.anything.leaf? = _ from rfl))
  induction levels with
  | zero =>
      intro schema site v
      cases schema with
      | object members =>
          constructor
          · intro h
            cases h
          · intro h
            cases h
      | _ => exact hany v
  | succ levels ih =>
      intro schema site v
      cases schema with
      | object members =>
          have hnext : ∀ (schema : Json) (below : Site) (w : Validator),
              below.pool.definitions = site.pool.definitions.inForce members →
              (unfold options levels schema below = .ok w.anonymous ↔
                Expands options levels (site.pool.definitions.inForce members)
                  below.visited schema w) := by
            intro schema below w hbelow
            rw [← hbelow]
            exact ih
          have hfree : ∀ (visited : VisitedPath) (w : Validator),
              Expands options levels (site.pool.definitions.inForce members) visited .null w ↔
                w = .any := by
            intro visited w
            cases levels <;> rfl
          exact schema_eq_ok hnext hfree rfl fun target => referenceAfresh_eq_ok hnext rfl
      | _ => exact hany v

end Compiler

-- ============================================================== results

open Compiler in
/-- Up to names, a schema compiles to its expansions and to nothing else. -/
theorem compileNode_iff_expands {schema : Json} {pool : Definitions} {visited : VisitedPath}
    {options : CompileOptions} {v : Validator} :
    (compileNode schema pool visited options).result.map Validator.anonymous
        = .ok v.anonymous ↔
      Expands options (levels options) pool visited schema v := by
  rw [result_compileNode]
  exact unfold_eq_ok_iff

theorem expands_of_compileNode {schema : Json} {pool : Definitions} {visited : VisitedPath}
    {options : CompileOptions} {v : Validator}
    (h : (compileNode schema pool visited options).result = .ok v) :
    Expands options (Compiler.levels options) pool visited schema v := by
  refine compileNode_iff_expands.mp ?_
  rw [h]
  rfl

namespace Deferred

variable {d : Deferred} {definition : Json} {v : Validator}

open Compiler in
/-- Up to names, a deferred reference stands for the expansions of its
definition and for nothing else. -/
theorem compile_iff_expands (hresolve : d.pool.resolve? d.reference = some definition) :
    d.compile.result.map Validator.anonymous = .ok v.anonymous ↔
      Expands d.options (levels d.options) d.pool (d.visited.enter d.reference) definition v := by
  rw [result_compile hresolve]
  exact unfold_eq_ok_iff

/-- What a deferred reference stands for is an expansion of its definition. -/
theorem expands_of_compile (h : d.compile.result = .ok v) :
    ∃ definition, d.pool.resolve? d.reference = some definition ∧
      Expands d.options (Compiler.levels d.options) d.pool (d.visited.enter d.reference)
        definition v := by
  cases hresolve : d.pool.resolve? d.reference with
  | none =>
      unfold Deferred.compile at h
      rw [hresolve] at h
      cases h
  | some definition =>
      refine ⟨definition, rfl, (compile_iff_expands hresolve).mp ?_⟩
      rw [h]
      rfl

/-- Where its definition comes to something, a deferred reference stands for
something, which differs in names only. -/
theorem exists_compile (hresolve : d.pool.resolve? d.reference = some definition)
    (h : Expands d.options (Compiler.levels d.options) d.pool (d.visited.enter d.reference)
      definition v) :
    ∃ w, d.compile.result = .ok w := by
  have hmap := (compile_iff_expands hresolve).mpr h
  cases hresult : d.compile.result with
  | error e => rw [hresult] at hmap; cases hmap
  | ok w => exact ⟨w, rfl⟩

end Deferred

end Conformance
