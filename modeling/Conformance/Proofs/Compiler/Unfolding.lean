/-
Compiling without remembering.

`unfold` is the compiler with every followed reference compiled afresh. It has
nothing to keep from one step to the next: no followed references, no counters,
no warnings. So it is a plain function of the schema, the site and the levels
left, by the same rules as the compiler. What tells nodes apart for the
compiler is left out: shared nodes all have the number zero, deferred
references the empty key, pools the number zero.
-/
import Conformance.Compiler.Basic

namespace Conformance

namespace Definitions

/-- The definitions in force at a schema object: those in force already, and
while there are none, those it declares. -/
def inForce (pool : Definitions) (members : Members) : Definitions :=
  if pool.isEmpty then declaredBy members else pool

theorem inForce_of_nonempty {pool : Definitions} (h : pool.isEmpty = false) (members : Members) :
    pool.inForce members = pool := by
  rw [inForce, h]
  rfl

/-- No reference points into a pool of nothing. -/
theorem resolve?_of_isEmpty {pool : Definitions} (h : pool.isEmpty = true) (target : String) :
    pool.resolve? target = none := by
  obtain ⟨members⟩ := pool
  cases members with
  | nil => rfl
  | cons _ _ => cases h

/-- Where a reference can be resolved, the definitions stay in force. -/
theorem inForce_of_resolve? {pool : Definitions} {target : String} {definition : Json}
    (h : pool.resolve? target = some definition) (members : Members) :
    pool.inForce members = pool := by
  cases hempty : pool.isEmpty with
  | false => exact inForce_of_nonempty hempty members
  | true => rw [resolve?_of_isEmpty hempty] at h; cases h

end Definitions

namespace Compiler

/-- Warnings are not kept. -/
instance : Noting (Except CompileError) where
  note _ := .ok ()

/-- The site with the pool's number left out. -/
def Site.plain (site : Site) : Site := { site with pool := ⟨site.pool.definitions, 0⟩ }

/-- The site at a schema object. -/
def Site.inForce (site : Site) (members : Members) : Site :=
  { site with pool := ⟨site.pool.definitions.inForce members, 0⟩ }

section

variable (options : CompileOptions)

/-- A reference, its definition compiled afresh. -/
def referenceAfresh (next : Json → Site → Except CompileError Validator)
    (target : String) (site : Site) : Except CompileError Validator :=
  if site.visited.contains target then
    if nested : site.visited.isNested target = true then
      .ok (.deferred
        { key := [], reference := target, pool := site.pool.definitions,
          visited := site.visited, options, nested })
    else .ok (.union [])
  else
    match site.pool.definitions.resolve? target with
    | none => .error (.unresolvedReference target (Definitions.targetName target))
    | some definition => (next definition (site.entered target)).map (.shared 0)

/-- Compiles a schema with some levels left, every reference afresh. -/
def unfold : Nat → Json → Site → Except CompileError Validator
  | 0, .object _, site => .error (.depthExceeded site.path options.maxDepth)
  | levels + 1, .object members, site =>
    schema options (referenceAfresh options (unfold levels)) (unfold levels) members
      (site.inForce members)
  | _, _, _ => .ok .any

end

end Compiler

/-- Compiles a schema against given definitions, every reference afresh. -/
def unfoldNode (schema : Json) (pool : Definitions) (visited : VisitedPath)
    (options : CompileOptions) : Except CompileError Validator :=
  Compiler.unfold options (Compiler.levels options) schema
    { pool := ⟨pool, 0⟩, visited, path := "#" }

end Conformance
