/-
Asking validators.

There are two ways to find out what a deferred reference stands for. Asked on
its own, a validator compiles a definition each time it needs it, and answers
are plain functions. In a session what was compiled is kept: a reference, once
resolved, stays resolved, and a definition's warnings appear once, when it is
first needed.
-/
import Conformance.Validation

namespace Conformance

namespace Deferred

/-- What the reference stands for, with the error in words. -/
def target (d : Deferred) : Except String Validator :=
  d.compile.result.mapError CompileError.message

theorem target_eq_ok {d : Deferred} {v : Validator} :
    d.target = .ok v ↔ d.compile.result = .ok v := by
  unfold target
  cases d.compile.result with
  | error e =>
    constructor
    · intro h
      cases h
    · intro h
      cases h
  | ok w =>
    constructor
    · intro h
      cases h
      rfl
    · intro h
      cases h
      rfl

/-- Compiles the definition each time. -/
def direct : Lookup Unit := fun d => return d.target

end Deferred

namespace Validator

/-- The conforming form of a value, or why it has none. -/
def parse (v : Validator) (value : Json) : Except Failure Json :=
  match ((v.parseBy Deferred.direct value []).run ()).1 with
  | .ok parsed => .ok parsed
  | .error issues => .error ⟨issues⟩

/-- Whether a value conforms. -/
def check (v : Validator) (value : Json) : Bool := (v.parse value).isOk

/-- Whether an absent value is acceptable. -/
def acceptsAbsent (v : Validator) : Bool := ((v.absentBy Deferred.direct).run ()).1

/-- The conforming form of a value or of its absence. -/
def parseOptional (v : Validator) (value : Option Json) : Except Failure (Option Json) :=
  ((v.parseOptionalBy Deferred.direct value).run ()).1

/-- The place of the first alternative that accepts a value. -/
def matchedVariant (v : Validator) (value : Json) : Option Nat :=
  ((v.variantBy Deferred.direct value).run ()).1

end Validator

-- ============================================================ sessions

/-- What a validator has learnt while it was used: what its deferred references
stand for, and the warnings so far. -/
structure Session where
  resolved : List (Deferred × Except String Validator) := []
  warnings : Array Warning := #[]

namespace Session

/-- Whether a deferred reference has been resolved. -/
def isResolved (session : Session) (d : Deferred) : Bool :=
  session.resolved.any (·.1 == d)

/-- Compiles a definition when it is first needed, and keeps it. -/
def lookup : Lookup Session := fun d session =>
  match session.resolved.lookup d with
  | some known => (known, session)
  | none =>
    let outcome := d.compile
    let target := outcome.result.mapError CompileError.message
    (target, { resolved := (d, target) :: session.resolved
               warnings := session.warnings ++ outcome.warnings })

/-- Parses a value or its absence. -/
def parseOptional (v : Validator) (value : Option Json) :
    StateM Session (Except Failure (Option Json)) :=
  v.parseOptionalBy lookup value

/-- Whether a value conforms. -/
def check (v : Validator) (value : Json) : StateM Session Bool := do
  return (← v.parseBy lookup value []).isOk

/-- Whether an absent value is acceptable. -/
def acceptsAbsent (v : Validator) : StateM Session Bool := v.absentBy lookup

/-- The place of the first alternative that accepts a value. -/
def matchedVariant (v : Validator) (value : Json) : StateM Session (Option Nat) :=
  v.variantBy lookup value

end Session

end Conformance
