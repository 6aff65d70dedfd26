/-
Stretches of code points.

A function on code points that seldom changes is kept as the points at which it
changes, ascending, with the value that holds from each point on. Looking up a
code point is one binary search for the last point at or below it.
-/
import Conformance.Unicode.CodeSet

namespace Conformance

/-- Where stretches start, and the value on each. -/
structure Stretches (α : Type) where
  starts : Array Nat
  values : Array α
  deriving Repr, Inhabited

namespace Stretches

/-- The stretches of given lengths, one after the other from zero up. -/
def ofLengths {α : Type} (lengths : List (Nat × α)) : Stretches α :=
  ⟨(lengths.foldl (fun (state : Nat × Array Nat) e =>
      (state.1 + e.1, state.2.push state.1)) (0, #[])).2,
    (lengths.map (·.2)).toArray⟩

/-- The value at a code point; `other` where no stretch reaches. -/
def get {α : Type} (s : Stretches α) (c : Nat) (other : α) : α :=
  let next := CodeSet.rank s.starts c (s.starts.size.log2 + 2) 0 s.starts.size
  s.values.getD (next - 1) other

end Stretches

end Conformance
