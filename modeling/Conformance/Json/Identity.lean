/-
Identity of JSON values.

Values are equal as JSON when they differ at most in the order of members and
the sign of a real zero. Here they are compared as they stand, so that equal
values can be put for one another anywhere.
-/
import Conformance.Json.Basic

namespace Conformance

namespace Json

mutual

/-- Whether two values are the same in every detail. -/
def identical : Json → Json → Bool
  | null, null => true
  | bool a, bool b => a == b
  | number m, number n => m == n
  | string s, string t => s == t
  | array xs, array ys => identicalItems xs ys
  | object ms, object ns => identicalMembers ms ns
  | _, _ => false

/-- Item by item, and with none left over on either side. -/
def identicalItems : List Json → List Json → Bool
  | [], [] => true
  | x :: xs, y :: ys => identical x y && identicalItems xs ys
  | _, _ => false

/-- Member by member in the order in which they stand, names and values. -/
def identicalMembers : List (String × Json) → List (String × Json) → Bool
  | [], [] => true
  | (m, v) :: ms, (n, w) :: ns => m == n && identical v w && identicalMembers ms ns
  | _, _ => false

end

mutual

/-- This is equality. The three proofs go along the three definitions, each with the
shape of the other side to tell. -/
theorem identical_iff_eq : ∀ a b : Json, identical a b = true ↔ a = b
  | null, b => by cases b <;> simp [identical]
  | bool _, b => by cases b <;> simp [identical]
  | number _, b => by cases b <;> simp [identical]
  | string _, b => by cases b <;> simp [identical]
  | array xs, b => by
    cases b with
    | array ys => simp [identical, identicalItems_iff_eq xs ys]
    | _ => simp [identical]
  | object ms, b => by
    cases b with
    | object ns => simp [identical, identicalMembers_iff_eq ms ns]
    | _ => simp [identical]

theorem identicalItems_iff_eq : ∀ xs ys : List Json, identicalItems xs ys = true ↔ xs = ys
  | [], ys => by cases ys <;> simp [identicalItems]
  | x :: xs, ys => by
    cases ys with
    | nil => simp [identicalItems]
    | cons y ys => simp [identicalItems, identical_iff_eq x y, identicalItems_iff_eq xs ys]

theorem identicalMembers_iff_eq :
    ∀ ms ns : List (String × Json), identicalMembers ms ns = true ↔ ms = ns
  | [], ns => by cases ns <;> simp [identicalMembers]
  | (m, v) :: ms, ns => by
    cases ns with
    | nil => simp [identicalMembers]
    | cons e ns =>
      simp [identicalMembers, identical_iff_eq v e.2, identicalMembers_iff_eq ms ns,
        Prod.ext_iff, and_assoc]

end

instance : DecidableEq Json := fun a b => decidable_of_iff _ (identical_iff_eq a b)

end Json

end Conformance
