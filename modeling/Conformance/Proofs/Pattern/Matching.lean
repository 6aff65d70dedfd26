/-
What an expression matches.

An expression leads from one place of a text to another. It consumes what lies between, and
an anchor looks at the characters on both sides of a place. How a machine finds out about it
does not matter here: `Leads` follows the parts of the expression and nothing else.
-/
import Conformance.Pattern.Expression

namespace Conformance

/-- A place in a text: the character before it, if there is one, and those after it. -/
structure Place where
  before : Option Char
  rest : List Char

namespace Place

/-- The place before a text. -/
def start (text : String) : Place := ⟨none, text.toList⟩

/-- From one place another is reached over some characters. -/
inductive Passes : Place → List Char → Place → Prop
  | nil (p : Place) : Passes p [] p
  | cons {before : Option Char} {c : Char} {rest cs : List Char} {q : Place}
      (h : Passes ⟨some c, rest⟩ cs q) : Passes ⟨before, c :: rest⟩ (c :: cs) q

namespace Passes

variable {p q r : Place} {cs ds : List Char} {c : Char}

@[simp] theorem nil_iff : Passes p [] q ↔ p = q := by
  constructor
  · intro h
    cases h
    rfl
  · rintro rfl
    exact .nil p

theorem rest_eq (h : Passes p cs q) : p.rest = cs ++ q.rest := by
  induction h with
  | nil => rfl
  | cons _ ih => rw [List.cons_append, ← ih]

theorem trans (h : Passes p cs q) (h' : Passes q ds r) : Passes p (cs ++ ds) r := by
  induction h with
  | nil => exact h'
  | cons _ ih => exact .cons (ih h')

/-- What is passed can be passed in two parts. -/
theorem append_iff : Passes p (cs ++ ds) r ↔ ∃ q, Passes p cs q ∧ Passes q ds r := by
  constructor
  · intro h
    induction cs generalizing p with
    | nil => exact ⟨p, .nil p, h⟩
    | cons c cs ih =>
        cases h with
        | cons h =>
            obtain ⟨q, hfront, hback⟩ := ih h
            exact ⟨q, .cons hfront, hback⟩
  · rintro ⟨q, hfront, hback⟩
    exact hfront.trans hback

theorem exists_of_rest_eq (h : p.rest = cs ++ ds) : ∃ q, Passes p cs q ∧ q.rest = ds := by
  induction cs generalizing p with
  | nil => exact ⟨p, .nil p, h⟩
  | cons c cs ih =>
      obtain ⟨before, rest⟩ := p
      cases h
      obtain ⟨q, hpasses, hrest⟩ := @ih ⟨some c, cs ++ ds⟩ rfl
      exact ⟨q, .cons hpasses, hrest⟩

/-- Behind a character no place is the first. -/
theorem before_isSome (h : Passes p (c :: cs) q) : q.before.isSome = true := by
  generalize hpassed : c :: cs = passed at h
  induction h generalizing c cs with
  | nil => cases hpassed
  | @cons before d rest ds q h ih =>
      cases ds with
      | nil =>
          cases h
          rfl
      | cons e es => exact ih rfl

end Passes

end Place

open Place

-- ================================================================ matches

/-- A relation of places, a number of times over. -/
def Times (leads : Place → Place → Prop) : Nat → Place → Place → Prop
  | 0, p, q => p = q
  | n + 1, p, r => ∃ q, Times leads n p q ∧ leads q r

namespace Times

variable {leads leads' : Place → Place → Prop} {m n : Nat} {p q r : Place}

theorem add : Times leads (m + n) p r ↔ ∃ q, Times leads m p q ∧ Times leads n q r := by
  induction n generalizing r with
  | zero => simp [Times]
  | succ n ih =>
      show (∃ q, Times leads (m + n) p q ∧ leads q r) ↔ _
      simp only [ih, Times]
      constructor
      · rintro ⟨q, ⟨o, hm, hn⟩, h⟩
        exact ⟨o, hm, q, hn, h⟩
      · rintro ⟨o, hm, q, hn, h⟩
        exact ⟨q, ⟨o, hm, hn⟩, h⟩

end Times

namespace Expression

mutual

/-- Whether an expression leads from one place to another. A count that ends below its
start ends at it. -/
def Leads : Expression → Place → Place → Prop
  | .empty, p, q => p = q
  | .set s, p, q => ∃ c, s.has c = true ∧ Passes p [c] q
  | .anchor a, p, q => a.holds p.before p.rest.head? = true ∧ p = q
  | .concat parts, p, q => LeadAll parts p q
  | .alternate branches, p, q => OneLeads branches p q
  | .repeated body least most, p, q =>
    ∃ n, least ≤ n ∧ (∀ m ∈ most, n ≤ max least m) ∧ Times (Leads body) n p q
  | .group body, p, q => Leads body p q

/-- Whether expressions lead there one after the other. -/
def LeadAll : List Expression → Place → Place → Prop
  | [], p, q => p = q
  | e :: rest, p, r => ∃ q, Leads e p q ∧ LeadAll rest q r

/-- Whether one of several expressions leads there. -/
def OneLeads : List Expression → Place → Place → Prop
  | [], _, _ => False
  | e :: rest, p, q => Leads e p q ∨ OneLeads rest p q

end

/-- The expression matches some stretch of a text. -/
def Occurs (e : Expression) (text : String) : Prop :=
  ∃ passed p q, Passes (start text) passed p ∧ e.Leads p q

end Expression

end Conformance
