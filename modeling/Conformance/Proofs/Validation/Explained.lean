/-
Every rejection has an issue.

Whether an array or an object is accepted is decided by whether its items and members
have left any issues, and what has left none is taken to conform. So a validator that
rejected a value without an issue would be taken at its word by everything around it, and
the value would just be missing from the result. No validator does that
(`explained_parseBy`), whatever is found out about deferred references and in whatever
state: not where a reference cannot be compiled, not where the walk is cut off, and not
where there is no alternative.

The induction is on the validator, for any answers about deferred references that are
explained themselves. What those answers are made of is one level of the walk more, and
the levels come to an end as the walk does.
-/
import Conformance.Proofs.Validation.Encounters
import Conformance.Session

namespace Conformance

namespace Validator

-- ====================================================== in every state

/-- In every state the answer of the computation is as described. -/
def Always {σ α : Type} (P : α → Prop) (step : StateM σ α) : Prop := ∀ s, P (step.run s).1

/-- The value is accepted, or there is an issue. -/
def Explained (parsed : Parsed) : Prop := parsed ≠ .error []

section

variable {σ α β : Type} {P : β → Prop} {Q : α → Prop} {step : StateM σ α} {f : α → StateM σ β}

/-- What is returned in every state is the same. -/
theorem Always.pure {b : β} (h : P b) : Always P (pure b : StateM σ β) := fun _ => h

/-- In a sequence, the second step may rely on what always holds of the first. -/
theorem Always.bind (hstep : Always Q step) (h : ∀ a, Q a → Always P (f a)) :
    Always P (step >>= f) :=
  fun s => h (step.run s).1 (hstep s) (step.run s).2

/-- Whatever comes first, the answer is that of what follows. -/
theorem Always.after (h : ∀ a, Always P (f a)) : Always P (step >>= f) :=
  .bind (Q := fun _ => True) (fun _ => trivial) fun a _ => h a

/-- A node that gathers issues rejects only if it has gathered some. -/
theorem accepted_ne_error_nil (value : Json) (issues : List Issue) :
    accepted value issues ≠ .error [] := by
  unfold accepted
  cases issues with
  | nil => exact fun h => nomatch h
  | cons issue rest => exact fun h => nomatch h

theorem explained_ok (y : Json) : Explained (.ok y) := fun h => nomatch h

/-- One issue is a reason. -/
theorem explained_issue (issue : Issue) : Explained (.error [issue]) := fun h => nomatch h

theorem explained_accepted (value : Json) (issues : List Issue) :
    Explained (accepted value issues) :=
  accepted_ne_error_nil value issues

/-- An explained answer is a value, or issues of which there is a first. -/
theorem Explained.cases {parsed : Parsed} (h : Explained parsed) :
    (∃ y, parsed = .ok y) ∨ ∃ first rest, parsed = .error (first :: rest) := by
  cases parsed with
  | ok y => exact .inl ⟨y, rfl⟩
  | error issues =>
      cases issues with
      | nil => exact absurd rfl h
      | cons first rest => exact .inr ⟨first, rest, rfl⟩

end

-- =========================================================== the walk

section

variable {σ : Type} {absent : Deferred → StateM σ Bool}
variable {enter : Deferred → Json → Location → StateM σ Parsed}

/-- Where the alternatives run out there is an issue that says so. -/
theorem explained_parseVariants (variants : List Validator) :
    ∀ tried reasons value location,
      Always Explained (parseVariants absent enter variants tried reasons value location) := by
  induction variants with
  | nil =>
      intro tried reasons value location
      exact .pure (explained_issue _)
  | cons v rest ih =>
      intro tried reasons value location
      refine .after fun found => ?_
      cases found with
      | ok parsed => exact .pure (explained_ok parsed)
      | error issues => exact ih _ _ _ _

/-- A walk is explained if the answers for deferred references are. -/
theorem explained_parseWith
    (henter : ∀ d value location, Always Explained (enter d value location)) (v : Validator) :
    ∀ value location, Always Explained (parseWith absent enter v value location) := by
  induction v using part_induction with
  | step v ih =>
      intro value location
      cases faces v value with
      | any | null | boolean | optionalNull => exact .pure (explained_ok _)
      | string | number => exact .pure (explained_accepted _ _)
      | literal | stringEnum =>
          rw [parseWith]
          split
          · exact .pure (explained_ok _)
          · exact .pure (explained_issue _)
      | array => exact .after fun found => .pure (explained_accepted _ _)
      | object => exact .after fun declared => .after fun others => .pure (explained_accepted _ _)
      | union variants => exact explained_parseVariants variants 0 [] value location
      | optional inner hvalue =>
          -- wrappers ask what is within, which is a part
          rw [parseWith_optional_of_ne hvalue]
          exact ih inner .inner value location
      | shared number target => exact ih target .target value location
      | deferred d => exact henter d value location
      | mistyped expected h =>
          rw [h.parseWith_eq]
          exact .pure (explained_issue _)

end

/-- What a deferred reference makes of a value is explained, also where it stands for
nothing and where the walk is cut off. -/
theorem explained_parse {σ : Type} (lookup : Lookup σ) (d : Deferred) (value : Json)
    (location : Location) : Always Explained (Deferred.parse lookup d value location) := by
  rw [Deferred.parse]
  refine .after fun target => ?_
  cases target with
  | error reason => exact .pure (explained_issue _)
  | ok t =>
      -- a reference is entered within the bounds, or the walk ends with an issue
      refine explained_parseWith (fun e inner place => ?_) t value location
      split
      · exact explained_parse lookup e inner place
      · exact .pure (explained_issue _)
termination_by (value.height, d.visited.nestedCount)
decreasing_by
  rename_i hless
  rcases hless with hless | ⟨heq, hless⟩
  · exact Prod.Lex.left _ _ hless
  · rw [heq]
    exact Prod.Lex.right _ hless

/-- So every answer is explained, in whatever state the question is asked. -/
theorem explained_parseBy {σ : Type} (lookup : Lookup σ) (v : Validator) (value : Json)
    (location : Location) : Always Explained (v.parseBy lookup value location) :=
  explained_parseWith (explained_parse lookup) v value location

/-- A failure has an issue. -/
theorem failures_parseOptionalBy {σ : Type} (lookup : Lookup σ) (v : Validator)
    (data : Option Json) :
    Always (fun parsed => ∀ failure, parsed = .error failure → failure.issues ≠ [])
      (v.parseOptionalBy lookup data) := by
  cases data with
  | none =>
      refine .after fun accepts => ?_
      cases accepts with
      | true => exact .pure fun _ h => nomatch h
      | false =>
          refine .pure fun failure h => ?_
          cases h
          exact List.cons_ne_nil _ _
  | some value =>
      refine .bind (explained_parseBy lookup v value []) fun parsed hparsed => ?_
      cases parsed with
      | ok y => exact .pure fun _ h => nomatch h
      | error issues =>
          refine .pure fun failure h => ?_
          cases h
          exact fun hnil => hparsed (congrArg Except.error hnil)

end Validator

end Conformance
