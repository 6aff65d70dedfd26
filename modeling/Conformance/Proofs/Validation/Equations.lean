/-
What validators make of data, without a state.

Asked on its own, a validator keeps nothing from one question to the next, so
its answers are plain functions: `parseAt` for values and `acceptsAbsent` for
their absence. This file says what they are, one equation for each kind of
node. Lists are walked by `map`, `flatMap` and `findSome?` here, and deferred
references are passed on without a guard.
-/
import Conformance.Proofs.Validation.Explained
import Conformance.Proofs.Validation.Termination

namespace Conformance

-- =============================================================== answers

/-- The answer of a computation with nothing to remember. -/
def answer {α : Type} (step : StateM Unit α) : α := (step.run ()).1

@[simp] theorem answer_pure {α : Type} (a : α) : answer (pure a) = a := rfl

/-- Without a state the steps of a computation are the arguments of functions. -/
@[simp] theorem answer_bind {α β : Type} (step : StateM Unit α) (f : α → StateM Unit β) :
    answer (step >>= f) = answer (f (answer step)) := rfl

@[simp] theorem answer_ite {α : Type} (c : Prop) [Decidable c] (a b : StateM Unit α) :
    answer (if c then a else b) = if c then answer a else answer b := by
  split <;> rfl

/-- The issues of what parsing yields. -/
def Parsed.issues : Parsed → List Issue
  | .ok _ => []
  | .error issues => issues

namespace Validator

/-- What a validator makes of the value at a location. -/
def parseAt (v : Validator) (value : Json) (location : Location) : Parsed :=
  answer (v.parseBy Deferred.direct value location)

/-- In this form the questions about parts stand in the definitions below. -/
theorem answer_absentWith (v : Validator) :
    answer (absentWith (Deferred.absent Deferred.direct) v) = v.acceptsAbsent := rfl

theorem answer_parseWith (v : Validator) (value : Json) (location : Location) :
    answer (parseWith (Deferred.absent Deferred.direct) (Deferred.parse Deferred.direct) v
      value location) = v.parseAt value location := rfl

-- ============================================================== absence

section

variable {d : Deferred} {t : Validator}

@[simp] theorem acceptsAbsent_any : any.acceptsAbsent = true := rfl

/-- Nothing is asked of what is within, so that absence is accepted even where the
schema within would reject everything. -/
@[simp] theorem acceptsAbsent_optional (inner : Validator) :
    (optional inner).acceptsAbsent = true := rfl

@[simp] theorem acceptsAbsent_shared (number : Nat) (target : Validator) :
    (shared number target).acceptsAbsent = target.acceptsAbsent := rfl

/-- One alternative that accepts absence is enough. -/
@[simp] theorem acceptsAbsent_union (variants : List Validator) :
    (union variants).acceptsAbsent = variants.any acceptsAbsent := by
  show answer (someAbsentWith (Deferred.absent Deferred.direct) variants) = _
  induction variants with
  | nil => rfl
  | cons v rest ih =>
      rw [someAbsentWith, answer_bind, answer_absentWith, answer_ite, ih, List.any_cons]
      cases v.acceptsAbsent <;> rfl

/-- A deferred reference answers for absence as its target does, and without a target it
rejects it. -/
theorem acceptsAbsent_deferred (h : d.target = .ok t) :
    (deferred d).acceptsAbsent = t.acceptsAbsent := by
  show answer (Deferred.absent Deferred.direct d) = _
  rw [Deferred.unguarded_direct.absent_eq, h]
  rfl

theorem acceptsAbsent_deferred_error {reason : String} (h : d.target = .error reason) :
    (deferred d).acceptsAbsent = false := by
  show answer (Deferred.absent Deferred.direct d) = _
  rw [Deferred.unguarded_direct.absent_eq, h]
  rfl

end

-- =============================================================== leaves

section

variable (value : Json) (location : Location)

@[simp] theorem parseAt_any : any.parseAt value location = .ok value := rfl

/-- Nodes of a single type return the value or name the type that they expect. -/
theorem parseAt_null :
    null.parseAt value location = match value with
      | .null => .ok .null
      | other => .error [.wrongType "null" other location] := by
  cases value <;> rfl

theorem parseAt_boolean :
    boolean.parseAt value location = match value with
      | .bool b => .ok (.bool b)
      | other => .error [.wrongType "boolean" other location] := by
  cases value <;> rfl

/-- A string is returned as it is, with whatever issues the rules have. -/
theorem parseAt_string (rules : StringRules) :
    (string rules).parseAt value location = match value with
      | .string s => accepted (.string s) (rules.check s location)
      | other => .error [.wrongType "string" other location] := by
  cases value <;> rfl

/-- A number too. Values of other types are told that an integer was expected if the
rules ask for one. -/
theorem parseAt_number (rules : NumberRules) :
    (number rules).parseAt value location = match value with
      | .number n => accepted (.number n) (rules.check n location)
      | other =>
        .error [.wrongType (if rules.integer then "integer" else "number") other location] := by
  cases value <;> rfl

/-- Literals are compared as JSON, regardless of the order of members, and it is the
value that is returned and not the literal. -/
theorem parseAt_literal (expected : Json) :
    (literal expected).parseAt value location =
      if value.same expected then .ok value
      else .error [.about location (.literalMismatch expected)
        ("expected literal " ++ expected.compact ++ ", got " ++ value.compact)] := by
  show answer (parseWith _ _ (literal expected) value location) = _
  rw [parseWith, answer_ite]
  rfl

/-- The texts of an enumeration are compared as they stand. -/
theorem parseAt_stringEnum (allowed : List String) :
    (stringEnum allowed).parseAt value location = match value with
      | .string s =>
        if allowed.contains s then .ok (.string s)
        else .error [.about location (.notInEnum allowed)
          ("value " ++ Text.quoted s ++ " is not one of " ++ Text.quotedList allowed)]
      | other => .error [.wrongType "string" other location] := by
  cases value with
  | string s =>
      show answer (parseWith _ _ (stringEnum allowed) (.string s) location) = _
      rw [parseWith, answer_ite]
      rfl
  | _ => rfl

end

/-- A value of the wrong type has that for its only issue. -/
theorem Mistyped.parseAt_eq {v : Validator} {value : Json} {expected : PrimitiveType}
    (h : v.Mistyped value expected) (location : Location) :
    v.parseAt value location = .error [.wrongType expected.name value location] := by
  rw [← answer_parseWith, h.parseWith_eq]
  rfl

-- =============================================================== arrays

/-- What becomes of the items of an array, the first of which has a number. -/
def parsedItems (items : Validator) (values : List Json) (location : Location) (i : Nat) :
    List Parsed :=
  (values.zipIdx i).map fun e => items.parseAt e.1 (location.item e.2)

/-- Items are walked from the first to the last, each at its own place. The issues of
all are gathered, and the values of those that have none. -/
theorem answer_parseItems (items : Validator) (values : List Json) (location : Location)
    (i : Nat) :
    answer (parseItems (parseWith (Deferred.absent Deferred.direct)
        (Deferred.parse Deferred.direct) items) location i values)
      = ((parsedItems items values location i).flatMap Parsed.issues,
        (parsedItems items values location i).filterMap Except.toOption) := by
  induction values generalizing i with
  | nil => rfl
  | cons x rest ih =>
      have htail : parsedItems items (x :: rest) location i
          = items.parseAt x (location.item i) :: parsedItems items rest location (i + 1) := rfl
      rw [parseItems, answer_bind, answer_parseWith, answer_bind, ih, htail]
      cases items.parseAt x (location.item i) <;> rfl

/-- The issues about the length come before those of the items. -/
theorem parseAt_array (items : Validator) (bounds : ItemBounds) (value : Json)
    (location : Location) :
    (array items bounds).parseAt value location = match value with
      | .array values =>
        accepted (.array ((parsedItems items values location 0).filterMap Except.toOption))
          (bounds.check values.length location ++
            (parsedItems items values location 0).flatMap Parsed.issues)
      | other => .error [.wrongType "array" other location] := by
  cases value with
  | array values =>
      show answer (parseWith _ _ (array items bounds) (.array values) location) = _
      rw [parseWith, answer_bind, answer_parseItems]
      rfl
  | _ => rfl

-- ============================================================== objects

/-- What becomes of a declared property: its issues, and the member it leaves. -/
def parsedProperty (members : Members) (location : Location) (p : Property Validator) :
    List Issue × List (String × Json) :=
  match members.get? p.name with
  | some x =>
    match p.validator.parseAt x (location.member p.name) with
    | .ok y => ([], [(p.name, y)])
    | .error issues => (issues, [])
  | none =>
    if p.required && !p.validator.acceptsAbsent then ([missingMember location p.name], [])
    else ([], [])

/-- What becomes of members that are not declared. -/
def parsedOthers (additional : Additional Validator) (others : Members) (location : Location) :
    List Issue × List (String × Json) :=
  match additional with
  | .ignore => ([], [])
  | .reject => (others.map fun m => unknownMember location m.1, [])
  | .schema catchAll =>
    (others.flatMap fun m => (catchAll.parseAt m.2 (location.member m.1)).issues,
      others.filterMap fun m =>
        (catchAll.parseAt m.2 (location.member m.1)).toOption.map fun y => (m.1, y))

/-- Properties are walked in the order in which they are declared, whatever the order of
the members is. One that is missing leaves an issue if it is required and its validator
does not accept absence. -/
theorem answer_parseProperties (members : Members) (location : Location)
    (properties : List (Property Validator)) :
    answer (parseProperties (Deferred.absent Deferred.direct) (Deferred.parse Deferred.direct)
        properties members location)
      = (properties.flatMap fun p => (parsedProperty members location p).1,
        properties.flatMap fun p => (parsedProperty members location p).2) := by
  induction properties with
  | nil => rfl
  | cons p rest ih =>
      obtain ⟨name, required, v⟩ := p
      rw [parseProperties, List.flatMap_cons, List.flatMap_cons, parsedProperty]
      cases members.get? name with
      | some x =>
          -- a member of that name is there and is walked
          rw [answer_bind, answer_parseWith]
          cases hv : v.parseAt x (location.member name) with
          | ok y => simp only [hv, answer_bind, answer_pure, ih]
          | error issues => simp only [hv, answer_bind, answer_pure, ih]
      | none =>
          -- there is none, which counts only where it is required
          cases required with
          | false =>
              simp only [answer_ite, answer_bind, answer_pure, ih]
              rfl
          | true =>
              rw [if_pos rfl, answer_bind, answer_absentWith, answer_ite]
              simp only [answer_bind, answer_pure, ih]
              cases v.acceptsAbsent <;> rfl

/-- The members that no property declares are walked in the order in which they stand. -/
theorem answer_parseMembers (catchAll : Validator) (others : Members) (location : Location) :
    answer (parseMembers (parseWith (Deferred.absent Deferred.direct)
        (Deferred.parse Deferred.direct) catchAll) location others)
      = parsedOthers (.schema catchAll) others location := by
  induction others with
  | nil => rfl
  | cons m rest ih =>
      rw [parseMembers, answer_bind, answer_parseWith, answer_bind, ih]
      simp only [parsedOthers, List.flatMap_cons, List.filterMap_cons]
      cases catchAll.parseAt m.2 (location.member m.1) <;> rfl

/-- What they come to depends on whether they are dropped, rejected or walked. -/
theorem answer_parseOthers (additional : Additional Validator) (others : Members)
    (location : Location) :
    answer (parseOthers (Deferred.absent Deferred.direct) (Deferred.parse Deferred.direct)
        additional others location)
      = parsedOthers additional others location := by
  cases additional with
  | ignore => rfl
  | reject => rfl
  | schema catchAll => exact answer_parseMembers catchAll others location

/-- The members that are not declared. -/
def undeclared (properties : List (Property Validator)) (members : Members) : Members :=
  members.filter fun m => !properties.any (·.name == m.1)

/-- Declared members come first in what is returned, undeclared ones behind them, and
their issues likewise. -/
theorem parseAt_object (properties : List (Property Validator))
    (additional : Additional Validator) (value : Json) (location : Location) :
    (object properties additional).parseAt value location = match value with
      | .object members =>
        accepted
          (.object (Members.ofList
            ((properties.flatMap fun p => (parsedProperty members location p).2) ++
              (parsedOthers additional (undeclared properties members) location).2)))
          ((properties.flatMap fun p => (parsedProperty members location p).1) ++
            (parsedOthers additional (undeclared properties members) location).1)
      | other => .error [.wrongType "object" other location] := by
  cases value with
  | object members =>
      show answer (parseWith _ _ (object properties additional) (.object members) location) = _
      rw [parseWith, answer_bind, answer_parseProperties, answer_bind, answer_parseOthers]
      rfl
  | _ => rfl

-- ========================================================= alternatives

/-- The first reason of each alternative, under its number. -/
def reasons (variants : List Validator) (value : Json) (location : Location) (i : Nat) :
    List String :=
  (variants.zipIdx i).flatMap fun e =>
    ((e.1.parseAt value location).issues.head?.map
      fun first => s!"variant {e.2}: " ++ first.message).toList

/-- What the first alternative that accepts a value makes of it. -/
def firstParsed? (variants : List Validator) (value : Json) (location : Location) : Option Json :=
  variants.findSome? fun v => (v.parseAt value location).toOption

/-- The first alternative that accepts the value ends the walk. Until then the summaries
are gathered, and the count of those that have been tried. -/
theorem answer_parseVariants (variants : List Validator) (value : Json) (location : Location)
    (tried : Nat) (earlier : List String) :
    answer (parseVariants (Deferred.absent Deferred.direct) (Deferred.parse Deferred.direct)
        variants tried earlier value location)
      = match firstParsed? variants value location with
        | some y => .ok y
        | none => .error [.noVariant (tried + variants.length)
            (earlier ++ reasons variants value location tried) location] := by
  induction variants generalizing tried earlier with
  | nil =>
      show Except.error [Issue.noVariant tried earlier location] = _
      rw [reasons]
      simp [firstParsed?]
  | cons v rest ih =>
      rw [parseVariants, answer_bind, answer_parseWith, firstParsed?, List.findSome?_cons]
      cases hv : v.parseAt value location with
      | ok y => rfl
      | error issues =>
          -- the reason of this alternative moves over to those of the earlier ones
          have hreasons : reasons (v :: rest) value location tried
              = (issues.head?.map fun first => s!"variant {tried}: " ++ first.message).toList
                ++ reasons rest value location (tried + 1) := by
            simp only [reasons, List.zipIdx_cons, List.flatMap_cons, hv, Parsed.issues]
          rw [hreasons, ← List.append_assoc, List.length_cons,
            show tried + (rest.length + 1) = tried + 1 + rest.length by omega]
          exact ih (tried + 1) _

/-- So a union yields what its first accepting alternative yields, or one issue in which
all of them are summed up. -/
theorem parseAt_union (variants : List Validator) (value : Json) (location : Location) :
    (union variants).parseAt value location = match firstParsed? variants value location with
      | some y => .ok y
      | none => .error [.noVariant variants.length (reasons variants value location 0)
          location] := by
  show answer (parseWith _ _ (union variants) value location) = _
  rw [parseWith, answer_parseVariants, Nat.zero_add, List.nil_append]

-- ============================================================= wrappers

section

variable (value : Json) (location : Location)

/-- The case of null is decided before what is within is asked at all. -/
theorem parseAt_optional (inner : Validator) :
    (optional inner).parseAt value location = match value with
      | .null => .ok .null
      | other => inner.parseAt other location := by
  cases value <;> rfl

theorem parseAt_optional_of_ne {value : Json} (h : value ≠ .null) (location : Location)
    (inner : Validator) :
    (optional inner).parseAt value location = inner.parseAt value location := by
  cases value with
  | null => exact absurd rfl h
  | _ => rfl

@[simp] theorem parseAt_shared (number : Nat) (target : Validator) :
    (shared number target).parseAt value location = target.parseAt value location := rfl

/-- A deferred reference yields what its target does at the same location. -/
theorem parseAt_deferred {d : Deferred} {t : Validator} (h : d.target = .ok t) :
    (deferred d).parseAt value location = t.parseAt value location := by
  show answer (Deferred.parse Deferred.direct d value location) = _
  rw [Deferred.unguarded_direct.parse_eq, h]
  rfl

/-- Without a target it has a single issue, which says why there is none. -/
theorem parseAt_deferred_error {d : Deferred} {reason : String} (h : d.target = .error reason) :
    (deferred d).parseAt value location = .error [.unresolved d.reference reason location] := by
  show answer (Deferred.parse Deferred.direct d value location) = _
  rw [Deferred.unguarded_direct.parse_eq, h]
  rfl

end

-- ============================================================ questions

/-- To parse is to ask about the value at the root. -/
theorem parse_eq (v : Validator) (value : Json) :
    v.parse value = (v.parseAt value []).mapError Failure.mk := by
  show (match v.parseAt value [] with
    | .ok parsed => Except.ok parsed
    | .error issues => .error (Failure.mk issues)) = _
  cases v.parseAt value [] <;> rfl

/-- A failure has the issues found there and no others. -/
theorem parse_eq_error {v : Validator} {value : Json} {failure : Failure} :
    v.parse value = .error failure ↔ v.parseAt value [] = .error failure.issues := by
  rw [parse_eq]
  cases v.parseAt value [] with
  | ok y => exact ⟨fun h => (nomatch h), fun h => nomatch h⟩
  | error issues =>
      constructor
      · intro h
        rw [← Except.error.inj h]
      · intro h
        rw [Except.error.inj h]
        rfl

/-- In the form in which it is used most. -/
theorem mem_issues_of_parse {v : Validator} {value : Json} {failure : Failure} {issue : Issue}
    (h : v.parse value = .error failure) (hissue : issue ∈ failure.issues) :
    issue ∈ (v.parseAt value []).issues := by
  rw [parse_eq_error.mp h]
  exact hissue

/-- To check is to parse and look at no more than whether that succeeds. -/
theorem check_eq (v : Validator) (value : Json) : v.check value = (v.parseAt value []).isOk := by
  rw [check, parse_eq]
  cases v.parseAt value [] <;> rfl

/-- An optional value that is given is parsed like any other. -/
theorem parseOptional_some (v : Validator) (value : Json) :
    v.parseOptional (some value) = (v.parse value).map some := by
  rw [parse_eq]
  show answer (match v.parseAt value [] with
    | .ok parsed => pure (Except.ok (some parsed))
    | .error issues => pure (Except.error (Failure.mk issues))) = _
  cases v.parseAt value [] <;> rfl

/-- One that is not given is either accepted and stays away, or is missing at the root. -/
theorem parseOptional_none (v : Validator) :
    v.parseOptional none = if v.acceptsAbsent then .ok none
      else .error ⟨[.about [] .missing "value is required"]⟩ :=
  answer_ite ..

-- ================================================= places of alternatives

/-- Places are counted from the one given, so that the induction can go on with the
next. -/
theorem answer_firstVariant (value : Json) (variants : List Validator) (place : Nat) :
    answer (firstVariant (fun v x => v.parseBy Deferred.direct x []) value variants place)
      = (variants.findIdx? fun v => v.check value).map (· + place) := by
  induction variants generalizing place with
  | nil => rfl
  | cons v rest ih =>
      rw [firstVariant, answer_bind, List.findIdx?_cons, check_eq]
      show answer (match v.parseAt value [] with
        | .ok _ => pure (some place)
        | .error _ => firstVariant _ value rest (place + 1)) = _
      cases v.parseAt value [] with
      | ok y => exact congrArg some (Nat.zero_add place).symm
      | error issues =>
          show answer (firstVariant _ value rest (place + 1)) = Option.map _ (Option.map _ _)
          rw [ih, Option.map_map]
          -- the rest counts from one place further on
          refine congrArg (Option.map · _) (funext fun i => ?_)
          show i + (place + 1) = i + 1 + place
          omega

section

variable (value : Json)

/-- The alternative that is found is the first that accepts the value. -/
theorem matchedVariant_union (variants : List Validator) :
    (union variants).matchedVariant value = variants.findIdx? fun v => v.check value := by
  show answer (firstVariant _ value variants 0) = _
  rw [answer_firstVariant]
  exact Option.map_id'

/-- Wrappers pass the question on, except for null at an optional node. -/
theorem matchedVariant_optional_of_ne {value : Json} (h : value ≠ .null) (inner : Validator) :
    (optional inner).matchedVariant value = inner.matchedVariant value := by
  cases value with
  | null => exact absurd rfl h
  | _ => rfl

@[simp] theorem matchedVariant_shared (number : Nat) (target : Validator) :
    (shared number target).matchedVariant value = target.matchedVariant value := rfl

theorem matchedVariant_deferred {d : Deferred} {t : Validator} (h : d.target = .ok t) :
    (deferred d).matchedVariant value = t.matchedVariant value := by
  show answer (Deferred.variant Deferred.direct d value) = _
  rw [Deferred.unguarded_direct.variant_eq, h]
  rfl

/-- Where nothing has been found there is no alternative either. -/
theorem matchedVariant_deferred_error {d : Deferred} {reason : String}
    (h : d.target = .error reason) : (deferred d).matchedVariant value = none := by
  show answer (Deferred.variant Deferred.direct d value) = _
  rw [Deferred.unguarded_direct.variant_eq, h]
  rfl

end

-- =============================================================== issues

/-- A value is accepted just if there are no issues, and nothing of them is lost
otherwise. -/
@[simp] theorem issues_accepted (value : Json) (issues : List Issue) :
    (accepted value issues).issues = issues := by
  unfold accepted
  cases issues <;> rfl

/-- Who rejects a value says why. -/
theorem parseAt_ne_error_nil (v : Validator) (value : Json) :
    ∀ location, v.parseAt value location ≠ .error [] := by
  intro location
  exact explained_parseBy Deferred.direct v value location ()

/-- A value is accepted just if there are no issues. -/
theorem isOk_iff_issues_eq_nil {v : Validator} {value : Json} {location : Location} :
    (v.parseAt value location).isOk = true ↔ (v.parseAt value location).issues = [] := by
  cases h : v.parseAt value location with
  | ok y => exact ⟨fun _ => rfl, fun _ => rfl⟩
  | error issues =>
      constructor
      · intro h
        cases h
      · intro hnil
        cases (show issues = [] from hnil)
        exact absurd h (parseAt_ne_error_nil v value location)

/-- The issues of an array are those of its length and of its items. -/
theorem mem_issues_array {items : Validator} {bounds : ItemBounds} {values : List Json}
    {location : Location} {issue : Issue} :
    issue ∈ ((array items bounds).parseAt (.array values) location).issues ↔
      issue ∈ bounds.check values.length location ∨
        ∃ e ∈ values.zipIdx, issue ∈ (items.parseAt e.1 (location.item e.2)).issues := by
  rw [parseAt_array]
  simp only [issues_accepted, List.mem_append, parsedItems, List.mem_flatMap, List.mem_map]
  constructor
  · intro h
    rcases h with h | ⟨_, ⟨e, he, rfl⟩, h⟩
    · exact .inl h
    · exact .inr ⟨e, he, h⟩
  · intro h
    rcases h with h | ⟨e, he, h⟩
    · exact .inl h
    · exact .inr ⟨_, ⟨e, he, rfl⟩, h⟩

/-- The issues of a declared property are those of its value, or that there is
none. -/
theorem mem_issues_parsedProperty {members : Members} {location : Location}
    {p : Property Validator} {issue : Issue} :
    issue ∈ (parsedProperty members location p).1 ↔
      (∃ x, members.get? p.name = some x ∧
        issue ∈ (p.validator.parseAt x (location.member p.name)).issues) ∨
      (members.get? p.name = none ∧ p.required = true ∧ p.validator.acceptsAbsent = false ∧
        issue = missingMember location p.name) := by
  unfold parsedProperty
  cases hfound : members.get? p.name with
  | some x =>
      simp only [Option.some.injEq, exists_eq_left', reduceCtorEq, false_and, or_false]
      cases p.validator.parseAt x (location.member p.name) <;> exact Iff.rfl
  | none =>
      simp only [reduceCtorEq, false_and, exists_false, false_or, true_and]
      cases p.required <;> cases p.validator.acceptsAbsent <;> simp

/-- The issues of an object are those of its declared properties and of its other
members. -/
theorem mem_issues_object {properties : List (Property Validator)}
    {additional : Additional Validator} {members : Members} {location : Location}
    {issue : Issue} :
    issue ∈ ((object properties additional).parseAt (.object members) location).issues ↔
      (∃ p ∈ properties, issue ∈ (parsedProperty members location p).1) ∨
        issue ∈ (parsedOthers additional (undeclared properties members) location).1 := by
  rw [parseAt_object]
  simp only [issues_accepted, List.mem_append, List.mem_flatMap]

end Validator

end Conformance
