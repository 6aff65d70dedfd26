/-
What rules ask for, apart from how they report it.

`Breaks` says which rules a string, a number or an array breaks, each named by
the kind of issue that reports it. A check reports just the kinds that are
broken, so it reports nothing just if none is.
-/
import Conformance.Rules

namespace Conformance

section

/-! A check is a list of optional issues, one for each rule that is set. -/

variable {α : Type} {rule : Option α} {report : α → Issue} {issue : Issue}

/-- A rule that is set reports where its condition is met. -/
theorem bind_some_iff {c : α → Prop} [DecidablePred c] :
    (rule.bind fun a => if c a then some (report a) else none) = some issue ↔
      ∃ a, rule = some a ∧ c a ∧ report a = issue := by
  cases rule <;> simp

/-- A rule of the other kind reports where its condition is not met. -/
theorem bind_none_iff {c : α → Prop} [DecidablePred c] :
    (rule.bind fun a => if c a then none else some (report a)) = some issue ↔
      ∃ a, rule = some a ∧ ¬ c a ∧ report a = issue := by
  cases rule <;> simp

/-- The reports of several rules are gathered in their order. -/
theorem mem_filterMap_id {reports : List (Option Issue)} :
    issue ∈ reports.filterMap id ↔ some issue ∈ reports := by
  simp

/-- If it is known which kinds of issue there are, it is known when there is none. -/
theorem eq_nil_iff_of_kinds {issues : List Issue} {breaks : IssueKind → Prop}
    (h : ∀ kind, (∃ issue ∈ issues, issue.kind = kind) ↔ breaks kind) :
    issues = [] ↔ ∀ kind, ¬ breaks kind := by
  rw [List.eq_nil_iff_forall_not_mem]
  constructor
  · intro hnone kind hbreaks
    obtain ⟨issue, hissue, -⟩ := (h kind).mpr hbreaks
    exact hnone issue hissue
  · intro hnone issue hissue
    exact hnone issue.kind ((h _).mp ⟨issue, hissue, rfl⟩)

end

-- ============================================================== strings

namespace StringRules

variable {rules : StringRules} {s : String} {location : Location}

/-- The rules that a string breaks. -/
inductive Breaks (rules : StringRules) (s : String) : IssueKind → Prop
  | tooShort {least : Nat} (h : rules.minLength = some least) (hs : s.length < least) :
      Breaks rules s (.tooShort least)
  | tooLong {most : Nat} (h : rules.maxLength = some most) (hs : most < s.length) :
      Breaks rules s (.tooLong most)
  | patternMismatch {pattern : Pattern} (h : rules.pattern = some pattern)
      (hs : ¬ pattern.occursIn s = true) : Breaks rules s (.patternMismatch pattern.source)
  | invalidFormat {format : StringFormat} (h : rules.format = some format)
      (hs : ¬ format.accepts s = true) : Breaks rules s (.invalidFormat format.name)

/-- An issue of a check is about the string itself, and names a rule that it breaks. -/
theorem exists_breaks_of_mem_check {issue : Issue} (h : issue ∈ rules.check s location) :
    ∃ kind message, rules.Breaks s kind ∧ Issue.about location kind message = issue := by
  simp only [check, mem_filterMap_id, List.mem_cons, List.not_mem_nil, or_false,
    eq_comm (a := some _), bind_some_iff, bind_none_iff] at h
  rcases h with ⟨_, h, hs, rfl⟩ | ⟨_, h, hs, rfl⟩ | ⟨_, h, hs, rfl⟩ | ⟨_, h, hs, rfl⟩
  · exact ⟨_, _, .tooShort h hs, rfl⟩
  · exact ⟨_, _, .tooLong h hs, rfl⟩
  · exact ⟨_, _, .patternMismatch h hs, rfl⟩
  · exact ⟨_, _, .invalidFormat h hs, rfl⟩

/-- The issues of a string are of the kinds of the rules that it breaks. -/
theorem kinds_check (kind : IssueKind) :
    (∃ issue ∈ rules.check s location, issue.kind = kind) ↔ rules.Breaks s kind := by
  constructor
  · intro h
    obtain ⟨issue, h, rfl⟩ := h
    obtain ⟨kind, _, hbreaks, rfl⟩ := exists_breaks_of_mem_check h
    exact hbreaks
  · intro h
    simp only [check, mem_filterMap_id, List.mem_cons, List.not_mem_nil, or_false,
      eq_comm (a := some _), bind_some_iff, bind_none_iff]
    cases h with
    | tooShort h hs => exact ⟨_, .inl ⟨_, h, hs, rfl⟩, rfl⟩
    | tooLong h hs => exact ⟨_, .inr (.inl ⟨_, h, hs, rfl⟩), rfl⟩
    | patternMismatch h hs => exact ⟨_, .inr (.inr (.inl ⟨_, h, hs, rfl⟩)), rfl⟩
    | invalidFormat h hs => exact ⟨_, .inr (.inr (.inr ⟨_, h, hs, rfl⟩)), rfl⟩

/-- The rules allow a string that breaks none of them. -/
def Allows (rules : StringRules) (s : String) : Prop := ∀ kind, ¬ rules.Breaks s kind

/-- A string has no issues just if the rules allow it. -/
theorem check_eq_nil_iff : rules.check s location = [] ↔ rules.Allows s :=
  eq_nil_iff_of_kinds kinds_check

end StringRules

-- ============================================================== numbers

namespace NumberRules

variable {rules : NumberRules} {n : Number} {location : Location}

/-- The limit that the rules set for a bound. -/
def limit? (rules : NumberRules) : Bound → Option Number
  | .minimum => rules.minimum
  | .exclusiveMinimum => rules.exclusiveMinimum
  | .maximum => rules.maximum
  | .exclusiveMaximum => rules.exclusiveMaximum

/-- The rules that a number breaks. -/
inductive Breaks (rules : NumberRules) (n : Number) : IssueKind → Prop
  | notInteger (h : rules.integer = true) (hn : n.isWhole = false) : Breaks rules n .notInteger
  | outOfRange {bound : Bound} {limit : Number} (h : rules.limit? bound = some limit)
      (hn : ¬ bound.keeps (n.compare limit) = true) :
      Breaks rules n (.outOfRange bound.keyword (.number limit))
  | notMultipleOf {step : Number} (h : rules.multipleOf = some step)
      (hn : ¬ n.isMultipleOf step = true) : Breaks rules n (.notMultipleOf (.number step))

theorem mem_check {issue : Issue} :
    issue ∈ rules.check n location ↔
      (rules.integer = true ∧ n.isWhole = false ∧
        Issue.about location .notInteger ("expected an integer, got " ++ n.text) = issue) ∨
      (∃ bound : Bound, bound.check (rules.limit? bound) n location = some issue) ∨
      ∃ step, rules.multipleOf = some step ∧ ¬ n.isMultipleOf step = true ∧
        Issue.about location (.notMultipleOf (.number step))
          ("value " ++ n.text ++ " is not a multiple of " ++ step.text) = issue := by
  -- the four bounds are checked one after the other
  have hbounds : (∃ bound : Bound, bound.check (rules.limit? bound) n location = some issue) ↔
      Bound.minimum.check rules.minimum n location = some issue ∨
        Bound.exclusiveMinimum.check rules.exclusiveMinimum n location = some issue ∨
        Bound.maximum.check rules.maximum n location = some issue ∨
        Bound.exclusiveMaximum.check rules.exclusiveMaximum n location = some issue := by
    constructor
    · intro h
      obtain ⟨bound, h⟩ := h
      cases bound with
      | minimum => exact .inl h
      | exclusiveMinimum => exact .inr (.inl h)
      | maximum => exact .inr (.inr (.inl h))
      | exclusiveMaximum => exact .inr (.inr (.inr h))
    · intro h
      rcases h with h | h | h | h
      · exact ⟨.minimum, h⟩
      · exact ⟨.exclusiveMinimum, h⟩
      · exact ⟨.maximum, h⟩
      · exact ⟨.exclusiveMaximum, h⟩
  rw [hbounds]
  simp only [check, mem_filterMap_id, List.mem_cons, List.not_mem_nil, or_false,
    eq_comm (a := some _), bind_none_iff, or_assoc]
  simp only [Option.ite_none_right_eq_some, Bool.and_eq_true, Bool.not_eq_true',
    Option.some.injEq, and_assoc]

/-- An issue of a check is about the number itself, and names a rule that it breaks. -/
theorem exists_breaks_of_mem_check {issue : Issue} (h : issue ∈ rules.check n location) :
    ∃ kind message, rules.Breaks n kind ∧ Issue.about location kind message = issue := by
  rcases mem_check.mp h with ⟨hinteger, hn, rfl⟩ | ⟨bound, h⟩ | ⟨step, hstep, hn, rfl⟩
  · exact ⟨_, _, .notInteger hinteger hn, rfl⟩
  · obtain ⟨limit, hlimit, hn, rfl⟩ := bind_none_iff.mp h
    exact ⟨_, _, .outOfRange hlimit hn, rfl⟩
  · exact ⟨_, _, .notMultipleOf hstep hn, rfl⟩

/-- The issues of a number are of the kinds of the rules that it breaks. -/
theorem kinds_check (kind : IssueKind) :
    (∃ issue ∈ rules.check n location, issue.kind = kind) ↔ rules.Breaks n kind := by
  constructor
  · intro h
    obtain ⟨issue, h, rfl⟩ := h
    obtain ⟨kind, _, hbreaks, rfl⟩ := exists_breaks_of_mem_check h
    exact hbreaks
  · intro h
    simp only [mem_check]
    cases h with
    | notInteger h hn => exact ⟨_, .inl ⟨h, hn, rfl⟩, rfl⟩
    | @outOfRange bound _ h hn =>
        exact ⟨_, .inr (.inl ⟨bound, bind_none_iff.mpr ⟨_, h, hn, rfl⟩⟩), rfl⟩
    | notMultipleOf h hn => exact ⟨_, .inr (.inr ⟨_, h, hn, rfl⟩), rfl⟩

/-- The rules allow a number that breaks none of them. -/
def Allows (rules : NumberRules) (n : Number) : Prop := ∀ kind, ¬ rules.Breaks n kind

/-- A number has no issues just if the rules allow it. -/
theorem check_eq_nil_iff : rules.check n location = [] ↔ rules.Allows n :=
  eq_nil_iff_of_kinds kinds_check

end NumberRules

-- =============================================================== arrays

namespace ItemBounds

variable {bounds : ItemBounds} {length : Nat} {location : Location}

/-- The bounds that an array of the given length breaks. -/
inductive Breaks (bounds : ItemBounds) (length : Nat) : IssueKind → Prop
  | tooFewItems {least : Nat} (h : bounds.minItems = some least) (hlength : length < least) :
      Breaks bounds length (.tooFewItems least)
  | tooManyItems {most : Nat} (h : bounds.maxItems = some most) (hlength : most < length) :
      Breaks bounds length (.tooManyItems most)

/-- An issue of a check is about the array itself, and names a bound that it breaks. -/
theorem exists_breaks_of_mem_check {issue : Issue} (h : issue ∈ bounds.check length location) :
    ∃ kind message, bounds.Breaks length kind ∧ Issue.about location kind message = issue := by
  simp only [check, mem_filterMap_id, List.mem_cons, List.not_mem_nil, or_false,
    eq_comm (a := some _), bind_some_iff] at h
  rcases h with ⟨_, h, hlength, rfl⟩ | ⟨_, h, hlength, rfl⟩
  · exact ⟨_, _, .tooFewItems h hlength, rfl⟩
  · exact ⟨_, _, .tooManyItems h hlength, rfl⟩

/-- The issues of a length are of the kinds of the bounds that it breaks. -/
theorem kinds_check (kind : IssueKind) :
    (∃ issue ∈ bounds.check length location, issue.kind = kind) ↔ bounds.Breaks length kind := by
  constructor
  · intro h
    obtain ⟨issue, h, rfl⟩ := h
    obtain ⟨kind, _, hbreaks, rfl⟩ := exists_breaks_of_mem_check h
    exact hbreaks
  · intro h
    simp only [check, mem_filterMap_id, List.mem_cons, List.not_mem_nil, or_false,
      eq_comm (a := some _), bind_some_iff]
    cases h with
    | tooFewItems h hlength => exact ⟨_, .inl ⟨_, h, hlength, rfl⟩, rfl⟩
    | tooManyItems h hlength => exact ⟨_, .inr ⟨_, h, hlength, rfl⟩, rfl⟩

/-- The bounds allow a length that breaks neither. -/
def Allows (bounds : ItemBounds) (length : Nat) : Prop := ∀ kind, ¬ bounds.Breaks length kind

theorem check_eq_nil_iff : bounds.check length location = [] ↔ bounds.Allows length :=
  eq_nil_iff_of_kinds kinds_check

end ItemBounds

end Conformance
