/-
Rules for numbers whose limits are whole.

What the keywords of a schema demand is told by `Demands`: a bound is set by its own
keyword, or by that of the plain bound when a switch makes this one exclusive. The rules
that are read from the schema hold just these limits (`limit?_numberRules`), and a step if
it is above zero (`multipleOf_numberRules`). Where every limit is whole, a whole number is
compared with it and divided by it as the integers are. So it is accepted just if it keeps
what is demanded of it, and otherwise what it violates is reported, each only once.
-/
import Conformance.Proofs.Compiler.Expansion
import Conformance.Proofs.Json.Divisibility
import Conformance.Proofs.Json.MachineIntegers
import Conformance.Proofs.Validation.Forms

namespace Conformance

-- =============================================================== bounds

namespace Bound

/-- The bound that a switch turns this one into. -/
def strict : Bound → Bound
  | minimum | exclusiveMinimum => exclusiveMinimum
  | maximum | exclusiveMaximum => exclusiveMaximum

/-- The bound is kept, among the integers. -/
def Holds : Bound → Int → Int → Prop
  | minimum, limit, n => limit ≤ n
  | exclusiveMinimum, limit, n => limit < n
  | maximum, limit, n => n ≤ limit
  | exclusiveMaximum, limit, n => n < limit

/-- A strict bound is its own strict form. -/
@[simp] theorem strict_strict (bound : Bound) : bound.strict.strict = bound.strict := by
  cases bound <;> rfl

/-- Two bounds at most are turned into one and the same: a plain one, and it itself. -/
theorem eq_or_of_strict_eq {b b' : Bound} (hb : b.strict ≠ b) (h : b'.strict = b.strict) :
    b' = b ∨ b' = b.strict := by
  cases b <;> cases b' <;> simp_all [strict]

/-- The bound is kept as it is by integers. -/
theorem keeps_compare (bound : Bound) (n limit : Int) :
    bound.keeps (compare n limit) = true ↔ bound.Holds limit n := by
  cases bound with
  | minimum =>
      show (compare n limit != .lt) = true ↔ limit ≤ n
      rw [bne_iff_ne, ne_eq, Int.compare_eq_lt, not_lt]
  | exclusiveMinimum =>
      show (compare n limit == .gt) = true ↔ limit < n
      rw [beq_iff_eq, Int.compare_eq_gt]
  | maximum =>
      show (compare n limit != .gt) = true ↔ n ≤ limit
      rw [bne_iff_ne, ne_eq, Int.compare_eq_gt, not_lt]
  | exclusiveMaximum =>
      show (compare n limit == .lt) = true ↔ n < limit
      rw [beq_iff_eq, Int.compare_eq_lt]

end Bound

-- ============================================================= keywords

/-- The bounds that a schema sets, with their limits. -/
inductive Demands (members : Members) : Bound → Number → Prop
  | asked {bound : Bound} {limit : Number}
      (h : members.get? bound.keyword = some (.number limit))
      (hplain : members.get? bound.strict.keyword ≠ some (.bool true)) :
      Demands members bound limit
  | switched {plain bound : Bound} {limit : Number} (hstrict : plain.strict = bound)
      (h : members.get? plain.keyword = some (.number limit))
      (hon : members.get? bound.keyword = some (.bool true)) :
      Demands members bound limit

/-- What a schema demands in vain of a whole number, by the kinds of issues that report
it. -/
inductive Violates (members : Members) (n : Int) : IssueKind → Prop
  | bound {bound : Bound} {limit : Int} (h : Demands members bound (.whole limit))
      (hn : ¬ bound.Holds limit n) :
      Violates members n (.outOfRange bound.keyword (.number (.whole limit)))
  | step {step : Int} (h : members.get? "multipleOf" = some (.number (.whole step)))
      (hpositive : 0 < step) (hn : ¬ step ∣ n) :
      Violates members n (.notMultipleOf (.number (.whole step)))

/-- No limit of the schema is a real. -/
def WholeLimits (members : Members) : Prop :=
  ∀ keyword ∈ ["minimum", "exclusiveMinimum", "maximum", "exclusiveMaximum", "multipleOf"],
    ∀ x, members.get? keyword ≠ some (.number (.real x))

namespace Constraint

variable {members : Members} {integer : Bool} {path : String}

/-- A number is read just where one stands, and a switch is no number. -/
theorem number_eq_some_iff {keyword : String} {switch : Bool} {n : Number} :
    (number members keyword path switch).1 = some n ↔
      members.get? keyword = some (.number n) := by
  unfold number
  cases members.get? keyword with
  | none => simp
  | some x =>
      cases x with
      | number m => simp
      | _ => cases switch <;> simp

/-- A switch is on where the value is true, and nowhere else. -/
theorem isOn_iff {keyword : String} :
    isOn members keyword = true ↔ members.get? keyword = some (.bool true) := by
  unfold isOn
  split
  · next h => exact iff_of_true rfl h
  · next h => exact iff_of_false Bool.false_ne_true h

/-- The rules that are read: a switch hands the plain bound over, and a step has to be
above zero. -/
theorem numberRules_eq (members : Members) (integer : Bool) (path : String) :
    (numberRules members integer path).1 =
      { integer
        minimum :=
          if isOn members "exclusiveMinimum" then none else (number members "minimum" path).1
        exclusiveMinimum :=
          if isOn members "exclusiveMinimum" then (number members "minimum" path).1
          else (number members "exclusiveMinimum" path true).1
        maximum :=
          if isOn members "exclusiveMaximum" then none else (number members "maximum" path).1
        exclusiveMaximum :=
          if isOn members "exclusiveMaximum" then (number members "maximum" path).1
          else (number members "exclusiveMaximum" path true).1
        multipleOf := (number members "multipleOf" path).1.filter Number.isPositive } := by
  unfold numberRules
  obtain ⟨step, noStep⟩ := number members "multipleOf" path
  cases step with
  | none =>
      cases isOn members "exclusiveMinimum" <;> cases isOn members "exclusiveMaximum" <;> rfl
  | some step =>
      rw [Option.filter_some]
      dsimp only
      cases step.isPositive <;> cases isOn members "exclusiveMinimum" <;>
        cases isOn members "exclusiveMaximum" <;> rfl

/-- The rules have the limits that are demanded. -/
theorem limit?_numberRules {bound : Bound} {limit : Number} :
    (numberRules members integer path).1.limit? bound = some limit ↔
      Demands members bound limit := by
  -- a plain bound counts unless its strict form is switched on
  have hplain : ∀ b : Bound, b.strict ≠ b →
      ((if isOn members b.strict.keyword then none else (number members b.keyword path).1)
        = some limit ↔ Demands members b limit) := by
    intro b hb
    rw [Option.ite_none_left_eq_some, isOn_iff, number_eq_some_iff]
    constructor
    · rintro ⟨hoff, h⟩
      exact .asked h hoff
    · intro h
      cases h with
      | asked h hoff => exact ⟨hoff, h⟩
      | @switched plain _ _ hstrict => exact absurd (hstrict ▸ Bound.strict_strict plain) hb
  -- a strict bound has a number of its own, or the one of the plain bound
  have hstrict : ∀ b : Bound, b.strict ≠ b →
      ((if isOn members b.strict.keyword then (number members b.keyword path).1
        else (number members b.strict.keyword path true).1) = some limit ↔
        Demands members b.strict limit) := by
    intro b hb
    by_cases hon : members.get? b.strict.keyword = some (.bool true)
    · rw [if_pos (isOn_iff.mpr hon), number_eq_some_iff]
      constructor
      · intro h
        exact .switched rfl h hon
      · intro h
        cases h with
        | asked h => cases hon.symm.trans h
        | @switched plain _ _ hplain h =>
            rcases Bound.eq_or_of_strict_eq hb hplain with rfl | rfl
            · exact h
            · cases hon.symm.trans h
    · rw [if_neg (mt isOn_iff.mp hon), number_eq_some_iff]
      constructor
      · intro h
        exact .asked h (by rw [Bound.strict_strict, h]; simp)
      · intro h
        cases h with
        | asked h => exact h
        | switched _ _ hon' => exact absurd hon' hon
  rw [numberRules_eq]
  cases bound with
  | minimum => exact hplain .minimum (by decide)
  | exclusiveMinimum => exact hstrict .minimum (by decide)
  | maximum => exact hplain .maximum (by decide)
  | exclusiveMaximum => exact hstrict .maximum (by decide)

/-- They have the step that is asked for, if it is above zero. -/
theorem multipleOf_numberRules {step : Number} :
    (numberRules members integer path).1.multipleOf = some step ↔
      members.get? "multipleOf" = some (.number step) ∧ step.isPositive = true := by
  rw [numberRules_eq, Option.filter_eq_some_iff, number_eq_some_iff]

end Constraint

-- ============================================================== reports

/-- The keyword that a broken rule for numbers is reported by. -/
def IssueKind.numberKeyword? : IssueKind → Option String
  | notInteger => some "type"
  | outOfRange keyword _ => some keyword
  | notMultipleOf _ => some "multipleOf"
  | _ => none

/-- What is there of some optional issues is reported in the order of what each could
be. -/
theorem map_filterMap_id_sublist {α : Type} {f : Issue → α} {reports : List (Option Issue)}
    {names : List α}
    (h : List.Forall₂ (fun report name => ∀ issue, report = some issue → f issue = name)
      reports names) :
    ((reports.filterMap id).map f).Sublist names := by
  induction h with
  | nil => exact .slnil
  | @cons report name _ _ hreport _ ih =>
      cases report with
      | none => exact .cons _ ih
      | some issue =>
          rw [← hreport issue rfl]
          exact .cons_cons _ ih

/-- The issue of a bound tells its keyword. -/
theorem Bound.keyword_of_check {bound : Bound} {limit : Option Number} {n : Number}
    {location : Location} (issue : Issue) (h : bound.check limit n location = some issue) :
    issue.kind.numberKeyword? = some bound.keyword := by
  obtain ⟨limit, -, -, rfl⟩ := bind_none_iff.mp h
  rfl

namespace NumberRules

variable {rules : NumberRules} {location : Location}

/-- No rule for numbers is reported twice. -/
theorem nodup_kinds_check (rules : NumberRules) (n : Number) (location : Location) :
    ((rules.check n location).map Issue.kind).Nodup := by
  have hnames : (["type", "minimum", "exclusiveMinimum", "maximum", "exclusiveMaximum",
      "multipleOf"].map some).Nodup := by decide
  refine List.Nodup.of_map IssueKind.numberKeyword? ?_
  rw [List.map_map]
  refine hnames.sublist (map_filterMap_id_sublist ?_)
  refine .cons ?_ (.cons Bound.keyword_of_check (.cons Bound.keyword_of_check
    (.cons Bound.keyword_of_check (.cons Bound.keyword_of_check (.cons ?_ .nil)))))
  · intro issue h
    obtain ⟨-, h⟩ := Option.ite_none_right_eq_some.mp h
    cases h
    rfl
  · intro issue h
    obtain ⟨step, -, -, rfl⟩ := bind_none_iff.mp h
    rfl

/-- The rules that a whole number breaks are what the schema demands of it in vain. -/
theorem breaks_numberRules {members : Members} (hwhole : WholeLimits members) (integer : Bool)
    (n : Int) (kind : IssueKind) :
    (Constraint.numberRules members integer "").1.Breaks (.whole n) kind ↔
      Violates members n kind := by
  constructor
  · intro h
    cases h with
    | notInteger _ hn => cases hn
    | @outOfRange bound limit h hn =>
        have hdemands := Constraint.limit?_numberRules.mp h
        cases limit with
        | whole k => exact .bound hdemands (mt (bound.keeps_compare n k).mpr hn)
        | real x =>
            cases hdemands with
            | asked h =>
                -- a real limit is excluded by the hypothesis
                exact absurd h (hwhole _ (by cases bound <;> simp [Bound.keyword]) x)
            | @switched plain _ _ _ h =>
                exact absurd h (hwhole _ (by cases plain <;> simp [Bound.keyword]) x)
    | @notMultipleOf step h hn =>
        obtain ⟨h, hpositive⟩ := Constraint.multipleOf_numberRules.mp h
        cases step with
        | whole k =>
            refine .step h (of_decide_eq_true hpositive) fun hdivides => hn ?_
            exact (Number.isMultipleOf_iff hpositive).mpr hdivides
        | real x => exact absurd h (hwhole _ (by simp) x)
  · intro h
    cases h with
    | @bound bound limit h hn =>
        exact .outOfRange (Constraint.limit?_numberRules.mpr h)
          (mt (bound.keeps_compare n limit).mp hn)
    | @step step h hpositive hn =>
        have hstep : (Number.whole step).isPositive = true := decide_eq_true hpositive
        refine .notMultipleOf (Constraint.multipleOf_numberRules.mpr ⟨h, hstep⟩) fun hmultiple => ?_
        exact hn ((Number.isMultipleOf_iff hstep).mp hmultiple)

end NumberRules

/-- Nothing is violated just if the bounds are kept and the step divides the number. -/
theorem forall_not_violates_iff {members : Members} {n : Int} :
    (∀ kind, ¬ Violates members n kind) ↔
      (∀ bound limit, Demands members bound (.whole limit) → bound.Holds limit n) ∧
      ∀ step, members.get? "multipleOf" = some (.number (.whole step)) → 0 < step → step ∣ n := by
  constructor
  · intro h
    refine ⟨fun bound limit hdemands => ?_, fun step hstep hpositive => ?_⟩
    · by_contra hn
      exact h _ (.bound hdemands hn)
    · by_contra hn
      exact h _ (.step hstep hpositive hn)
  · rintro ⟨hbounds, hsteps⟩ kind h
    cases h with
    | bound hdemands hn => exact hn (hbounds _ _ hdemands)
    | step hstep hpositive hn => exact hn (hsteps _ hstep hpositive)

-- ============================================================== schemas

/-- A schema of numbers compiles to its rules. -/
theorem compileNode_number {members : Members} {integer : Bool}
    (hkind : (SchemaKind.of members).1 = .primitive (if integer then .integer else .number))
    (pool : Definitions) (visited : VisitedPath) (options : CompileOptions) :
    (compileNode (.object members) pool visited options).result
      = .ok (.number (Constraint.numberRules members integer "").1) := by
  -- the node is a leaf, so its result is known at any level
  have hshape : shape? options.formats members
      = some (.number (Constraint.numberRules members integer "").1) := by
    rw [shape?, hkind]
    cases integer <;> rfl
  have hexpands : Expands options (Compiler.levels options) pool visited
      (.object members) (.number (Constraint.numberRules members integer "").1) :=
    ⟨_, hshape, .leaf rfl⟩
  have hresult := compileNode_iff_expands.mpr hexpands
  cases hcompile : (compileNode (.object members) pool visited options).result with
  | error e =>
      rw [hcompile] at hresult
      cases hresult
  | ok v =>
      rw [hcompile] at hresult
      have hname : v.anonymous = .number _ := Except.ok.inj hresult
      rw [(Validator.anonymous_eq_leaf (show (Shape.number _).leaf? = some _ from rfl)).mp hname]

/-- A number is refused with what its check reports. -/
theorem Validator.issues_of_parse_number {rules : NumberRules} {n : Number} {failure : Failure}
    (h : (Validator.number rules).parse (.number n) = .error failure) :
    failure.issues = rules.check n [] := by
  rw [parse_eq, parseAt_number] at h
  dsimp only [accepted] at h
  split at h
  · cases h
  · cases h
    rfl

/-- A schema of numbers whose limits are whole compiles, and what it compiles to accepts just
the whole numbers that keep them as integers do. Of any other it reports just what is violated,
each only once. Machine integers are compared and divided to the same ends, whatever the
conversion to reals, if it keeps the sign. -/
theorem whole_numbers_checked_exactly (members : Members) (integer : Bool)
    (hkind : (SchemaKind.of members).1 = .primitive (if integer then .integer else .number))
    (hwhole : WholeLimits members) (real : Int → ℚ)
    (hreal : MachineInteger.KeepsSign real) (pool : Definitions)
    (visited : VisitedPath) (options : CompileOptions) :
    (∃ v, (compileNode (.object members) pool visited options).result = .ok v ∧ ∀ n : Int,
      (v.check (.number (.whole n)) = true ↔
        (∀ bound limit, Demands members bound (.whole limit) → bound.Holds limit n) ∧
        ∀ step, members.get? "multipleOf" = some (.number (.whole step)) → 0 < step →
          step ∣ n) ∧
      ∀ failure, v.parse (.number (.whole n)) = .error failure →
        (failure.issues.map Issue.kind).Nodup ∧
        ∀ kind, kind ∈ failure.issues.map Issue.kind ↔ Violates members n kind) ∧
    ∀ n limit, MachineInteger.Fits n → MachineInteger.Fits limit →
      MachineInteger.compareInStages real n limit = (Number.whole n).compare (.whole limit) ∧
      MachineInteger.dividesMagnitude limit n = (Number.whole n).isMultipleOf (.whole limit) ∧
      (0 < real limit ↔ (Number.whole limit).isPositive = true) := by
  refine ⟨⟨_, compileNode_number hkind pool visited options, fun n => ⟨?_, ?_⟩⟩, ?_⟩
  -- what is allowed is that nothing demanded is violated
  · have hallows : ((Constraint.numberRules members integer "").1).Allows (.whole n) ↔
        ∀ kind, ¬ Violates members n kind :=
      forall_congr' fun kind => not_congr (NumberRules.breaks_numberRules hwhole integer n kind)
    rw [← forall_not_violates_iff, ← hallows, Validator.check_eq, Validator.isOk_number]
    simp
  · intro failure h
    rw [Validator.issues_of_parse_number h]
    refine ⟨NumberRules.nodup_kinds_check _ _ _, fun kind => ?_⟩
    rw [List.mem_map, NumberRules.kinds_check]
    exact NumberRules.breaks_numberRules hwhole integer n kind
  · intro n limit hn hlimit
    refine ⟨MachineInteger.compareInStages_eq hreal hn hlimit,
      MachineInteger.dividesMagnitude_eq hlimit hn, ?_⟩
    rw [hreal.pos_iff]
    exact decide_eq_true_iff.symm

/-- Multiples of three above the least signed number and up to the greatest unsigned one. -/
def machineRange : Members :=
  [("type", .string "integer"), ("minimum", .number (.whole (-2 ^ 63))),
    ("exclusiveMinimum", .bool true), ("maximum", .number (.whole (2 ^ 64 - 1))),
    ("multipleOf", .number (.whole 3))]

/-- The greatest unsigned number is accepted, and the least signed one is not. -/
theorem whole_numbers_checked_exactly_extremes :
    (SchemaKind.of machineRange).1 = .primitive .integer ∧ WholeLimits machineRange ∧
    MachineInteger.KeepsSign (fun n => (Binary64.ofInt n).value) ∧
    ∃ v, (compileNode (.object machineRange) {} .empty {}).result = .ok v ∧
      v.check (.number (.whole (2 ^ 64 - 1))) = true ∧
      v.check (.number (.whole (-2 ^ 63))) = false := by
  have hkind : (SchemaKind.of machineRange).1 = .primitive .integer := rfl
  have hwhole : WholeLimits machineRange := by
    intro keyword hkeyword x h
    -- all five keywords hold whole numbers or none
    simp only [List.mem_cons, List.not_mem_nil, or_false] at hkeyword
    rcases hkeyword with rfl | rfl | rfl | rfl | rfl <;> cases h
  obtain ⟨⟨v, hv, hn⟩, -⟩ := whole_numbers_checked_exactly machineRange true hkind hwhole
    (fun n => (Binary64.ofInt n).value) Binary64.keepsSign_ofInt {} .empty {}
  refine ⟨hkind, hwhole, Binary64.keepsSign_ofInt, v, hv, (hn _).1.mpr ⟨?_, ?_⟩, ?_⟩
  · intro bound limit h
    cases h with
    | asked h hplain =>
        cases bound with
        | minimum => exact absurd rfl hplain
        | maximum =>
            cases h
            exact le_refl _
        | exclusiveMinimum | exclusiveMaximum => cases h
    | @switched plain _ _ hstrict h hon =>
        cases plain with
        | minimum =>
            cases hstrict
            cases h
            show (-2 ^ 63 : Int) < 2 ^ 64 - 1
            decide
        | maximum =>
            cases hstrict
            cases hon
        | exclusiveMinimum | exclusiveMaximum => cases h
  · intro step h _
    cases h
    decide
  · rw [← Bool.not_eq_true, (hn _).1]
    rintro ⟨hbounds, -⟩
    -- the least number would have to be above itself
    have habove : (-2 ^ 63 : Int) < -2 ^ 63 :=
      hbounds .exclusiveMinimum (-2 ^ 63) (@Demands.switched _ .minimum _ _ rfl rfl rfl)
    exact absurd habove (lt_irrefl _)

end Conformance
