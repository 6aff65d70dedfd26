/-
Reports: issues, each with the location it is about.

The path of an issue is a text, and it names the place in the whole data. A report has
the location itself, as seen from the value that the validator was asked about, so it
is the same wherever that value stands. Every validator has a list of reports for
every value (`placeable_issues`), and no more than one (`Placed.unique`): its issues at a
location are these reports there, in this order.
-/
import Conformance.Proofs.Validation.Acceptance
import Conformance.Proofs.Validation.Origins

namespace Conformance

-- ================================================================ reports

/-- What an issue says, and the location that it says it about. -/
structure Report where
  place : Location
  kind : IssueKind
  message : String

namespace Report

/-- The report as an issue, where the value at hand stands at the location. -/
def issue (report : Report) (location : Location) : Issue :=
  .about (location ++ report.place) report.kind report.message

/-- The report as seen from what the value at hand is an item or a member of. -/
def inside (s : String) (report : Report) : Report := { report with place := s :: report.place }

/-- An issue of a part is one of the whole, a segment further down. -/
theorem issue_inside (s : String) (report : Report) (location : Location) :
    (report.inside s).issue location = report.issue (location ++ [s]) := by
  simp [issue, inside]

/-- Issues below the root tell reports apart. -/
theorem issue_injective (s : String) {report other : Report}
    (h : report.issue [s] = other.issue [s]) : report = other := by
  obtain ⟨place, kind, message⟩ := report
  obtain ⟨place', kind', message'⟩ := other
  simp only [issue, Issue.about, Issue.mk.injEq, Location.text_eq_text_iff] at h
  obtain ⟨hplace, rfl, rfl⟩ := h
  have heq : place = place' := by
    rcases hplace with hplace | ⟨hslash, hslash'⟩
    · simpa using hplace
    · simp only [Location.IsSlash] at hslash hslash'
      simp_all
  rw [heq]

end Report

/-- At every location the issues are the reports there, in this order. -/
def Placed (f : Location → List Issue) (reports : List Report) : Prop :=
  ∀ location, f location = reports.map (·.issue location)

/-- The issues are the same at every location, but for their paths. -/
def Placeable (f : Location → List Issue) : Prop := ∃ reports, Placed f reports

section

variable {f g : Location → List Issue} {reports others : List Report}

namespace Placed

/-- At the root alone one can read off what the reports are. -/
theorem unique (h : Placed f reports) (h' : Placed f others) : reports = others := by
  have hmap : reports.map (·.issue ["x"]) = others.map (·.issue ["x"]) :=
    (h ["x"]).symm.trans (h' ["x"])
  exact List.map_injective_iff.mpr (fun _ _ => Report.issue_injective "x") hmap

/-- No issues, no reports. -/
theorem nil : Placed (fun _ => []) [] := fun _ => rfl

/-- A single issue of the value itself. -/
theorem single (kind : IssueKind) (message : String) :
    Placed (fun location => [.about location kind message]) [⟨[], kind, message⟩] := by
  intro location
  simp [Report.issue]

/-- Issues that come one after the other have their reports one after the other. -/
theorem append (hf : Placed f reports) (hg : Placed g others) :
    Placed (fun location => f location ++ g location) (reports ++ others) := by
  intro location
  rw [List.map_append, ← hf, ← hg]

/-- The issues of an item or a member. -/
theorem inside (hf : Placed f reports) (s : String) :
    Placed (fun location => f (location ++ [s])) (reports.map (·.inside s)) := by
  intro location
  rw [List.map_map]
  refine (hf _).trans (List.map_congr_left fun report _ => ?_)
  exact (report.issue_inside s location).symm

end Placed

namespace Placeable

theorem nil : Placeable fun _ => [] := ⟨[], .nil⟩

theorem single (kind : IssueKind) (message : String) :
    Placeable fun location => [.about location kind message] :=
  ⟨_, .single kind message⟩

theorem append (hf : Placeable f) (hg : Placeable g) :
    Placeable fun location => f location ++ g location := by
  obtain ⟨reports, hf⟩ := hf
  obtain ⟨others, hg⟩ := hg
  exact ⟨reports ++ others, hf.append hg⟩

theorem inside (hf : Placeable f) (s : String) :
    Placeable fun location => f (location ++ [s]) := by
  obtain ⟨reports, hf⟩ := hf
  exact ⟨_, hf.inside s⟩

/-- The parts of a value have issues in turn, and so do the rules of a node. -/
theorem flatMap {α : Type} {as : List α} {f : α → Location → List Issue}
    (h : ∀ a ∈ as, Placeable (f a)) :
    Placeable fun location => as.flatMap fun a => f a location := by
  induction as with
  | nil => exact nil
  | cons a rest ih =>
      have hrest := ih fun a ha => h a (List.mem_cons_of_mem _ ha)
      exact (h a (List.mem_cons_self ..)).append hrest

end Placeable

end

-- ================================================================== rules

/-! Rules are checked one after the other, and those that are broken are reported at
the value itself. -/

namespace Placeable

theorem checks_nil : Placeable fun _ => ([] : List (Option Issue)).filterMap id := nil

/-- A rule that is checked has an issue or none, and those behind it follow. -/
theorem checks_cons {check : Location → Option Issue} {rest : Location → List (Option Issue)}
    (h : Placeable fun location => (check location).toList)
    (hrest : Placeable fun location => (rest location).filterMap id) :
    Placeable fun location => (check location :: rest location).filterMap id := by
  obtain ⟨reports, hplaced⟩ := h.append hrest
  refine ⟨reports, fun location => (?_ : _ = _).trans (hplaced location)⟩
  cases hcheck : check location <;> simp [hcheck]

section

variable {α : Type} {rule : Option α} {c : α → Prop} [DecidablePred c]
variable {kind : α → IssueKind} {message : α → String}

/-- A rule that is broken by what the condition says. -/
theorem of_broken : Placeable fun location => (rule.bind fun a =>
    if c a then some (.about location (kind a) (message a)) else none).toList := by
  cases rule with
  | none => exact nil
  | some a =>
      by_cases h : c a
      · simpa [h] using single (kind a) (message a)
      · simpa [h] using nil

/-- A rule that is kept by what the condition says. -/
theorem of_kept : Placeable fun location => (rule.bind fun a =>
    if c a then none else some (.about location (kind a) (message a))).toList := by
  cases rule with
  | none => exact nil
  | some a =>
      by_cases h : c a
      · simpa [h] using nil
      · simpa [h] using single (kind a) (message a)

end

end Placeable

theorem StringRules.placeable_check (rules : StringRules) (s : String) :
    Placeable (rules.check s) :=
  .checks_cons .of_broken <| .checks_cons .of_broken <| .checks_cons .of_kept <|
    .checks_cons .of_kept .checks_nil

theorem ItemBounds.placeable_check (bounds : ItemBounds) (length : Nat) :
    Placeable (bounds.check length) :=
  .checks_cons .of_broken <| .checks_cons .of_broken .checks_nil

theorem NumberRules.placeable_check (rules : NumberRules) (n : Number) :
    Placeable (rules.check n) := by
  refine .checks_cons ?fractional <| .checks_cons .of_kept <| .checks_cons .of_kept <|
    .checks_cons .of_kept <| .checks_cons .of_kept <| .checks_cons .of_kept .checks_nil
  cases hbroken : rules.integer && !n.isWhole with
  | true => exact .single .notInteger ("expected an integer, got " ++ n.text)
  | false => exact .nil

-- ============================================================== validators

namespace Validator

variable {v w : Validator} {x : Json}

/-- The reports of the validator about the value. -/
def Reports (v : Validator) (x : Json) (reports : List Report) : Prop :=
  Placed (fun location => (v.parseAt x location).issues) reports

/-- The issues of an array are those of its length, and those of its items. -/
theorem issues_array (items : Validator) (bounds : ItemBounds) (values : List Json)
    (location : Location) :
    ((array items bounds).parseAt (.array values) location).issues
      = bounds.check values.length location ++
        values.zipIdx.flatMap fun e =>
          (items.parseAt e.1 (location ++ [toString e.2])).issues := by
  rw [parseAt_array, issues_accepted, parsedItems, List.flatMap_map]
  rfl

/-- The issues of an object are those of its declared properties, and those of its
other members. -/
theorem issues_object (properties : List (Property Validator)) (additional : Additional Validator)
    (members : Members) (location : Location) :
    ((object properties additional).parseAt (.object members) location).issues
      = (properties.flatMap fun p => (parsedProperty members location p).1) ++
        (parsedOthers additional (undeclared properties members) location).1 := by
  rw [parseAt_object, issues_accepted]

/-- A property that is there has the issues of its value. -/
theorem issues_parsedProperty_some {members : Members} {p : Property Validator} {y : Json}
    (h : members.get? p.name = some y) (location : Location) :
    (parsedProperty members location p).1
      = (p.validator.parseAt y (location ++ [p.name])).issues := by
  have hmember : location ++ [p.name] = location.member p.name := rfl
  rw [hmember, parsedProperty, h]
  cases hparsed : p.validator.parseAt y (location.member p.name) <;> simp only [hparsed] <;> rfl

/-- One that is not there has an issue of its own if it is missed. -/
theorem issues_parsedProperty_none {members : Members} {p : Property Validator}
    (h : members.get? p.name = none) (location : Location) :
    (parsedProperty members location p).1
      = if p.required && !p.validator.acceptsAbsent then [missingMember location p.name]
        else [] := by
  rw [parsedProperty, h]
  cases p.required && !p.validator.acceptsAbsent <;> rfl

/-- A property that is not there has at most the issue that it is missing. -/
theorem placeable_missing {members : Members} {p : Property Validator}
    (h : members.get? p.name = none) :
    Placeable fun location => (parsedProperty members location p).1 := by
  simp only [issues_parsedProperty_none h]
  cases p.required && !p.validator.acceptsAbsent with
  | true => exact (Placeable.single .missing _).inside p.name
  | false => exact .nil

/-- Members that may not be there are reported by their names. -/
theorem placeable_unknown (others : Members) :
    Placeable fun location => (parsedOthers .reject others location).1 := by
  show Placeable fun location => others.map fun m => unknownMember location m.1
  simp only [List.map_eq_flatMap]
  exact .flatMap fun m _ => (Placeable.single (.unknownProperty m.1) _).inside m.1

/-- The items of an array report at their numbers. -/
theorem placeable_array {items : Validator} {bounds : ItemBounds} {values : List Json}
    (h : ∀ y ∈ values, Placeable fun location => (items.parseAt y location).issues) :
    Placeable fun location => ((array items bounds).parseAt (.array values) location).issues := by
  simp only [issues_array]
  refine (bounds.placeable_check values.length).append (.flatMap fun e he => ?_)
  exact (h e.1 (List.fst_mem_of_mem_zipIdx he)).inside (toString e.2)

/-- The members of an object report at their names, whether or not they are declared. -/
theorem placeable_object {properties : List (Property Validator)}
    {additional : Additional Validator} {members : Members}
    (hproperties : ∀ p ∈ properties, ∀ y, members.get? p.name = some y →
      Placeable fun location => (p.validator.parseAt y location).issues)
    (hothers : ∀ catchAll, additional = .schema catchAll → ∀ m ∈ members,
      Placeable fun location => (catchAll.parseAt m.2 location).issues) :
    Placeable fun location =>
      ((object properties additional).parseAt (.object members) location).issues := by
  simp only [issues_object]
  refine .append (.flatMap fun p hp => ?property) ?others
  case property =>
    cases hget : members.get? p.name with
    | none => exact placeable_missing hget
    | some y =>
        simp only [issues_parsedProperty_some hget]
        exact (hproperties p hp y hget).inside p.name
  case others =>
    cases additional with
    | ignore => exact .nil
    | reject => exact placeable_unknown _
    | schema catchAll =>
        refine .flatMap fun m hm => ?_
        exact (hothers catchAll rfl m (List.mem_filter.mp hm).1).inside m.1

/-- The first reason of an alternative is the message of its first report, wherever the
value stands. -/
theorem reasons_eq {variants : List Validator}
    (h : ∀ w ∈ variants, Placeable fun location => (w.parseAt x location).issues)
    (location location' : Location) (i : Nat) :
    reasons variants x location i = reasons variants x location' i := by
  have hfirst : ∀ e ∈ variants.zipIdx i,
      ((e.1.parseAt x location).issues.head?.map fun first =>
          s!"variant {e.2}: " ++ first.message)
        = (e.1.parseAt x location').issues.head?.map fun first =>
          s!"variant {e.2}: " ++ first.message := by
    intro e he
    obtain ⟨reports, hreports⟩ := h e.1 (List.fst_mem_of_mem_zipIdx he)
    have hissues : ∀ place, (e.1.parseAt x place).issues = reports.map (·.issue place) := hreports
    rw [hissues location, hissues location']
    cases reports <;> rfl
  unfold reasons
  rw [List.flatMap_def, List.flatMap_def]
  exact congrArg List.flatten (List.map_congr_left fun e he => congrArg Option.toList (hfirst e he))

/-- Whether an alternative accepts a value does not depend on where the value stands, and
neither does what is reported if none does. -/
theorem placeable_union {variants : List Validator}
    (h : ∀ w ∈ variants, Placeable fun location => (w.parseAt x location).issues) :
    Placeable fun location => ((union variants).parseAt x location).issues := by
  by_cases hok : ∃ w ∈ variants, w.check x = true
  · obtain ⟨w, hw, hcheck⟩ := hok
    -- some alternative accepts the value, here as anywhere
    refine ⟨[], fun location => isOk_iff_issues_eq_nil.mp ?_⟩
    exact isOk_union.mpr ⟨w, hw, isOk_iff_check.mpr hcheck⟩
  · -- none does, here or anywhere
    have hrejects : ∀ w ∈ variants, w.check x = false :=
      fun w hw => Bool.eq_false_iff.mpr fun hcheck => hok ⟨w, hw, hcheck⟩
    simp only [parseAt_union, firstParsed?_eq_none_iff.mpr hrejects, reasons_eq h _ []]
    exact .single (.noMatchingVariant variants.length) _

/-- Every validator has reports about every value. -/
theorem placeable_issues (v : Validator) (x : Json) :
    Placeable fun location => (v.parseAt x location).issues := by
  induction v, x using ask_induction with
  | step v x ih =>
      cases faces v x with
      | any | null | boolean | optionalNull => exact .nil
      | string rules s =>
          simp only [parseAt_string, issues_accepted]
          exact rules.placeable_check s
      | number rules n =>
          simp only [parseAt_number, issues_accepted]
          exact rules.placeable_check n
      | literal expected =>
          simp only [parseAt_literal]
          cases x.same expected with
          | true => exact .nil
          | false => exact .single (.literalMismatch expected) _
      | stringEnum allowed s =>
          simp only [parseAt_stringEnum]
          cases allowed.contains s with
          | true => exact .nil
          | false => exact .single (.notInEnum allowed) _
      | array items bounds values => exact placeable_array fun y hy => ih _ _ (.item hy)
      | object properties additional members =>
          refine placeable_object (fun p hp y hget => ih _ _ (.member hp hget)) ?others
          rintro catchAll rfl m hm
          exact ih _ _ (.other hm)
      | union variants => exact placeable_union fun w hw => ih w x (.stays (.variant hw) _)
      | optional inner hx =>
          simp only [parseAt_optional_of_ne hx]
          exact ih inner x (.stays (.inner inner) _)
      | shared number target => exact ih target x (.stays (.target number target) _)
      | deferred d =>
          cases ht : d.target with
          | error reason =>
              simp only [parseAt_deferred_error _ _ ht]
              exact .single (.unresolvedReference d.reference) reason
          | ok t =>
              simp only [parseAt_deferred _ _ ht]
              exact ih t x (.stays (.resolved ht) _)
      | mistyped expected h =>
          simp only [h.parseAt_eq]
          exact .single (.invalidType expected.name x.typeName) _

/-- The issues for which a value is rejected. -/
def issues (v : Validator) (x : Json) : List Issue :=
  match v.parse x with
  | .ok _ => []
  | .error failure => failure.issues

/-- The issues of parsing are the reports at the root. -/
theorem Reports.issues_eq {reports : List Report} (h : v.Reports x reports) :
    v.issues x = reports.map (·.issue []) := by
  have hroot : (v.parseAt x []).issues = reports.map (·.issue []) := h []
  rw [← hroot, issues, parse_eq]
  cases v.parseAt x [] <;> rfl

end Validator

end Conformance
