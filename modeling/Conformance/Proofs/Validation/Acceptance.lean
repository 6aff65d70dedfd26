/-
Which data a validator accepts.

Whether a value is accepted does not depend on where it stands, only the issues
do. So acceptance is a relation between validators and data, absent data
included, and this file says what it is for each kind of node. An object is
accepted by the same conditions whether what lies beneath it are validators or
schemas, so these are stated once, for any relation: `Conforms`.
-/
import Conformance.Proofs.Validation.Equations
import Conformance.Proofs.Validation.Rules

namespace Conformance

/-- An object conforms to declared properties and the treatment of others, when
`holds` says which data go with what lies beneath. -/
structure Conforms {α : Type} (holds : α → Data → Prop) (properties : List (Property α))
    (additional : Additional α) (members : Members) : Prop where
  present : ∀ p ∈ properties, ∀ x, members.get? p.name = some x → holds p.validator (some x)
  absent : ∀ p ∈ properties, members.get? p.name = none → p.required = true →
    holds p.validator none
  declared : additional = .reject → ∀ m ∈ members, ∃ p ∈ properties, p.name = m.1
  others : ∀ catchAll, additional = .schema catchAll → ∀ m ∈ members,
    (∀ p ∈ properties, p.name ≠ m.1) → holds catchAll (some m.2)

/-- More is accepted where every validator accepts more. What is declared and what is
required stays the same. -/
theorem Conforms.imp {α : Type} {holds holds' : α → Data → Prop} {properties : List (Property α)}
    {additional : Additional α} {members : Members}
    (himp : ∀ a data, holds a data → holds' a data)
    (h : Conforms holds properties additional members) :
    Conforms holds' properties additional members where
  present := fun p hp x hx => himp _ _ (h.present p hp x hx)
  absent := fun p hp hnone hrequired => himp _ _ (h.absent p hp hnone hrequired)
  declared := h.declared
  others := fun catchAll ha m hm hnone => himp _ _ (h.others catchAll ha m hm hnone)

namespace Validator

variable {value : Json} {location : Location}

-- ======================================================= at one location

/-- The nodes that gather issues accept when they have gathered none. -/
theorem isOk_accepted_iff {issues : List Issue} :
    (accepted value issues).isOk = true ↔ issues = [] := by
  unfold accepted
  cases issues with
  | nil => exact ⟨fun _ => rfl, fun _ => rfl⟩
  | cons issue rest =>
      constructor
      · intro h
        cases h
      · intro h
        cases h

/-- A type without rules accepts all values of the type. -/
theorem isOk_null : (null.parseAt value location).isOk = true ↔ value = .null := by
  rw [parseAt_null]
  cases value <;> simp [Except.isOk, Except.toBool]

theorem isOk_boolean :
    (boolean.parseAt value location).isOk = true ↔ ∃ b, value = .bool b := by
  rw [parseAt_boolean]
  cases value <;> simp [Except.isOk, Except.toBool]

/-- For strings and numbers the rules decide. -/
theorem isOk_string {rules : StringRules} :
    ((string rules).parseAt value location).isOk = true ↔
      ∃ s, value = .string s ∧ rules.Allows s := by
  rw [parseAt_string]
  cases value with
  | string s =>
      simp only [isOk_accepted_iff, StringRules.check_eq_nil_iff, Json.string.injEq,
        exists_eq_left']
  | _ => simp [Except.isOk, Except.toBool]

theorem isOk_number {rules : NumberRules} :
    ((number rules).parseAt value location).isOk = true ↔
      ∃ n, value = .number n ∧ rules.Allows n := by
  rw [parseAt_number]
  cases value with
  | number n =>
      simp only [isOk_accepted_iff, NumberRules.check_eq_nil_iff, Json.number.injEq,
        exists_eq_left']
  | _ => simp [Except.isOk, Except.toBool]

/-- A literal accepts all values that are equal to it as JSON. -/
theorem isOk_literal {expected : Json} :
    ((literal expected).parseAt value location).isOk = true ↔ value.same expected = true := by
  rw [parseAt_literal]
  split <;> simp_all [Except.isOk, Except.toBool]

/-- An enumeration of texts accepts these and no other type of value. -/
theorem isOk_stringEnum {allowed : List String} :
    ((stringEnum allowed).parseAt value location).isOk = true ↔
      ∃ s ∈ allowed, value = .string s := by
  rw [parseAt_stringEnum]
  cases value with
  | string s => by_cases h : s ∈ allowed <;> simp [h, Except.isOk, Except.toBool]
  | _ => simp [Except.isOk, Except.toBool]

/-- An array is accepted when its length and all its items are. -/
theorem isOk_array {items : Validator} {bounds : ItemBounds} :
    ((array items bounds).parseAt value location).isOk = true ↔
      ∃ values, value = .array values ∧ bounds.Allows values.length ∧
        ∀ e ∈ values.zipIdx, (items.parseAt e.1 (location.item e.2)).isOk = true := by
  rw [parseAt_array]
  cases value with
  | array values =>
      simp only [isOk_accepted_iff, List.append_eq_nil_iff, ItemBounds.check_eq_nil_iff,
        List.flatMap_eq_nil_iff, parsedItems, List.forall_mem_map, isOk_iff_issues_eq_nil,
        Json.array.injEq, exists_eq_left']
  | _ => simp [Except.isOk, Except.toBool]

/-- It does not matter which alternative accepts the value, and which of them comes first
decides only what is made of it. -/
theorem isOk_union {variants : List Validator} :
    ((union variants).parseAt value location).isOk = true ↔
      ∃ v ∈ variants, (v.parseAt value location).isOk = true := by
  have hfirst : (firstParsed? variants value location).isSome = true ↔
      ∃ v ∈ variants, (v.parseAt value location).isOk = true := by
    rw [firstParsed?, List.findSome?_isSome_iff]
    refine exists_congr fun v => and_congr_right fun _ => ?_
    cases v.parseAt value location <;> simp [Except.isOk, Except.toBool, Except.toOption]
  rw [parseAt_union, ← hfirst]
  cases firstParsed? variants value location <;> simp [Except.isOk, Except.toBool]

/-- Null is accepted even where the validator within would reject it. -/
theorem isOk_optional {inner : Validator} :
    ((optional inner).parseAt value location).isOk = true ↔
      value = .null ∨ (inner.parseAt value location).isOk = true := by
  rw [parseAt_optional]
  cases value with
  | null => exact ⟨fun _ => .inl rfl, fun _ => rfl⟩
  | _ => simp

/-- The members that are not declared bear none of the declared names. -/
theorem mem_undeclared {properties : List (Property Validator)} {members : Members}
    {m : String × Json} :
    m ∈ undeclared properties members ↔ m ∈ members ∧ ∀ p ∈ properties, p.name ≠ m.1 := by
  simp [undeclared]

/-- A declared property has no issues when its value is accepted, or when it is
absent and may be. -/
theorem parsedProperty_eq_nil_iff {members : Members} {p : Property Validator} :
    (parsedProperty members location p).1 = [] ↔
      (∀ x, members.get? p.name = some x →
        (p.validator.parseAt x (location.member p.name)).isOk = true) ∧
      (members.get? p.name = none → p.required = true → p.validator.acceptsAbsent = true) := by
  rw [List.eq_nil_iff_forall_not_mem]
  simp only [mem_issues_parsedProperty, isOk_iff_issues_eq_nil, List.eq_nil_iff_forall_not_mem]
  constructor
  · intro h
    -- an issue of either kind would be one of the property
    refine ⟨fun x hx issue hi => h issue (.inl ⟨x, hx, hi⟩), fun hnone hrequired => ?_⟩
    by_contra habsent
    exact h _ (.inr ⟨hnone, hrequired, Bool.eq_false_iff.mpr habsent, rfl⟩)
  · intro h issue hissue
    obtain ⟨hpresent, habsent⟩ := h
    rcases hissue with ⟨x, hx, hi⟩ | ⟨hnone, hrequired, hnot, -⟩
    · exact hpresent x hx issue hi
    · rw [habsent hnone hrequired] at hnot
      cases hnot

/-- Other members have no issues when they are accepted, or are none where none
may be. -/
theorem parsedOthers_eq_nil_iff {additional : Additional Validator} {others : Members} :
    (parsedOthers additional others location).1 = [] ↔
      (additional = .reject → others = []) ∧
      ∀ catchAll, additional = .schema catchAll → ∀ m ∈ others,
        (catchAll.parseAt m.2 (location.member m.1)).isOk = true := by
  cases additional with
  | ignore => simp [parsedOthers]
  | reject => simp [parsedOthers]
  | schema catchAll =>
      simp only [parsedOthers, List.flatMap_eq_nil_iff, isOk_iff_issues_eq_nil, reduceCtorEq,
        false_implies, true_and, Additional.schema.injEq, forall_eq']

/-- An object is accepted when its declared properties and its other members
are. -/
theorem isOk_object {properties : List (Property Validator)} {additional : Additional Validator} :
    ((object properties additional).parseAt value location).isOk = true ↔
      ∃ members : Members, value = .object members ∧
        (∀ p ∈ properties,
          (∀ x, members.get? p.name = some x →
            (p.validator.parseAt x (location.member p.name)).isOk = true) ∧
          (members.get? p.name = none → p.required = true →
            p.validator.acceptsAbsent = true)) ∧
        (additional = .reject → undeclared properties members = []) ∧
        ∀ catchAll, additional = .schema catchAll → ∀ m ∈ undeclared properties members,
          (catchAll.parseAt m.2 (location.member m.1)).isOk = true := by
  rw [parseAt_object]
  cases value with
  | object members =>
      simp only [isOk_accepted_iff, List.append_eq_nil_iff, List.flatMap_eq_nil_iff,
        parsedProperty_eq_nil_iff, parsedOthers_eq_nil_iff, Json.object.injEq, exists_eq_left']
  | _ => simp [Except.isOk, Except.toBool]

-- ====================================================== at any location

/-- Whether a value is accepted does not depend on its location. -/
theorem isOk_parseAt (v : Validator) (value : Json) : ∀ location location',
    (v.parseAt value location).isOk = true ↔ (v.parseAt value location').isOk = true := by
  induction v, value using ask_induction with
  | step v value ih =>
      intro location location'
      -- each node asks of its parts what it asks of them anywhere else
      cases v with
      | any => exact Iff.rfl
      | null => exact isOk_null.trans isOk_null.symm
      | boolean => exact isOk_boolean.trans isOk_boolean.symm
      | string rules => exact isOk_string.trans isOk_string.symm
      | number rules => exact isOk_number.trans isOk_number.symm
      | literal expected => exact isOk_literal.trans isOk_literal.symm
      | stringEnum allowed => exact isOk_stringEnum.trans isOk_stringEnum.symm
      | array items bounds =>
          rw [isOk_array, isOk_array]
          refine exists_congr fun values => and_congr_right fun heq => and_congr_right fun _ =>
            forall₂_congr fun e he => ?_
          subst heq
          exact ih _ _ (.item (List.fst_mem_of_mem_zipIdx he)) _ _
      | object properties additional =>
          rw [isOk_object, isOk_object]
          refine exists_congr fun members => and_congr_right fun heq => and_congr ?_ ?_
          · subst heq
            refine forall₂_congr fun p hp => and_congr ?_ Iff.rfl
            exact forall₂_congr fun x hx => ih _ _ (.member hp hx) _ _
          · subst heq
            refine and_congr Iff.rfl (forall₂_congr fun catchAll hadditional => ?_)
            subst hadditional
            exact forall₂_congr fun m hm => ih _ _ (.other (mem_undeclared.mp hm).1) _ _
      | union variants =>
          rw [isOk_union, isOk_union]
          refine exists_congr fun v => and_congr_right fun hv => ?_
          exact ih _ _ (.stays (.variant hv) _) _ _
      | optional inner =>
          rw [isOk_optional, isOk_optional]
          exact or_congr Iff.rfl (ih _ _ (.stays (.inner inner) _) _ _)
      | shared number target =>
          rw [parseAt_shared, parseAt_shared]
          exact ih _ _ (.stays (.target number target) _) _ _
      | deferred d =>
          cases ht : d.target with
          | error reason =>
              rw [parseAt_deferred_error value location ht,
                parseAt_deferred_error value location' ht]
              exact Iff.rfl
          | ok t =>
              rw [parseAt_deferred value location ht, parseAt_deferred value location' ht]
              exact ih _ _ (.stays (.resolved ht) _) _ _

/-- So a question at any location is one about the value alone. -/
theorem isOk_iff_check {v : Validator} :
    (v.parseAt value location).isOk = true ↔ v.check value = true := by
  rw [check_eq]
  exact isOk_parseAt v value location []

/-- No alternative yields a form just if each of them rejects the value. -/
theorem firstParsed?_eq_none_iff {variants : List Validator} :
    firstParsed? variants value location = none ↔ ∀ v ∈ variants, v.check value = false := by
  rw [firstParsed?, List.findSome?_eq_none_iff]
  refine forall₂_congr fun v _ => ?_
  rw [← Bool.not_eq_true, ← @isOk_iff_check value location v]
  cases v.parseAt value location <;> simp [Except.isOk, Except.toBool, Except.toOption]

-- ============================================================ acceptance

/-- Whether the validator accepts the data. -/
def accepts (v : Validator) : Data → Bool
  | some value => v.check value
  | none => v.acceptsAbsent

variable {data : Data}

/-- Only values are accepted where absence is not. -/
theorem accepts_iff_value {v : Validator} {P : Json → Prop} (habsent : v.acceptsAbsent = false)
    (h : ∀ value, v.check value = true ↔ P value) :
    v.accepts data = true ↔ ∃ value, data = some value ∧ P value := by
  cases data with
  | none =>
      show v.acceptsAbsent = true ↔ _
      simp [habsent]
  | some value =>
      show v.check value = true ↔ _
      simp [h]

@[simp] theorem accepts_any : any.accepts data = true := by
  cases data <;> rfl

/-- Absence is rejected by the nodes for a single type, so for them there is a value. -/
theorem accepts_null : null.accepts data = true ↔ ∃ value, data = some value ∧ value = .null :=
  accepts_iff_value rfl fun _ => by rw [check_eq, isOk_null]

theorem accepts_boolean :
    boolean.accepts data = true ↔ ∃ value, data = some value ∧ ∃ b, value = .bool b :=
  accepts_iff_value rfl fun _ => by rw [check_eq, isOk_boolean]

/-- A string that the rules allow, and never absence. -/
theorem accepts_string {rules : StringRules} :
    (string rules).accepts data = true ↔
      ∃ value, data = some value ∧ ∃ s, value = .string s ∧ rules.Allows s :=
  accepts_iff_value rfl fun _ => by rw [check_eq, isOk_string]

/-- A number that the rules allow. -/
theorem accepts_number {rules : NumberRules} :
    (number rules).accepts data = true ↔
      ∃ value, data = some value ∧ ∃ n, value = .number n ∧ rules.Allows n :=
  accepts_iff_value rfl fun _ => by rw [check_eq, isOk_number]

/-- Null as a literal accepts null and not absence, unlike what is optional. -/
theorem accepts_literal {expected : Json} :
    (literal expected).accepts data = true ↔
      ∃ value, data = some value ∧ value.same expected = true :=
  accepts_iff_value rfl fun _ => by rw [check_eq, isOk_literal]

theorem accepts_stringEnum {allowed : List String} :
    (stringEnum allowed).accepts data = true ↔
      ∃ value, data = some value ∧ ∃ s ∈ allowed, value = .string s :=
  accepts_iff_value rfl fun _ => by rw [check_eq, isOk_stringEnum]

/-- The items are there, so each of them is asked about as a value. -/
theorem accepts_array {items : Validator} {bounds : ItemBounds} :
    (array items bounds).accepts data = true ↔
      ∃ value, data = some value ∧ ∃ values, value = .array values ∧
        bounds.Allows values.length ∧ ∀ x ∈ values, items.accepts (some x) = true := by
  refine accepts_iff_value rfl fun value => ?_
  rw [check_eq, isOk_array]
  refine exists_congr fun values => and_congr_right fun _ => and_congr_right fun _ => ?_
  constructor
  · intro h x hx
    obtain ⟨i, hi⟩ := List.mem_iff_getElem?.mp hx
    exact isOk_iff_check.mp (h (x, i) (List.mk_mem_zipIdx_iff_getElem?.mpr hi))
  · intro h e he
    exact isOk_iff_check.mpr (h e.1 (List.fst_mem_of_mem_zipIdx he))

/-- An object conforms. This puts the two ways together in which members are looked at: by
declared name, and by going through those that are left. -/
theorem accepts_object {properties : List (Property Validator)}
    {additional : Additional Validator} :
    (object properties additional).accepts data = true ↔
      ∃ value, data = some value ∧ ∃ members, value = .object members ∧
        Conforms (fun v data => v.accepts data = true) properties additional members := by
  refine accepts_iff_value rfl fun value => ?_
  rw [check_eq, isOk_object]
  refine exists_congr fun members => and_congr_right fun _ => ?_
  simp only [isOk_iff_check]
  constructor
  · intro h
    obtain ⟨hproperties, hreject, hothers⟩ := h
    refine ⟨fun p hp => (hproperties p hp).1, fun p hp => (hproperties p hp).2, ?_, ?_⟩
    -- a member that no property declares would be left over
    · intro hadditional m hm
      by_contra hnone
      have hmem : m ∈ undeclared properties members :=
        mem_undeclared.mpr ⟨hm, fun p hp hname => hnone ⟨p, hp, hname⟩⟩
      rw [hreject hadditional] at hmem
      cases hmem
    · intro catchAll hadditional m hm hnone
      exact hothers catchAll hadditional m (mem_undeclared.mpr ⟨hm, hnone⟩)
  · intro h
    refine ⟨fun p hp => ⟨h.present p hp, h.absent p hp⟩, ?_, ?_⟩
    · intro hadditional
      refine List.eq_nil_iff_forall_not_mem.mpr fun m hm => ?_
      obtain ⟨hm, hnone⟩ := mem_undeclared.mp hm
      obtain ⟨p, hp, hname⟩ := h.declared hadditional m hm
      exact hnone p hp hname
    · intro catchAll hadditional m hm
      obtain ⟨hm, hnone⟩ := mem_undeclared.mp hm
      exact h.others catchAll hadditional m hm hnone

/-- Absence and values alike are accepted by an alternative. -/
theorem accepts_union {variants : List Validator} :
    (union variants).accepts data = true ↔ ∃ v ∈ variants, v.accepts data = true := by
  cases data with
  | none =>
      show (union variants).acceptsAbsent = true ↔ _
      rw [acceptsAbsent_union, List.any_eq_true]
      rfl
  | some value =>
      show (union variants).check value = true ↔ _
      simp only [check_eq, isOk_union, accepts]

/-- An enumeration of any values is a union of literals. -/
theorem accepts_literals {values : List Json} :
    (union (values.map literal)).accepts data = true ↔
      ∃ value, data = some value ∧ ∃ y ∈ values, value.same y = true := by
  simp only [accepts_union, List.mem_map, exists_exists_and_eq_and, accepts_literal]
  constructor
  · intro h
    obtain ⟨y, hy, value, hvalue, hsame⟩ := h
    exact ⟨value, hvalue, y, hy, hsame⟩
  · intro h
    obtain ⟨value, hvalue, y, hy, hsame⟩ := h
    exact ⟨y, hy, value, hvalue, hsame⟩

/-- One of texts compares as a union of literals would, since texts are equal as JSON only
if they are the same. -/
theorem accepts_texts {allowed : List String} :
    (stringEnum allowed).accepts data = true ↔
      ∃ value, data = some value ∧ ∃ y ∈ allowed.map Json.string, value.same y = true := by
  simp only [accepts_stringEnum, List.mem_map, exists_exists_and_eq_and, Json.same_string_iff]

/-- An enumeration accepts what is equal to one of its values, in whichever way
it compares them. -/
theorem accepts_enumeration {values : List Json} :
    (Compiler.enumeration values).accepts data = true ↔
      ∃ value, data = some value ∧ ∃ y ∈ values, value.same y = true := by
  -- one value is a literal, several are compared as texts if all are texts
  match values with
  | [] => exact accepts_literals
  | [y] =>
      show (literal y).accepts data = true ↔ _
      simp only [accepts_literal, List.mem_singleton, exists_eq_left]
  | x :: y :: rest =>
      cases hstrings : Constraint.strings? (x :: y :: rest) with
      | some allowed =>
          have henum : Compiler.enumeration (x :: y :: rest) = stringEnum allowed := by
            simp only [Compiler.enumeration, Constraint.choice, hstrings]
          rw [henum, Constraint.eq_map_of_strings? hstrings]
          exact accepts_texts
      | none =>
          have henum : Compiler.enumeration (x :: y :: rest)
              = union ((x :: y :: rest).map literal) := by
            simp only [Compiler.enumeration, Constraint.choice, hstrings]
          rw [henum]
          exact accepts_literals

/-- What is optional accepts absence and null besides. -/
theorem accepts_optional {inner : Validator} :
    (optional inner).accepts data = true ↔
      data = none ∨ data = some .null ∨ inner.accepts data = true := by
  cases data with
  | none => simp [accepts]
  | some value =>
      show (optional inner).check value = true ↔ _
      simp only [check_eq, isOk_optional, accepts, reduceCtorEq, Option.some.injEq, false_or]

@[simp] theorem accepts_shared {number : Nat} {target : Validator} :
    (shared number target).accepts data = target.accepts data := by
  cases data <;> rfl

/-- A deferred reference accepts what its target does. -/
theorem accepts_deferred {d : Deferred} {t : Validator} (h : d.target = .ok t) :
    (deferred d).accepts data = t.accepts data := by
  cases data with
  | none => exact acceptsAbsent_deferred h
  | some value =>
      show (deferred d).check value = t.check value
      rw [check_eq, check_eq, parseAt_deferred value [] h]

end Validator

end Conformance
