/-
The conforming form of a value.

Where a value stands shows in its issues and nowhere else. So what is made of a
value that conforms, its form, is a function of the validator and the value:
`form?`. This file says what it is for each kind of node. Some validators take a
value as it is or not at all. Arrays and objects are put together from the forms
of what is in them, and each member of an object has at most one validator that
says what becomes of it, its ruler.
-/
import Conformance.Proofs.Json.Names
import Conformance.Proofs.Validation.Acceptance

namespace Conformance

namespace Validator

/-- The conforming form of a value, if it conforms. -/
def form? (v : Validator) (x : Json) : Option Json := (v.parse x).toOption

variable {v : Validator} {x y : Json} {location : Location}

/-- The form is what a value is parsed to. -/
theorem parse_eq_ok : v.parse x = .ok y ↔ v.form? x = some y := by
  unfold form?
  cases v.parse x <;> simp [Except.toOption]

/-- A value is accepted just if it has a form. -/
theorem check_iff_form? : v.check x = true ↔ ∃ y, v.form? x = some y := by
  unfold check form?
  cases v.parse x <;> simp [Except.toOption, Except.isOk, Except.toBool]

/-- A value without a form is rejected. -/
theorem form?_eq_none_iff : v.form? x = none ↔ v.check x = false := by
  rw [← Bool.not_eq_true, check_iff_form?, ← Option.ne_none_iff_exists', not_not]

/-- Forms are found at the root, as parsing starts there. -/
theorem form?_eq_toOption : v.form? x = (v.parseAt x []).toOption := by
  unfold form?
  rw [parse_eq]
  cases v.parseAt x [] <;> rfl

-- ============================================================= locations

/-- Of gathered issues only counts whether there are any. -/
theorem toOption_accepted {issues : List Issue} :
    (accepted x issues).toOption = if issues = [] then some x else none := by
  unfold accepted
  cases issues <;> rfl

/-- So it is enough to compare the values that come out and whether there are issues, and
not the issues themselves. -/
theorem toOption_accepted_congr {issues issues' : List Issue} (hxy : x = y)
    (hok : (accepted x issues).isOk = true ↔ (accepted y issues').isOk = true) :
    (accepted x issues).toOption = (accepted y issues').toOption := by
  rw [isOk_accepted_iff, isOk_accepted_iff] at hok
  rw [toOption_accepted, toOption_accepted, hxy]
  simp only [hok]

/-- A union takes the first form that an alternative has. -/
theorem toOption_parseAt_union {variants : List Validator} :
    ((union variants).parseAt x location).toOption
      = variants.findSome? fun v => (v.parseAt x location).toOption := by
  rw [parseAt_union]
  show _ = firstParsed? variants x location
  cases firstParsed? variants x location <;> rfl

-- =============================================================== members

/-- The forms of the declared members, in the order of their declaration. -/
def declaredForms (properties : List (Property Validator)) (members : Members) : Members :=
  Members.collect Property.name (fun p => (members.get? p.name).bind p.validator.form?) properties

/-- The forms of the other members, where they are validated. -/
def otherForms (additional : Additional Validator) (others : Members) : Members :=
  match additional with
  | .schema catchAll => Members.collect Prod.fst (fun m => catchAll.form? m.2) others
  | _ => []

/-- Together they are the members of the form. -/
def formMembers (properties : List (Property Validator)) (additional : Additional Validator)
    (members : Members) : Members :=
  declaredForms properties members ++ otherForms additional (undeclared properties members)

/-- What a property contributes is the form of its member, if there is one. -/
theorem parsedProperty_snd {members : Members} {p : Property Validator}
    (h : ∀ x, members.get? p.name = some x →
      (p.validator.parseAt x (location.member p.name)).toOption = p.validator.form? x) :
    (parsedProperty members location p).2
      = (((members.get? p.name).bind p.validator.form?).map (p.name, ·)).toList := by
  unfold parsedProperty
  cases hget : members.get? p.name with
  | none =>
      dsimp only
      split <;> rfl
  | some x =>
      rw [Option.bind_some, ← h x hget]
      dsimp only
      cases p.validator.parseAt x (location.member p.name) <;> rfl

/-- What the other members contribute depends on the policy, and on forms where there is a
schema. -/
theorem parsedOthers_snd {additional : Additional Validator} {others : Members}
    (h : ∀ catchAll, additional = .schema catchAll → ∀ m ∈ others,
      (catchAll.parseAt m.2 (location.member m.1)).toOption = catchAll.form? m.2) :
    (parsedOthers additional others location).2 = otherForms additional others := by
  cases additional with
  | ignore => rfl
  | reject => rfl
  | schema catchAll => exact List.filterMap_congr fun m hm => by rw [h catchAll rfl m hm]

/-- If the forms of its members are found wherever they stand, so is that of an object.
The location shows in the issues only. -/
theorem toOption_parseAt_object {properties : List (Property Validator)}
    {additional : Additional Validator} {members : Members}
    (h : ∀ w y, Asks (object properties additional, some (.object members)) (w, some y) →
      ∀ location, (w.parseAt y location).toOption = w.form? y) :
    ((object properties additional).parseAt (.object members) location).toOption
      = if (object properties additional).check (.object members) = true then
          some (.object (Members.ofList (formMembers properties additional members)))
        else none := by
  have hproperties : (properties.flatMap fun p => (parsedProperty members location p).2)
      = declaredForms properties members := by
    rw [declaredForms, Members.collect, List.filterMap_eq_flatMap_toList]
    exact List.flatMap_congr fun p hp => parsedProperty_snd fun x hx => h _ _ (.member hp hx) _
  have hothers : (parsedOthers additional (undeclared properties members) location).2 = _ :=
    parsedOthers_snd fun catchAll hadditional m hm => by
      subst hadditional
      exact h _ _ (.other (mem_undeclared.mp hm).1) _
  -- whether there are issues does not depend on the location
  have hok : ((object properties additional).parseAt (.object members) location).isOk = true ↔ _ :=
    isOk_iff_check
  simp only [parseAt_object] at hok ⊢
  rw [isOk_accepted_iff] at hok
  rw [toOption_accepted, hproperties, hothers]
  simp only [hok]
  rfl

/-- The form of a value does not depend on where it stands. -/
theorem toOption_parseAt (v : Validator) (x : Json) : ∀ location,
    (v.parseAt x location).toOption = v.form? x := by
  induction v, x using ask_induction with
  | step v x ih =>
      intro location
      -- whether it is accepted does not, so it is left to compare what is accepted
      have hok := isOk_parseAt v x location []
      rw [form?_eq_toOption]
      cases faces v x with
      | any | null | boolean | optionalNull => rfl
      | string rules s =>
          simp only [parseAt_string] at hok ⊢
          exact toOption_accepted_congr rfl hok
      | number rules n =>
          simp only [parseAt_number] at hok ⊢
          exact toOption_accepted_congr rfl hok
      | literal expected =>
          simp only [parseAt_literal]
          split <;> rfl
      | stringEnum allowed s =>
          simp only [parseAt_stringEnum]
          split <;> rfl
      | array items bounds values =>
          simp only [parseAt_array] at hok ⊢
          refine toOption_accepted_congr (congrArg Json.array ?_) hok
          simp only [parsedItems, List.filterMap_map]
          refine List.filterMap_congr fun e he => ?_
          have hitem := ih _ _ (.item (List.fst_mem_of_mem_zipIdx he))
          exact (hitem _).trans (hitem _).symm
      | object properties additional members =>
          rw [toOption_parseAt_object ih, toOption_parseAt_object ih]
      | union variants =>
          rw [toOption_parseAt_union, toOption_parseAt_union]
          refine findSome?_congr fun v hv => ?_
          have hvariant := ih _ _ (.stays (.variant hv) _)
          exact (hvariant _).trans (hvariant _).symm
      | optional inner hx =>
          rw [parseAt_optional_of_ne hx, parseAt_optional_of_ne hx]
          exact (ih _ _ (.stays (.inner inner) _) _).trans form?_eq_toOption
      | shared number target =>
          rw [parseAt_shared, parseAt_shared]
          exact (ih _ _ (.stays (.target number target) _) _).trans form?_eq_toOption
      | deferred d =>
          cases ht : d.target with
          | error reason =>
              rw [parseAt_deferred_error _ _ ht, parseAt_deferred_error _ _ ht]
              rfl
          | ok t =>
              rw [parseAt_deferred _ _ ht, parseAt_deferred _ _ ht]
              exact (ih _ _ (.stays (.resolved ht) _) _).trans form?_eq_toOption
      | mistyped expected h =>
          rw [h.parseAt_eq, h.parseAt_eq]
          rfl

-- ============================================================== by node

/-- The validator takes a value as it is or not at all. -/
def IsPlain : Validator → Prop
  | array .. | object .. | union .. | optional .. | deferred .. | shared .. => False
  | _ => True

/-- Nodes that look at no parts return the value itself. -/
theorem eq_of_form?_of_isPlain (hv : v.IsPlain) (h : v.form? x = some y) : y = x := by
  -- an accepted value is returned as it is
  have haccepted : ∀ {z : Json} {issues : List Issue},
      (accepted z issues).toOption = some y → y = z := fun h => by
    rw [toOption_accepted] at h
    exact (Option.some.inj (Option.ite_none_right_eq_some.mp h).2).symm
  rw [form?_eq_toOption] at h
  cases faces v x with
  | array | object | union | optionalNull | optional | deferred | shared => exact hv.elim
  | any => exact (Option.some.inj h).symm
  | null | boolean =>
      cases h
      rfl
  | string rules s =>
      rw [parseAt_string] at h
      exact haccepted h
  | number rules n =>
      rw [parseAt_number] at h
      exact haccepted h
  | literal expected =>
      rw [parseAt_literal] at h
      split at h <;> cases h
      rfl
  | stringEnum allowed s =>
      rw [parseAt_stringEnum] at h
      dsimp only at h
      split at h <;> cases h
      rfl
  | mistyped expected htype =>
      rw [htype.parseAt_eq] at h
      cases h

/-- A literal takes the value and not its own one, from which it may differ in the order
of members. -/
theorem form?_literal (expected x : Json) :
    (literal expected).form? x = if x.same expected = true then some x else none := by
  rw [form?_eq_toOption, parseAt_literal]
  split <;> rfl

/-- The forms of a union are those of its alternatives, and the first counts. -/
theorem form?_union (variants : List Validator) (x : Json) :
    (union variants).form? x = variants.findSome? fun v => v.form? x := by
  rw [form?_eq_toOption, toOption_parseAt_union]
  exact findSome?_congr fun v _ => toOption_parseAt v x []

@[simp] theorem form?_optional_null (inner : Validator) :
    (optional inner).form? .null = some .null := rfl

/-- Wrappers add nothing, except for null at an optional node. -/
theorem form?_optional_of_ne (hx : x ≠ .null) (inner : Validator) :
    (optional inner).form? x = inner.form? x := by
  cases x with
  | null => exact absurd rfl hx
  | _ => rfl

@[simp] theorem form?_shared (number : Nat) (target : Validator) (x : Json) :
    (shared number target).form? x = target.form? x := rfl

/-- A deferred reference has the forms of its target. -/
theorem form?_deferred {d : Deferred} {t : Validator} (h : d.target = .ok t) (x : Json) :
    (deferred d).form? x = t.form? x := by
  rw [form?_eq_toOption, form?_eq_toOption, parseAt_deferred _ _ h]

/-- Without a target no value has a form. -/
theorem form?_deferred_error {d : Deferred} {reason : String} (h : d.target = .error reason)
    (x : Json) : (deferred d).form? x = none := by
  rw [form?_eq_toOption, parseAt_deferred_error _ _ h]
  rfl

/-- Items that raise no issues have all their forms. -/
theorem forall₂_form?_of_issues {items : Validator} : ∀ {values : List Json} {i : Nat},
    (parsedItems items values location i).flatMap Parsed.issues = [] →
    List.Forall₂ (fun x y => items.form? x = some y) values
      ((parsedItems items values location i).filterMap Except.toOption) := by
  intro values
  induction values with
  | nil => exact fun _ => .nil
  | cons x rest ih =>
      intro i h
      obtain ⟨hhead, htail⟩ := List.append_eq_nil_iff.mp h
      obtain ⟨y, hy⟩ := check_iff_form?.mp (isOk_iff_check.mp (isOk_iff_issues_eq_nil.mpr hhead))
      show List.Forall₂ _ _ (List.filterMap _ (_ :: _))
      rw [List.filterMap_cons_some ((toOption_parseAt items x _).trans hy)]
      exact .cons hy (ih htail)

/-- An array is accepted if its length is allowed and every item is accepted. -/
theorem check_array_iff {items : Validator} {bounds : ItemBounds} {values : List Json} :
    (array items bounds).check (.array values) = true ↔
      bounds.Allows values.length ∧ ∀ x ∈ values, items.check x = true := by
  show (array items bounds).accepts (some (.array values)) = true ↔ _
  simp only [accepts_array, Option.some.injEq, exists_eq_left', Json.array.injEq]
  rfl

/-- What an array node has a form for is an array, and so is the form, with the forms of
the items in their places. -/
theorem exists_forms_of_array {items : Validator} {bounds : ItemBounds}
    (h : (array items bounds).form? x = some y) :
    ∃ xs ys, x = .array xs ∧ y = .array ys ∧ bounds.Allows xs.length ∧
      List.Forall₂ (fun x y => items.form? x = some y) xs ys := by
  rw [form?_eq_toOption, parseAt_array] at h
  cases x with
  | array values =>
      dsimp only at h
      rw [toOption_accepted] at h
      obtain ⟨hissues, hy⟩ := Option.ite_none_right_eq_some.mp h
      obtain ⟨hbounds, hitems⟩ := List.append_eq_nil_iff.mp hissues
      exact ⟨values, _, rfl, (Option.some.inj hy).symm, ItemBounds.check_eq_nil_iff.mp hbounds,
        forall₂_form?_of_issues hitems⟩
  | _ => cases h

/-- The form of an array has the forms of its items. -/
theorem form?_array_eq_some {items : Validator} {bounds : ItemBounds} :
    (array items bounds).form? x = some y ↔
      ∃ xs ys, x = .array xs ∧ y = .array ys ∧ bounds.Allows xs.length ∧
        List.Forall₂ (fun x y => items.form? x = some y) xs ys := by
  refine ⟨exists_forms_of_array, fun h => ?_⟩
  obtain ⟨xs, ys, rfl, rfl, hbounds, hforms⟩ := h
  have hcheck : (array items bounds).check (.array xs) = true := by
    refine check_array_iff.mpr ⟨hbounds, fun x hx => ?_⟩
    obtain ⟨y, _, hxy⟩ := exists_right_of_forall₂ hforms x hx
    exact check_iff_form?.mpr ⟨y, hxy⟩
  obtain ⟨y, hy⟩ := check_iff_form?.mp hcheck
  obtain ⟨_, zs, heq, rfl, -, hforms'⟩ := exists_forms_of_array hy
  cases heq
  have hunique : Relator.RightUnique fun x y => items.form? x = some y :=
    fun _ _ _ h h' => Option.some.inj (h.symm.trans h')
  rw [hy, hunique.forall₂ hforms hforms']

-- ============================================================== objects

/-- The validator for the members that are not declared, if there is one. -/
def catchAll? : Additional Validator → Option Validator
  | .schema catchAll => some catchAll
  | _ => none

/-- The validator that says what becomes of a member: the one declared for its
name, or the one for all others. -/
def ruler? (properties : List (Property Validator)) (additional : Additional Validator)
    (name : String) : Option Validator :=
  ((properties.find? (·.name == name)).map Property.validator).or (catchAll? additional)

section

variable {ps : List (Property Validator)} {a : Additional Validator} {ms : Members}
variable {name : String} {u : Validator}

/-- A name that is not declared is ruled by what the others get. -/
theorem ruler?_of_forall_ne (h : ∀ p ∈ ps, p.name ≠ name) : ruler? ps a name = catchAll? a := by
  have hfind : ps.find? (·.name == name) = none := List.find?_eq_none.mpr (by simpa using h)
  rw [ruler?, hfind]
  rfl

/-- A member is ruled by a property of its name, or by the catch-all where there is
no such property. -/
theorem ruler?_cases (h : ruler? ps a name = some u) :
    (∃ p ∈ ps, p.name = name ∧ p.validator = u) ∨
      (∀ p ∈ ps, p.name ≠ name) ∧ a = .schema u := by
  by_cases hdeclared : ∀ p ∈ ps, p.name ≠ name
  · rw [ruler?_of_forall_ne hdeclared] at h
    refine .inr ⟨hdeclared, ?_⟩
    cases a <;> cases h
    rfl
  · left
    unfold ruler? at h
    cases hfind : ps.find? (·.name == name) with
    | none => exact absurd (by simpa using List.find?_eq_none.mp hfind) hdeclared
    | some p =>
        rw [hfind] at h
        exact ⟨p, List.mem_of_find?_eq_some hfind, by simpa using List.find?_some hfind,
          Option.some.inj h⟩

/-- A declared name is ruled by its property. With names declared twice the first would
count, hence the assumption. -/
theorem ruler?_of_mem (hps : (ps.map Property.name).Nodup) {p : Property Validator} (hp : p ∈ ps) :
    ruler? ps a p.name = some p.validator := by
  unfold ruler?
  cases hfind : ps.find? (·.name == p.name) with
  | none => exact absurd (List.find?_eq_none.mp hfind p hp) (by simp)
  | some q =>
      have hname : q.name = p.name := by simpa using List.find?_some hfind
      rw [List.inj_on_of_nodup_map hps (List.mem_of_find?_eq_some hfind) hp hname]
      rfl

/-- A member is put to the question by its ruler. -/
theorem asks_of_ruler? {x : Json} (hget : ms.get? name = some x) (h : ruler? ps a name = some u) :
    Asks (object ps a, some (.object ms)) (u, some x) := by
  rcases ruler?_cases h with ⟨p, hp, rfl, rfl⟩ | ⟨-, rfl⟩
  · exact .member hp hget
  · exact .other (Members.mem_of_get? hget)

/-- An object is accepted when every member is by its ruler, none is without one
where none may be, and what is required is there or may be absent. -/
theorem check_object_iff (hps : (ps.map Property.name).Nodup) (hms : ms.names.Nodup) :
    (object ps a).check (.object ms) = true ↔
      (∀ name x u, ms.get? name = some x → ruler? ps a name = some u → u.check x = true) ∧
      (a = .reject → ∀ name ∈ ms.names, ruler? ps a name ≠ none) ∧
      ∀ p ∈ ps, ms.get? p.name = none → p.required = true →
        p.validator.acceptsAbsent = true := by
  -- what it is to conform has been said of members as they stand; here it is said of
  -- names
  have hconforms : (object ps a).check (.object ms) = true ↔
      Conforms (fun v data => v.accepts data = true) ps a ms := by
    show (object ps a).accepts (some (.object ms)) = true ↔ _
    simp [accepts_object]
  rw [hconforms]
  constructor
  · intro h
    refine ⟨fun name x u hget hruler => ?_, fun hreject name hname => ?_, h.absent⟩
    · rcases ruler?_cases hruler with ⟨p, hp, rfl, rfl⟩ | ⟨hne, rfl⟩
      · exact h.present p hp x hget
      · exact h.others u rfl _ (Members.mem_of_get? hget) hne
    · obtain ⟨x, hx⟩ := Members.mem_names_iff.mp hname
      obtain ⟨p, hp, hp'⟩ := h.declared hreject _ (Members.mem_of_get? hx)
      rw [← show p.name = name from hp', ruler?_of_mem hps hp]
      exact Option.some_ne_none _
  · intro h
    obtain ⟨hruled, hreject, habsent⟩ := h
    refine ⟨fun p hp x hget => hruled _ x _ hget (ruler?_of_mem hps hp), habsent, ?_, ?_⟩
    · intro ha m hm
      by_contra hnone
      have hne : ∀ p ∈ ps, p.name ≠ m.1 := fun p hp hname => hnone ⟨p, hp, hname⟩
      refine hreject ha m.1 (Members.mem_names_of_mem hm) ?_
      rw [ruler?_of_forall_ne hne, ha]
      rfl
    · intro catchAll ha m hm hne
      refine hruled m.1 m.2 catchAll ((Members.get?_eq_some_iff hms).mpr hm) ?_
      rw [ruler?_of_forall_ne hne, ha]
      rfl

-- ================================================== the form of an object

/-- The form has declared members under declared names only. -/
theorem names_declaredForms_subset : (declaredForms ps ms).names ⊆ ps.map Property.name :=
  (Members.names_collect_sublist ..).subset

/-- The others are under names that are not declared. -/
theorem forall_ne_of_mem_otherForms {m : String × Json}
    (hm : m ∈ otherForms a (undeclared ps ms)) : ∀ p ∈ ps, p.name ≠ m.1 := by
  cases a with
  | schema catchAll =>
      have hname := (Members.names_collect_sublist ..).subset (Members.mem_names_of_mem hm)
      obtain ⟨n, hn, hnm⟩ := List.mem_map.mp hname
      rw [← hnm]
      exact (mem_undeclared.mp hn).2
  | _ => cases hm

/-- So no name comes up twice in a form. -/
theorem nodup_names_formMembers (hps : (ps.map Property.name).Nodup) (hms : ms.names.Nodup) :
    (formMembers ps a ms).names.Nodup := by
  rw [formMembers, Members.names, List.map_append, List.nodup_append]
  refine ⟨hps.sublist (Members.names_collect_sublist ..), ?_, ?_⟩
  · cases a with
    | schema catchAll =>
        exact (hms.sublist (List.filter_sublist.map _)).sublist (Members.names_collect_sublist ..)
    | _ => exact List.nodup_nil
  · rintro name hname _ hother rfl
    obtain ⟨m, hm, rfl⟩ := List.mem_map.mp hother
    obtain ⟨p, hp, hpm⟩ := List.mem_map.mp (names_declaredForms_subset hname)
    exact forall_ne_of_mem_otherForms hm p hp hpm

/-- Under each name the form has what the ruler of that name makes of the member. -/
theorem get?_formMembers (hps : (ps.map Property.name).Nodup) (hms : ms.names.Nodup)
    (name : String) :
    (formMembers ps a ms).get? name
      = (ms.get? name).bind fun x => (ruler? ps a name).bind fun u => u.form? x := by
  rw [formMembers, Members.get?_append]
  by_cases hdeclared : ∃ p ∈ ps, p.name = name
  · obtain ⟨p, hp, rfl⟩ := hdeclared
    rw [declaredForms, Members.get?_collect_of_mem _ hps hp, ruler?_of_mem hps hp]
    -- the name is declared, so the others have nothing under it
    have hother : (otherForms a (undeclared ps ms)).get? p.name = none := by
      refine Members.get?_eq_none_iff.mpr fun hmem => ?_
      obtain ⟨m, hm, hpm⟩ := List.mem_map.mp hmem
      exact forall_ne_of_mem_otherForms hm p hp hpm.symm
    rw [hother, Option.or_none]
    rfl
  -- it is not, and what is found is among the others
  · have hne : ∀ p ∈ ps, p.name ≠ name := fun p hp hname => hdeclared ⟨p, hp, hname⟩
    rw [declaredForms, Members.get?_collect_of_forall_ne _ hne, ruler?_of_forall_ne hne,
      Option.none_or]
    cases a with
    | schema catchAll =>
        have hnodup : ((undeclared ps ms).map Prod.fst).Nodup :=
          hms.sublist (List.filter_sublist.map _)
        cases hget : ms.get? name with
        | none =>
            refine Members.get?_collect_of_forall_ne _ fun m hm hname => ?_
            exact Members.get?_eq_none_iff.mp hget
              (hname ▸ Members.mem_names_of_mem (mem_undeclared.mp hm).1)
        | some x =>
            have hmem : (name, x) ∈ undeclared ps ms :=
              mem_undeclared.mpr ⟨Members.mem_of_get? hget, hne⟩
            exact Members.get?_collect_of_mem _ hnodup hmem
    | _ => cases ms.get? name <;> rfl

/-- In particular, what is found in the form has come from a member of that name. -/
theorem get?_formMembers_eq_some (hps : (ps.map Property.name).Nodup) (hms : ms.names.Nodup)
    {y : Json} :
    (formMembers ps a ms).get? name = some y ↔
      ∃ x u, ms.get? name = some x ∧ ruler? ps a name = some u ∧ u.form? x = some y := by
  simp only [get?_formMembers hps hms, Option.bind_eq_some_iff, exists_and_left]

/-- A form has no names that the object did not have. -/
theorem names_formMembers_subset (hps : (ps.map Property.name).Nodup) (hms : ms.names.Nodup) :
    (formMembers ps a ms).names ⊆ ms.names := by
  intro name hname
  obtain ⟨y, hy⟩ := Members.mem_names_iff.mp hname
  obtain ⟨x, -, hx, -⟩ := (get?_formMembers_eq_some hps hms).mp hy
  exact Members.mem_names_iff.mpr ⟨x, hx⟩

/-- An object that is accepted has its formed members for its form. -/
theorem form?_object_eq_some (hps : (ps.map Property.name).Nodup) (hms : ms.names.Nodup)
    {y : Json} :
    (object ps a).form? (.object ms) = some y ↔
      (object ps a).check (.object ms) = true ∧ y = .object (formMembers ps a ms) := by
  rw [form?_eq_toOption, toOption_parseAt_object fun w y _ => toOption_parseAt w y,
    Members.ofList_of_nodup (nodup_names_formMembers hps hms), Option.ite_none_right_eq_some,
    Option.some.injEq, eq_comm (a := y)]

/-- Nothing but an object has a form for a validator of objects. -/
theorem exists_members_of_form? {x y : Json} (h : (object ps a).form? x = some y) :
    ∃ ms, x = .object ms := by
  cases x with
  | object ms => exact ⟨ms, rfl⟩
  | _ => cases h

end

end Validator

end Conformance
