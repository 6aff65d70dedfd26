/-
Objects whose properties may repeat a name.

What is compiled declares each property once. A validator that is put together otherwise
may declare some name several times, and then every one of these properties is asked about
the member of that name. All must accept it. The member is kept once, at the place of the
first property of its name, with what the last makes of it, since a name that is put in
again keeps its place and changes its value (`names_merge`, `get?_merge_reverse`).

The property of a name is the last one. It is the one that an index of names finds that
is filled in the order of declaration (`property?_eq_places`). Such an index holds places in
the list only, and has a name just if some property has it.
-/
import Conformance.Proofs.Validation.Forms
import Mathlib.Data.List.Induction

namespace Conformance

-- =============================================================== members

namespace Members

variable {members base top entries : Members} {name : String} {value : Json}

/-- A name that is put in comes last, unless it is there. -/
theorem names_insert (members : Members) (name : String) (value : Json) :
    (members.insert name value).names
      = if name ∈ members.names then members.names else members.names ++ [name] := by
  induction members with
  | nil => rfl
  | cons m rest ih =>
      obtain ⟨n, v⟩ := m
      rw [insert]
      by_cases hn : n = name
      · subst hn
        rw [if_pos rfl, if_pos (mem_names_of_mem (List.mem_cons_self ..))]
        rfl
      -- the first member is another, so the question is about the rest
      · have hmem : name ∈ names ((n, v) :: rest) ↔ name ∈ names rest := by
          show name ∈ n :: names rest ↔ _
          simp [Ne.symm hn]
        rw [if_neg hn]
        show n :: (insert rest name value).names = _
        rw [ih]
        simp only [hmem]
        split <;> rfl

/-- What is laid over an object adds the names that are not there, each where it comes
first. -/
theorem names_merge (base top : Members) :
    (base.merge top).names = base.names ++ (top.names.removeAll base.names).eraseDups := by
  induction top generalizing base with
  | nil => simp [merge, names, List.removeAll]
  | cons e rest ih =>
      obtain ⟨n, v⟩ := e
      show (merge (base.insert n v) rest).names
        = base.names ++ ((n :: names rest).removeAll base.names).eraseDups
      rw [ih, names_insert]
      by_cases hn : n ∈ base.names
      · rw [if_pos hn, List.cons_removeAll, if_neg (by simpa using hn)]
      -- the name is new, and from now on it is not
      · have hrest : (names rest).removeAll (base.names ++ [n])
            = ((names rest).removeAll base.names).filter fun b => !b == n := by
          simp only [List.removeAll, List.filter_filter]
          refine List.filter_congr fun b _ => ?_
          by_cases hb : b = n <;> simp [hb]
        rw [if_neg hn, List.cons_removeAll, if_pos (by simpa using hn), List.eraseDups_cons, hrest,
          List.append_assoc]
        rfl

/-- Of what is laid over an object, the last value of a name counts. -/
theorem get?_merge_reverse (base top : Members) (name : String) :
    (base.merge top).get? name = (Members.get? top.reverse name).or (base.get? name) := by
  induction top generalizing base with
  | nil => rfl
  | cons e rest ih =>
      obtain ⟨n, v⟩ := e
      show (merge (base.insert n v) rest).get? name = _
      rw [ih, List.reverse_cons, get?_append, Option.or_assoc]
      congr 1
      by_cases hn : n = name
      · subst hn
        rw [get?_insert_self, get?_cons_self]
        rfl
      · rw [get?_insert_of_ne hn, get?_cons_of_ne hn]
        rfl

/-- The names of a list of entries, each where it comes first. -/
theorem names_ofList (entries : Members) : (ofList entries).names = entries.names.eraseDups := by
  have h := names_merge [] entries
  rw [show names [] = [] from rfl, List.nil_append, List.removeAll_nil] at h
  exact h

/-- Under each name the last entry counts. -/
theorem get?_ofList (entries : Members) (name : String) :
    (ofList entries).get? name = Members.get? entries.reverse name := by
  have h := get?_merge_reverse [] entries name
  rw [show get? [] name = none from rfl, Option.or_none] at h
  exact h

section

variable {α : Type} (key : α → String) (value? : α → Option Json) {items : List α}

/-- The keys of those items that yield something. -/
theorem names_collect (items : List α) :
    (collect key value? items).names = (items.filter fun a => (value? a).isSome).map key := by
  induction items with
  | nil => rfl
  | cons a rest ih =>
      rw [collect] at ih
      rw [collect, List.filterMap_cons, List.filter_cons]
      cases value? a with
      | none => exact ih
      | some y => exact congrArg (key a :: ·) ih

/-- From the end, the same is collected the other way round. -/
theorem collect_reverse (items : List α) :
    (collect key value? items).reverse = collect key value? items.reverse :=
  (List.filterMap_reverse ..).symm

variable {key value?} in
/-- If no item of a name is without its value, the first of them gives the member. -/
theorem get?_collect_of_isSome (h : ∀ a ∈ items, key a = name → (value? a).isSome = true) :
    (collect key value? items).get? name = (items.find? (key · == name)).bind value? := by
  induction items with
  | nil => rfl
  | cons a rest ih =>
      rw [collect] at ih
      rw [collect, List.filterMap_cons]
      by_cases ha : key a = name
      · obtain ⟨y, hy⟩ := Option.isSome_iff_exists.mp (h a (List.mem_cons_self ..) ha)
        rw [List.find?_cons_of_pos (by simpa using ha), Option.bind_some, hy]
        exact ha ▸ get?_cons_self ..
      · rw [List.find?_cons_of_neg (by simpa using ha),
          ← ih fun b hb => h b (List.mem_cons_of_mem _ hb)]
        cases value? a with
        | none => rfl
        | some y => exact get?_cons_of_ne ha ..

end

end Members

-- ======================================================== kept members

namespace Validator

variable {ps : List (Property Validator)} {a : Additional Validator} {ms : Members}

/-- The names that are not declared, in the order of the object, where their members are
validated. -/
def otherNames (ps : List (Property Validator)) (a : Additional Validator) (ms : Members) :
    List String :=
  match a with
  | .schema _ => ms.names.filter fun name => !(ps.map Property.name).contains name
  | _ => []

/-- The names under which members that conform are kept: first the declared ones that are
there, once each and in the order of their first declarations. -/
def keptNames (ps : List (Property Validator)) (a : Additional Validator) (ms : Members) :
    List String :=
  ((ps.map Property.name).filter (· ∈ ms.names)).eraseDups ++ otherNames ps a ms

/-- What is kept of the members of an object. -/
structure Kept (ps : List (Property Validator)) (a : Additional Validator)
    (ms out : Members) : Prop where
  names : out.names = keptNames ps a ms
  nodup : out.names.Nodup
  declared : ∀ name p, (object ps a).property? name = some p → ∀ x, ms.get? name = some x →
    ∃ y, p.validator.parse x = .ok y ∧ out.get? name = some y
  others : ∀ catchAll, a = .schema catchAll → ∀ name, (object ps a).property? name = none →
    ∀ x, ms.get? name = some x → ∃ y, catchAll.parse x = .ok y ∧ out.get? name = some y

/-- What is left over has the names that are not declared. -/
theorem names_undeclared (ps : List (Property Validator)) (ms : Members) :
    (undeclared ps ms).names
      = ms.names.filter fun name => !(ps.map Property.name).contains name := by
  rw [undeclared, Members.names, Members.names, List.filter_map]
  refine congrArg (List.map Prod.fst) (List.filter_congr fun m _ => ?_)
  rw [Function.comp_apply, List.contains_map]
  congr 2
  funext p
  exact Bool.beq_comm

/-- No property is found just if the name is not declared. -/
theorem property?_eq_none_iff {name : String} :
    (object ps a).property? name = none ↔ ∀ p ∈ ps, p.name ≠ name := by
  show ps.reverse.find? (·.name == name) = none ↔ _
  simp [List.find?_eq_none]

/-- The property of a name is the last one in the list. -/
theorem property?_eq_some_iff {name : String} {p : Property Validator} :
    (object ps a).property? name = some p ↔
      ∃ front back, ps = front ++ p :: back ∧ p.name = name ∧ ∀ q ∈ back, q.name ≠ name := by
  show ps.reverse.find? (·.name == name) = some p ↔ _
  rw [List.find?_eq_some_iff_append]
  constructor
  · intro h
    obtain ⟨hname, back, front, hps, hback⟩ := h
    refine ⟨front.reverse, back.reverse, ?_, by simpa using hname, fun q hq => ?_⟩
    · rw [← List.reverse_reverse ps, hps]
      simp
    · simpa using hback q (List.mem_reverse.mp hq)
  · intro h
    obtain ⟨front, back, rfl, rfl, hback⟩ := h
    refine ⟨beq_self_eq_true _, back.reverse, front.reverse, by simp, fun q hq => ?_⟩
    simpa using hback q (List.mem_reverse.mp hq)

section

variable (hms : ms.names.Nodup)
  (hconforms : Conforms (fun v data => v.accepts data = true) ps a ms)
include hconforms

/-- Every property has a form of the member of its name. -/
theorem isSome_form_iff {p : Property Validator} (hp : p ∈ ps) :
    ((ms.get? p.name).bind p.validator.form?).isSome = true ↔ p.name ∈ ms.names := by
  rw [Members.mem_names_iff]
  cases hget : ms.get? p.name with
  | none => simp
  | some x =>
      obtain ⟨y, hy⟩ := check_iff_form?.mp (hconforms.present p hp x hget)
      rw [Option.bind_some, hy]
      simp

/-- Where the members conform, every declared name that is there comes out, as often as it
is declared. -/
theorem names_declaredForms :
    (declaredForms ps ms).names = (ps.map Property.name).filter (· ∈ ms.names) := by
  rw [declaredForms, Members.names_collect, List.filter_map]
  refine congrArg (List.map Property.name) (List.filter_congr fun p hp => ?_)
  rw [Bool.eq_iff_iff, isSome_form_iff hconforms hp]
  simp

/-- Of the others all come out or none. -/
theorem names_otherForms :
    (otherForms a (undeclared ps ms)).names = otherNames ps a ms := by
  cases a with
  | schema catchAll =>
      show (Members.collect ..).names = _
      rw [Members.names_collect, List.filter_eq_self.mpr]
      · exact names_undeclared ps ms
      · intro m hm
        obtain ⟨hm, hne⟩ := mem_undeclared.mp hm
        obtain ⟨y, hy⟩ := check_iff_form?.mp (hconforms.others catchAll rfl m hm hne)
        exact Option.isSome_iff_exists.mpr ⟨y, hy⟩
  | _ => rfl

include hms in
/-- So the names that are kept are these, in this order. The two groups share no name,
which is why they do not disturb each other. -/
theorem names_ofList_formMembers :
    (Members.ofList (formMembers ps a ms)).names = keptNames ps a ms := by
  have hnodup : (otherForms a (undeclared ps ms)).names.Nodup := by
    rw [names_otherForms hconforms]
    cases a with
    | schema catchAll => exact hms.filter _
    | _ => exact List.nodup_nil
  -- an undeclared name is not among the declared ones
  have hdisjoint : ∀ name ∈ (otherForms a (undeclared ps ms)).names,
      name ∉ (declaredForms ps ms).names := by
    intro name hother hdeclared
    obtain ⟨m, hm, rfl⟩ := List.mem_map.mp hother
    obtain ⟨p, hp, hpm⟩ := List.mem_map.mp (names_declaredForms_subset hdeclared)
    exact forall_ne_of_mem_otherForms hm p hp hpm
  have hremove : (otherForms a (undeclared ps ms)).names.removeAll (declaredForms ps ms).names
      = (otherForms a (undeclared ps ms)).names := by
    refine List.filter_eq_self.mpr fun name hname => ?_
    simpa using hdisjoint name hname
  rw [Members.names_ofList, formMembers, Members.names, List.map_append, List.eraseDups_append]
  show (declaredForms ps ms).names.eraseDups ++ (List.removeAll
    (otherForms a (undeclared ps ms)).names (declaredForms ps ms).names).eraseDups = _
  rw [hremove, eraseDups_of_nodup hnodup, names_declaredForms hconforms,
    names_otherForms hconforms]
  rfl

/-- Under a declared name the last property of the name says what is kept. -/
theorem get?_kept_of_property? {name : String} {p : Property Validator} {x : Json}
    (hp : (object ps a).property? name = some p) (hget : ms.get? name = some x) :
    (Members.ofList (formMembers ps a ms)).get? name = p.validator.form? x := by
  obtain ⟨front, back, hps, hname, -⟩ := property?_eq_some_iff.mp hp
  have hmem : p ∈ ps := by
    rw [hps]
    exact List.mem_append_right _ (List.mem_cons_self ..)
  -- the name is declared, so it is not found among the others
  have hother : Members.get? (otherForms a (undeclared ps ms)).reverse name = none := by
    refine Members.get?_eq_none_iff.mpr fun hmem' => ?_
    obtain ⟨m, hm, hmname⟩ := List.mem_map.mp hmem'
    exact forall_ne_of_mem_otherForms (List.mem_reverse.mp hm) p hmem (hname.trans hmname.symm)
  -- all properties of the name have a form, so the last of them counts
  have hforms : ∀ q ∈ ps.reverse, q.name = name →
      ((ms.get? q.name).bind q.validator.form?).isSome = true := by
    rintro q hq rfl
    refine (isSome_form_iff hconforms (List.mem_reverse.mp hq)).mpr ?_
    exact Members.mem_names_iff.mpr ⟨x, hget⟩
  have hfind : ps.reverse.find? (·.name == name) = some p := hp
  rw [Members.get?_ofList, formMembers, List.reverse_append, Members.get?_append, hother,
    Option.none_or, declaredForms, Members.collect_reverse, Members.get?_collect_of_isSome hforms,
    hfind, Option.bind_some, hname, hget, Option.bind_some]

include hms in
/-- Under any other name the catch-all does. -/
theorem get?_kept_of_schema {catchAll : Validator} (ha : a = .schema catchAll) {name : String}
    {x : Json} (hname : (object ps a).property? name = none) (hget : ms.get? name = some x) :
    (Members.ofList (formMembers ps a ms)).get? name = catchAll.form? x := by
  subst ha
  have hne := property?_eq_none_iff.mp hname
  -- the name is not declared, so it is not found among those
  have hdeclared : Members.get? (declaredForms ps ms).reverse name = none := by
    refine Members.get?_eq_none_iff.mpr fun hmem => ?_
    obtain ⟨m, hm, hmname⟩ := List.mem_map.mp hmem
    obtain ⟨p, hp, hpm⟩ := List.mem_map.mp
      (names_declaredForms_subset (Members.mem_names_of_mem (List.mem_reverse.mp hm)))
    exact hne p hp (hpm.trans hmname)
  have hnodup : ((undeclared ps ms).reverse.map Prod.fst).Nodup := by
    rw [List.map_reverse, List.nodup_reverse]
    exact hms.sublist (List.filter_sublist.map _)
  have hmem : (name, x) ∈ (undeclared ps ms).reverse :=
    List.mem_reverse.mpr (mem_undeclared.mpr ⟨Members.mem_of_get? hget, hne⟩)
  rw [Members.get?_ofList, formMembers, List.reverse_append, Members.get?_append, hdeclared,
    Option.or_none]
  show Members.get? (Members.collect ..).reverse name = _
  rw [Members.collect_reverse]
  exact Members.get?_collect_of_mem _ hnodup hmem

include hms in
/-- What is put together from the forms is what is to be kept. -/
theorem kept_ofList_formMembers : Kept ps a ms (Members.ofList (formMembers ps a ms)) where
  names := names_ofList_formMembers hms hconforms
  nodup := Members.nodup_names_merge List.nodup_nil
  declared := by
    intro name p hp x hget
    obtain ⟨front, back, hps, hname, -⟩ := property?_eq_some_iff.mp hp
    have hmem : p ∈ ps := by
      rw [hps]
      exact List.mem_append_right _ (List.mem_cons_self ..)
    obtain ⟨y, hy⟩ := check_iff_form?.mp (hconforms.present p hmem x (hname ▸ hget))
    refine ⟨y, parse_eq_ok.mpr hy, ?_⟩
    rw [get?_kept_of_property? hconforms hp hget, hy]
  others := by
    intro catchAll ha name hname x hget
    have hne := property?_eq_none_iff.mp hname
    have hmem := Members.mem_of_get? hget
    obtain ⟨y, hy⟩ := check_iff_form?.mp (hconforms.others catchAll ha _ hmem hne)
    refine ⟨y, parse_eq_ok.mpr hy, ?_⟩
    rw [get?_kept_of_schema hms hconforms ha hname hget, hy]

end

/-- What an object becomes. -/
theorem form?_object {y : Json} :
    (object ps a).form? (.object ms) = some y ↔
      Conforms (fun v data => v.accepts data = true) ps a ms ∧
        y = .object (Members.ofList (formMembers ps a ms)) := by
  have hcheck : (object ps a).check (.object ms) = true ↔
      Conforms (fun v data => v.accepts data = true) ps a ms := by
    show (object ps a).accepts (some (.object ms)) = true ↔ _
    simp [accepts_object]
  rw [form?_eq_toOption, toOption_parseAt_object fun w y _ => toOption_parseAt w y,
    Option.ite_none_right_eq_some, hcheck, Option.some.injEq, eq_comm (a := y)]

-- ================================================================ index

/-- An index of the names: where each of them stands in the list. It is filled in the
order of declaration, and a name that is there already gets the new place. -/
def places (ps : List (Property Validator)) : String → Option Nat :=
  ps.zipIdx.foldl (fun found e => Function.update found e.1.name (some e.2)) fun _ => none

/-- A property that is put behind the others takes over its name. -/
theorem places_append_singleton (ps : List (Property Validator)) (p : Property Validator) :
    places (ps ++ [p]) = Function.update (places ps) p.name (some ps.length) := by
  rw [places, List.zipIdx_append, List.foldl_append]
  simp [places]

/-- A place in the index is one in the list. -/
theorem lt_length_of_places (ps : List (Property Validator)) :
    ∀ name i, places ps name = some i → i < ps.length := by
  induction ps using List.reverseRecOn with
  | nil =>
      intro name i h
      cases h
  | append_singleton front p ih =>
      intro name i h
      rw [places_append_singleton] at h
      rw [List.length_append]
      by_cases hname : name = p.name
      · subst hname
        rw [Function.update_self] at h
        cases h
        exact Nat.lt_succ_self _
      · rw [Function.update_of_ne hname] at h
        exact Nat.lt_succ_of_lt (ih name i h)

/-- What the index leads to is the property of the name. -/
theorem property?_eq_places (ps : List (Property Validator)) (a : Additional Validator)
    (name : String) : (object ps a).property? name = (places ps name).bind (ps[·]?) := by
  show ps.reverse.find? (·.name == name) = _
  induction ps using List.reverseRecOn with
  | nil => rfl
  | append_singleton front p ih =>
      rw [List.reverse_append, places_append_singleton]
      show (p :: front.reverse).find? _ = _
      by_cases hname : name = p.name
      · subst hname
        rw [List.find?_cons_of_pos (by simp), Function.update_self, Option.bind_some,
          List.getElem?_concat_length]
      · rw [List.find?_cons_of_neg (by simpa using Ne.symm hname), ih,
          Function.update_of_ne hname]
        refine Option.bind_congr fun i hi => ?_
        exact (List.getElem?_append_left (lt_length_of_places front name i hi)).symm

/-- The index has no place just for names that are not declared. -/
theorem places_eq_none_iff {name : String} :
    places ps name = none ↔ ∀ p ∈ ps, p.name ≠ name := by
  rw [← property?_eq_none_iff (a := .ignore), property?_eq_places]
  cases hplace : places ps name with
  | none => simp
  | some i =>
      have hi := lt_length_of_places ps name i hplace
      simp [List.getElem?_eq_getElem hi]

end Validator

-- ========================================================= any properties

open Validator in
/-- Whatever the list of properties, an object parses just if its members conform to them,
and then exactly the right members are kept, in the right order. The property of a name is
the last of the list, and an index of places finds it without leaving the list. -/
theorem objects_keep_members (ps : List (Property Validator)) (a : Additional Validator)
    (ms : Members) (hms : ms.names.Nodup) :
    ((∃ y, (object ps a).parse (.object ms) = .ok y) ↔
      Conforms (fun v data => v.accepts data = true) ps a ms) ∧
    (∀ y, (object ps a).parse (.object ms) = .ok y → ∃ out, y = .object out ∧ Kept ps a ms out) ∧
    ∀ name,
      (∀ p, (object ps a).property? name = some p ↔
        ∃ front back, ps = front ++ p :: back ∧ p.name = name ∧ ∀ q ∈ back, q.name ≠ name) ∧
      (object ps a).property? name = (places ps name).bind (ps[·]?) ∧
      (∀ i, places ps name = some i → i < ps.length) ∧
      (places ps name = none ↔ ∀ p ∈ ps, p.name ≠ name) := by
  simp only [parse_eq_ok]
  refine ⟨?_, ?_, fun name => ⟨fun p => property?_eq_some_iff, property?_eq_places ps a name,
    lt_length_of_places ps name, places_eq_none_iff⟩⟩
  · simp only [form?_object, exists_and_left, exists_eq, and_true]
  · intro y hy
    obtain ⟨hconforms, rfl⟩ := form?_object.mp hy
    exact ⟨_, rfl, kept_ofList_formMembers hms hconforms⟩

/-- Two properties of one name each leave out what the other keeps: both must accept the
member, and what the second makes of it stands at the place of the first. -/
theorem objects_keep_members_repeated :
    (Members.names [("z", .null), ("a", .bool true),
      ("b", .object [("x", .null), ("y", .bool false)])]).Nodup ∧
    ∃ out : Members,
      (Validator.object
        [⟨"b", true, .object [⟨"x", false, .any⟩] .ignore⟩, ⟨"a", false, .boolean⟩,
          ⟨"b", false, .object [⟨"y", false, .any⟩] .ignore⟩] (.schema .null)).parse
        (.object [("z", .null), ("a", .bool true),
          ("b", .object [("x", .null), ("y", .bool false)])]) = .ok (.object out) ∧
      out.names = ["b", "a", "z"] ∧ out.get? "b" = some (.object [("y", .bool false)]) := by
  refine ⟨by decide, _, rfl, ?_, rfl⟩
  obtain ⟨-, hkept, -⟩ := objects_keep_members
    [⟨"b", true, .object [⟨"x", false, .any⟩] .ignore⟩, ⟨"a", false, .boolean⟩,
      ⟨"b", false, .object [⟨"y", false, .any⟩] .ignore⟩] (.schema .null)
    [("z", .null), ("a", .bool true), ("b", .object [("x", .null), ("y", .bool false)])]
    (by decide)
  -- the names are known from the theorem, the member by running the validator
  obtain ⟨out, hout, hkept⟩ := hkept _ rfl
  rw [Json.object.inj hout, hkept.names]
  decide

end Conformance
