/-
What an accepted value is made of, and why a value is rejected.

Arrays and objects are put together from what their items and members become, one after
the other, and what has become nothing is not there. It would be missing without a word if
some validator could reject a value and give no reason. None can (`explained_parseBy`), and
so nothing goes missing: an array that is accepted has what every item becomes, in its
place, and an object has what every member becomes that anything is said about.

For the same reason a union that rejects a value says why each of its alternatives does.
The summaries are gathered along the way, one for each alternative that has an issue to
show, and all of them have one.

What is found out about a deferred reference may depend on the state, and each part of a
value is looked at in a state of its own. So of a part it is said what some state makes of it
(`Answers`).
-/
import Conformance.Proofs.Validation.Properties

namespace Conformance

namespace Validator

-- ============================================================== answers

/-- In some state this is the answer of the computation. -/
def Answers {σ α : Type} (step : StateM σ α) (a : α) : Prop := ∃ s, (step.run s).1 = a

section

variable {σ α : Type} {P Q : α → Prop} {step : StateM σ α}

theorem always_answers (step : StateM σ α) : Always (Answers step) step := fun s => ⟨s, rfl⟩

theorem Always.and (hP : Always P step) (hQ : Always Q step) :
    Always (fun a => P a ∧ Q a) step :=
  fun s => ⟨hP s, hQ s⟩

theorem Always.mono (h : ∀ a, P a → Q a) (hP : Always P step) : Always Q step :=
  fun s => h _ (hP s)

end

section

variable {σ : Type} {absent : Deferred → StateM σ Bool}
variable {enter : Deferred → Json → Location → StateM σ Parsed}
variable {parse : Json → Location → StateM σ Parsed}

-- ================================================================ items

/-- The second value is what the first becomes, somewhere and in some state. -/
def Yields (parse : Json → Location → StateM σ Parsed) (x y : Json) : Prop :=
  ∃ location, Answers (parse x location) (.ok y)

/-- If there are no issues, there is a form for every item. -/
theorem forall₂_of_parseItems (hparse : ∀ x location, Always Explained (parse x location))
    (location : Location) (items : List Json) :
    ∀ i, Always (fun found => found.1 = [] → List.Forall₂ (Yields parse) items found.2)
      (parseItems parse location i items) := by
  induction items with
  | nil => exact fun i => .pure fun _ => .nil
  | cons item rest ih =>
      intro i
      have hitem := (hparse item (location.item i)).and (always_answers _)
      refine .bind hitem fun found hfound => .bind (ih (i + 1)) fun others hothers => ?_
      obtain ⟨hexplained, hanswers⟩ := hfound
      cases found with
      | ok y => exact .pure fun hnil => .cons ⟨_, hanswers⟩ (hothers hnil)
      | error own =>
          refine .pure fun hnil => ?_
          -- the item has left an issue
          obtain ⟨rfl, -⟩ := List.append_eq_nil_iff.mp hnil
          exact absurd rfl hexplained

-- ============================================================== members

/-- If there are no issues, every member is kept under its name. -/
theorem forall₂_of_parseMembers (hparse : ∀ x location, Always Explained (parse x location))
    (location : Location) (members : Members) :
    Always (fun found => found.1 = [] →
        List.Forall₂ (fun m kept => kept.1 = m.1 ∧ Yields parse m.2 kept.2) members found.2)
      (parseMembers parse location members) := by
  induction members with
  | nil => exact .pure fun _ => .nil
  | cons m rest ih =>
      obtain ⟨name, x⟩ := m
      have hmember := (hparse x (location.member name)).and (always_answers _)
      refine .bind hmember fun found hfound => .bind ih fun others hothers => ?_
      obtain ⟨hexplained, hanswers⟩ := hfound
      cases found with
      | ok y => exact .pure fun hnil => .cons ⟨rfl, _, hanswers⟩ (hothers hnil)
      | error own =>
          refine .pure fun hnil => ?_
          obtain ⟨rfl, -⟩ := List.append_eq_nil_iff.mp hnil
          exact absurd rfl hexplained

/-- What is kept of the members that the properties declare: for each property that has a
member what the member becomes, and nothing else. -/
structure KeptBy (parse : Validator → Json → Location → StateM σ Parsed)
    (ps : List (Property Validator)) (ms out : Members) : Prop where
  all : ∀ p ∈ ps, p.name ∈ ms.names → p.name ∈ out.names
  only : ∀ m ∈ out, ∃ p ∈ ps, p.name = m.1 ∧
    ∃ x, ms.get? p.name = some x ∧ Yields (parse p.validator) x m.2

variable {walk : Validator → Json → Location → StateM σ Parsed}
variable {p : Property Validator} {ps : List (Property Validator)} {ms out : Members}

/-- One more property keeps `own` of the members, unless it has an issue. -/
def Keeps (walk : Validator → Json → Location → StateM σ Parsed) (p : Property Validator)
    (ms : Members) (own : List Issue × Members) : Prop :=
  own.1 = [] → ∀ ps out, KeptBy walk ps ms out → KeptBy walk (p :: ps) ms (own.2 ++ out)

theorem KeptBy.nil : KeptBy walk [] ms [] where
  all := fun _ hp => absurd hp List.not_mem_nil
  only := fun _ hm => absurd hm List.not_mem_nil

/-- A property without a member keeps nothing. -/
theorem keeps_nothing (hget : ms.get? p.name = none) (issues : List Issue) :
    Keeps walk p ms (issues, []) := by
  intro _ ps out h
  constructor
  · intro q hq hname
    rcases List.mem_cons.mp hq with rfl | hq
    · exact absurd hname (Members.get?_eq_none_iff.mp hget)
    · exact h.all q hq hname
  · intro m hm
    obtain ⟨q, hq, hfrom⟩ := h.only m hm
    exact ⟨q, List.mem_cons_of_mem _ hq, hfrom⟩

/-- A property with a member keeps what the member becomes. -/
theorem keeps_member {x y : Json} (hget : ms.get? p.name = some x)
    (hy : Yields (walk p.validator) x y) : Keeps walk p ms ([], [(p.name, y)]) := by
  intro _ ps out h
  constructor
  · intro q hq hname
    rcases List.mem_cons.mp hq with rfl | hq
    · exact Members.mem_names_of_mem (List.mem_cons_self ..)
    · exact List.mem_cons_of_mem _ (h.all q hq hname)
  · intro m hm
    rcases List.mem_cons.mp hm with rfl | hm
    · exact ⟨p, List.mem_cons_self .., rfl, x, hget, hy⟩
    · obtain ⟨q, hq, hfrom⟩ := h.only m hm
      exact ⟨q, List.mem_cons_of_mem _ hq, hfrom⟩

/-- If there are no issues, every declared member is kept. -/
theorem keptBy_of_parseProperties
    (hwalk : ∀ v x location, Always Explained (parseWith absent enter v x location))
    (ps : List (Property Validator)) (ms : Members) (location : Location) :
    Always (fun found => found.1 = [] → KeptBy (parseWith absent enter) ps ms found.2)
      (parseProperties absent enter ps ms location) := by
  induction ps with
  | nil => exact .pure fun _ => .nil
  | cons p rest ih =>
      obtain ⟨name, required, v⟩ := p
      rw [parseProperties]
      -- the others come after what the property keeps, whatever it is
      have hothers : ∀ own, Keeps (parseWith absent enter) ⟨name, required, v⟩ ms own →
          Always (fun found => found.1 = [] →
              KeptBy (parseWith absent enter) (⟨name, required, v⟩ :: rest) ms found.2)
            (do
              let found ← parseProperties absent enter rest ms location
              return (own.1 ++ found.1, own.2 ++ found.2)) := by
        intro own hown
        refine .bind ih fun others hrest => .pure fun hnil => ?_
        obtain ⟨hnone, hnil⟩ := List.append_eq_nil_iff.mp hnil
        exact hown hnone _ _ (hrest hnil)
      cases hget : Members.get? ms name with
      | some x =>
          have hmember := (hwalk v x (location.member name)).and (always_answers _)
          refine .bind hmember fun found hfound => ?_
          obtain ⟨hexplained, hanswers⟩ := hfound
          cases found with
          | ok y => exact hothers _ (keeps_member hget ⟨_, hanswers⟩)
          | error issues =>
              refine hothers _ fun hnil => ?_
              cases (show issues = [] from hnil)
              exact absurd rfl hexplained
      | none =>
          cases required with
          | false => exact hothers _ (keeps_nothing hget _)
          | true =>
              refine .after fun accepts => ?_
              cases accepts with
              | true => exact hothers _ (keeps_nothing hget _)
              | false => exact hothers _ (keeps_nothing hget _)

/-- What is kept of the members that are not declared: all of them, if there is a validator
for them, and none if they are ignored. -/
structure OthersKept (parse : Validator → Json → Location → StateM σ Parsed)
    (a : Additional Validator) (others out : Members) : Prop where
  all : ∀ m ∈ others, a = .ignore ∨ m.1 ∈ out.names
  only : ∀ m ∈ out, ∃ v, a = .schema v ∧ ∃ x, (m.1, x) ∈ others ∧ Yields (parse v) x m.2

/-- If there are no issues, the other members are ignored, or there are none, or all of them
are kept. -/
theorem othersKept_of_parseOthers
    (hwalk : ∀ v x location, Always Explained (parseWith absent enter v x location))
    (a : Additional Validator) (others : Members) (location : Location) :
    Always (fun found => found.1 = [] → OthersKept (parseWith absent enter) a others found.2)
      (parseOthers absent enter a others location) := by
  cases a with
  | ignore =>
      exact .pure fun _ => ⟨fun _ _ => .inl rfl, fun _ hm => absurd hm List.not_mem_nil⟩
  | reject =>
      refine .pure fun hnil => ?_
      obtain rfl := List.map_eq_nil_iff.mp hnil
      exact ⟨fun _ hm => absurd hm List.not_mem_nil, fun _ hm => absurd hm List.not_mem_nil⟩
  | schema v =>
      refine .mono (fun found h hnil => ?_) (forall₂_of_parseMembers (hwalk v) location others)
      have hkept := h hnil
      constructor
      · intro m hm
        obtain ⟨e, he, hname, -⟩ := exists_right_of_forall₂ hkept m hm
        exact .inr (hname ▸ Members.mem_names_of_mem he)
      · intro e he
        obtain ⟨m, hm, hname, hyields⟩ := exists_left_of_forall₂ hkept e he
        exact ⟨v, rfl, m.2, hname ▸ hm, hyields⟩

/-- The validator that members of a name are for: that of a property of the name or, if there
is none, that of the other members. -/
def IsFor (ps : List (Property Validator)) (a : Additional Validator) (name : String)
    (v : Validator) : Prop :=
  (∃ p ∈ ps, p.name = name ∧ p.validator = v) ∨ ((∀ p ∈ ps, p.name ≠ name) ∧ a = .schema v)

theorem exists_mem_of_mem_names {entries : Members} {name : String} (h : name ∈ entries.names) :
    ∃ z, (Members.ofList entries).get? name = some z ∧ (name, z) ∈ entries := by
  have hreverse : name ∈ Members.names entries.reverse := by
    rw [Members.names, List.map_reverse]
    exact List.mem_reverse.mpr h
  obtain ⟨z, hz⟩ := Members.mem_names_iff.mp hreverse
  exact ⟨z, (Members.get?_ofList ..).trans hz, List.mem_reverse.mp (Members.mem_of_get? hz)⟩

section

variable {a : Additional Validator} {declared others : Members} {name : String} {x : Json}
variable (hdeclared : KeptBy walk ps ms declared)
  (hothers : OthersKept walk a (undeclared ps ms) others)
include hdeclared hothers

/-- Under a declared name there is what some property of the name makes of the member. -/
theorem kept_of_declared (hp : p ∈ ps) (hget : ms.get? p.name = some x) :
    ∃ v, IsFor ps a p.name v ∧
      ∃ z, (Members.ofList (declared ++ others)).get? p.name = some z ∧ Yields (walk v) x z := by
  have hname : p.name ∈ Members.names (declared ++ others) := by
    rw [Members.names, List.map_append]
    exact List.mem_append_left _ (hdeclared.all p hp (Members.mem_names_iff.mpr ⟨x, hget⟩))
  obtain ⟨z, hz, hmem⟩ := exists_mem_of_mem_names hname
  rcases List.mem_append.mp hmem with hmem | hmem
  · obtain ⟨q, hq, hqp, w, hw, hyields⟩ := hdeclared.only _ hmem
    have hqp : q.name = p.name := hqp
    rw [hqp, hget] at hw
    cases hw
    exact ⟨q.validator, .inl ⟨q, hq, hqp, rfl⟩, z, hz, hyields⟩
  · -- the others are not declared
    obtain ⟨v, -, w, hw, -⟩ := hothers.only _ hmem
    exact absurd rfl ((mem_undeclared.mp hw).2 p hp)

/-- Under any other name there is what the validator of other members makes of the member,
unless such members are ignored. -/
theorem kept_of_undeclared (hms : ms.names.Nodup) (hne : ∀ p ∈ ps, p.name ≠ name)
    (hget : ms.get? name = some x) :
    a = .ignore ∨ ∃ v, IsFor ps a name v ∧
      ∃ z, (Members.ofList (declared ++ others)).get? name = some z ∧ Yields (walk v) x z := by
  have hundeclared : (name, x) ∈ undeclared ps ms :=
    mem_undeclared.mpr ⟨Members.mem_of_get? hget, hne⟩
  refine (hothers.all _ hundeclared).imp_right fun hkept => ?_
  have hname : name ∈ Members.names (declared ++ others) := by
    rw [Members.names, List.map_append]
    exact List.mem_append_right _ hkept
  obtain ⟨z, hz, hmem⟩ := exists_mem_of_mem_names hname
  rcases List.mem_append.mp hmem with hmem | hmem
  · obtain ⟨q, hq, hqname, -⟩ := hdeclared.only _ hmem
    exact absurd hqname (hne q hq)
  · obtain ⟨v, hschema, w, hw, hyields⟩ := hothers.only _ hmem
    have hw := (Members.get?_eq_some_iff hms).mpr (mem_undeclared.mp hw).1
    rw [hget] at hw
    cases hw
    exact ⟨v, .inr ⟨hne, hschema⟩, z, hz, hyields⟩

end

-- ========================================================= alternatives

/-- What is told of an alternative that rejects the value. -/
def summary (first : Issue) (place : Nat) : String := s!"variant {place}: " ++ first.message

/-- Where no alternative accepts the value, each of them has a first issue, and the summaries
are those of these issues in their order. -/
theorem firsts_of_parseVariants
    (hwalk : ∀ v x location, Always Explained (parseWith absent enter v x location))
    (variants : List Validator) (x : Json) (location : Location) :
    ∀ tried reasons, Always (fun parsed => ∀ issues, parsed = .error issues →
        ∃ firsts : List Issue,
          List.Forall₂ (fun v first =>
            ∃ rest, Answers (parseWith absent enter v x location) (.error (first :: rest)))
            variants firsts ∧
          issues = [.noVariant (tried + variants.length)
            (reasons ++ (firsts.zipIdx tried).map fun e => summary e.1 e.2) location])
      (parseVariants absent enter variants tried reasons x location) := by
  induction variants with
  | nil =>
      intro tried reasons
      refine .pure fun issues h => ⟨[], .nil, ?_⟩
      rw [List.zipIdx_nil, List.map_nil, List.append_nil]
      exact (Except.error.inj h).symm
  | cons v rest ih =>
      intro tried reasons
      refine .bind ((hwalk v x location).and (always_answers _)) fun found hfound => ?_
      obtain ⟨hexplained, hanswers⟩ := hfound
      cases found with
      | ok y => exact .pure fun issues h => nomatch h
      | error own =>
          cases own with
          | nil => exact absurd rfl hexplained
          | cons first others =>
              refine .mono (fun parsed h issues herror => ?_) (ih (tried + 1) _)
              obtain ⟨firsts, hfirsts, rfl⟩ := h issues herror
              refine ⟨first :: firsts, .cons ⟨others, hanswers⟩ hfirsts, ?_⟩
              rw [List.length_cons, List.zipIdx_cons, List.map_cons, Nat.add_right_comm,
                Nat.add_assoc tried, List.append_assoc]
              rfl

end

-- ============================================================ the nodes

section

variable {σ : Type} (lookup : Lookup σ)

theorem accepted_eq_ok {x y : Json} {issues : List Issue} (h : accepted x issues = .ok y) :
    issues = [] ∧ y = x := by
  unfold accepted at h
  cases issues with
  | nil => exact ⟨rfl, (Except.ok.inj h).symm⟩
  | cons issue rest => cases h

/-- An array that is accepted has what every item becomes, in its place. -/
theorem items_of_parseBy (items : Validator) (bounds : ItemBounds) (x : Json)
    (location : Location) :
    Always (fun parsed => ∀ y, parsed = .ok y → ∃ xs ys, x = .array xs ∧ y = .array ys ∧
        List.Forall₂ (Yields (items.parseBy lookup)) xs ys)
      ((array items bounds).parseBy lookup x location) := by
  cases x with
  | array xs =>
      refine .bind (forall₂_of_parseItems (explained_parseBy lookup items) location xs 0)
        fun found hfound => .pure fun y hy => ?_
      obtain ⟨hnil, rfl⟩ := accepted_eq_ok hy
      exact ⟨xs, _, rfl, rfl, hfound (List.append_eq_nil_iff.mp hnil).2⟩
  | _ => exact .pure fun y hy => nomatch hy

/-- An object that is accepted has what every member becomes under its name, but for members
that are not declared and to be ignored. -/
theorem members_of_parseBy (ps : List (Property Validator)) (a : Additional Validator)
    {ms : Members} (hms : ms.names.Nodup) (location : Location) :
    Always (fun parsed => ∀ y, parsed = .ok y → ∃ out : Members, y = .object out ∧
        ∀ name x, ms.get? name = some x →
          ((∀ p ∈ ps, p.name ≠ name) ∧ a = .ignore) ∨
          ∃ v, IsFor ps a name v ∧ ∃ z, out.get? name = some z ∧ Yields (v.parseBy lookup) x z)
      ((object ps a).parseBy lookup (.object ms) location) := by
  refine .bind (keptBy_of_parseProperties (explained_parseBy lookup) ps ms location)
    fun declared hdeclared => ?_
  refine .bind (othersKept_of_parseOthers (explained_parseBy lookup) a (undeclared ps ms) location)
    fun others hothers => .pure fun y hy => ?_
  obtain ⟨hnil, rfl⟩ := accepted_eq_ok hy
  obtain ⟨hdeclared, hothers⟩ := (List.append_eq_nil_iff.mp hnil).imp hdeclared hothers
  refine ⟨_, rfl, fun name x hget => ?_⟩
  by_cases hname : ∃ p ∈ ps, p.name = name
  · obtain ⟨p, hp, rfl⟩ := hname
    exact .inr (kept_of_declared hdeclared hothers hp hget)
  · have hne : ∀ p ∈ ps, p.name ≠ name := fun p hp h => hname ⟨p, hp, h⟩
    exact (kept_of_undeclared hdeclared hothers hms hne hget).imp_left fun h => ⟨hne, h⟩

/-- A union that rejects a value has one summary for each alternative. -/
theorem summaries_of_parseBy (variants : List Validator) (x : Json) (location : Location) :
    Always (fun parsed => ∀ issues, parsed = .error issues → ∃ firsts : List Issue,
        List.Forall₂ (fun v first =>
          ∃ rest, Answers (v.parseBy lookup x location) (.error (first :: rest))) variants firsts ∧
        issues = [.noVariant variants.length (firsts.zipIdx.map fun e => summary e.1 e.2) location])
      ((union variants).parseBy lookup x location) := by
  refine .mono (fun parsed h issues herror => ?_)
    (firsts_of_parseVariants (explained_parseBy lookup) variants x location 0 [])
  obtain ⟨firsts, hfirsts, hissues⟩ := h issues herror
  rw [Nat.zero_add, List.nil_append] at hissues
  exact ⟨firsts, hfirsts, hissues⟩

end

-- ============================================================ rejections

/-- No validator rejects a value without an issue, whatever is found out about deferred
references and in whatever state, so no failure is empty. Hence what an array or an object is
made of is there when it is accepted, but for what is to be ignored, and of a union that rejects
a value there is one summary for each alternative, in their order. -/
theorem rejections_have_reasons {σ : Type} (lookup : Lookup σ) :
    (∀ v x location, Always
      (fun parsed => (∃ y, parsed = .ok y) ∨ ∃ first rest, parsed = .error (first :: rest))
      (parseBy lookup v x location)) ∧
    (∀ v data, Always (fun parsed => ∀ failure, parsed = .error failure → failure.issues ≠ [])
      (parseOptionalBy lookup v data)) ∧
    (∀ v x failure, parse v x = .error failure → failure.issues ≠ []) ∧
    (∀ items bounds x location, Always
      (fun parsed => ∀ y, parsed = .ok y → ∃ xs ys, x = .array xs ∧ y = .array ys ∧
        List.Forall₂ (Yields (parseBy lookup items)) xs ys)
      (parseBy lookup (.array items bounds) x location)) ∧
    (∀ ps a (ms : Members) location, ms.names.Nodup → Always
      (fun parsed => ∀ y, parsed = .ok y → ∃ out : Members, y = .object out ∧
        ∀ name x, ms.get? name = some x →
          ((∀ p ∈ ps, p.name ≠ name) ∧ a = .ignore) ∨
          ∃ v, IsFor ps a name v ∧ ∃ z, out.get? name = some z ∧ Yields (parseBy lookup v) x z)
      (parseBy lookup (.object ps a) (.object ms) location)) ∧
    ∀ variants x location, Always
      (fun parsed => ∀ issues, parsed = .error issues → ∃ firsts : List Issue,
        List.Forall₂ (fun v first =>
          ∃ rest, Answers (parseBy lookup v x location) (.error (first :: rest)))
          variants firsts ∧
        issues = [.noVariant variants.length (firsts.zipIdx.map fun e => summary e.1 e.2) location])
      (parseBy lookup (.union variants) x location) := by
  refine ⟨?_, failures_parseOptionalBy lookup, ?_, items_of_parseBy lookup, ?_,
    summaries_of_parseBy lookup⟩
  · intro v x location
    exact .mono (fun parsed h => h.cases) (explained_parseBy lookup v x location)
  · intro v x failure hfailure hnil
    have hparsed := parse_eq_error.mp hfailure
    rw [hnil] at hparsed
    exact parseAt_ne_error_nil v x [] hparsed
  · intro ps a ms location hms
    exact members_of_parseBy lookup ps a hms location

/-- An alternative that is a union without alternatives has its summary, and a member that has
its name from no property is kept. -/
theorem rejections_have_reasons_nested :
    (Members.names [("a", .bool true), ("b", .null)]).Nodup ∧
    (∃ out : Members,
      (object [⟨"a", true, .boolean⟩] (.schema .null)).parseAt
        (.object [("a", .bool true), ("b", .null)]) [] = .ok (.object out) ∧
      ∃ z, out.get? "b" = some z) ∧
    ∃ firsts : List Issue,
      List.Forall₂ (fun v first => ∃ rest,
        Answers (parseBy Deferred.direct v (.string "x") []) (.error (first :: rest)))
        [boolean, union []] firsts ∧
      (union [boolean, union []]).parseAt (.string "x") []
        = .error [.noVariant 2 (firsts.zipIdx.map fun e => summary e.1 e.2) []] := by
  obtain ⟨-, -, -, -, hmembers, hunion⟩ := rejections_have_reasons Deferred.direct
  refine ⟨by decide, ?_, ?_⟩
  · obtain ⟨out, hout, hkept⟩ := hmembers [⟨"a", true, .boolean⟩] (.schema .null)
      [("a", .bool true), ("b", .null)] [] (by decide) () _ rfl
    refine ⟨out, congrArg Except.ok hout, ?_⟩
    obtain ⟨-, h⟩ | ⟨v, -, z, hz, -⟩ := hkept "b" .null rfl
    · cases h
    · exact ⟨z, hz⟩
  · obtain ⟨firsts, hfirsts, hissues⟩ := hunion [boolean, union []] (.string "x") [] () _ rfl
    exact ⟨firsts, hfirsts, congrArg Except.error hissues⟩

end Validator

end Conformance
