/-
Schemas that ask for the same, and what they ask for.

Two compilations are compared in two ways: one of them begins with the same
schema, the other with one whose members are in another order. `Likeness` names
the two ways. From it comes what it means for schemas, pools and shapes to be
alike, and `shape?_like` says that alike schemas have alike shapes. For the
first way there is nothing to prove. For the second every reading of a keyword
is looked at once, and none of them sees the order of members.
-/
import Conformance.Proofs.Compiler.Expansion
import Conformance.Proofs.Json.Order

namespace Conformance

/-- How much alike two things are: they are the same, or the same up to the
order of members. -/
inductive Likeness where
  | same
  | reordered

/-- Properties that are related have the same names in the same order. -/
theorem names_eq_of_forall₂ {α β : Type} {R : α → β → Prop} {ps : List (Property α)}
    {qs : List (Property β)} (h : List.Forall₂ (Property.Rel R) ps qs) :
    ps.map Property.name = qs.map Property.name := by
  induction h with
  | nil => rfl
  | cons hhead _ ih => rw [List.map_cons, List.map_cons, hhead.1, ih]

/-- Properties that are declared in some order, each name once: every one has
its like among the others. -/
structure Property.Matched {α β : Type} (R : α → β → Prop) (ps : List (Property α))
    (qs : List (Property β)) : Prop where
  nodup : (ps.map Property.name).Nodup
  nodup' : (qs.map Property.name).Nodup
  forth : ∀ p ∈ ps, ∃ q ∈ qs, Property.Rel R p q
  back : ∀ q ∈ qs, ∃ p ∈ ps, Property.Rel R p q

/-- It does not matter which side is looked at first. -/
theorem Property.Matched.flip {α β : Type} {R : α → β → Prop} {ps : List (Property α)}
    {qs : List (Property β)} (h : Property.Matched R ps qs) :
    Property.Matched (fun b a => R a b) qs ps where
  nodup := h.nodup'
  nodup' := h.nodup
  forth := fun q hq => (h.back q hq).imp fun _ h => ⟨h.1, h.2.flip⟩
  back := fun p hp => (h.forth p hp).imp fun _ h => ⟨h.1, h.2.flip⟩

namespace Likeness

/-- The values are alike. -/
def Values : Likeness → Json → Json → Prop
  | same => Eq
  | reordered => Json.Reorders

/-- The properties are alike when what is declared for them is related. -/
def Properties {α β : Type} (R : α → β → Prop) :
    Likeness → List (Property α) → List (Property β) → Prop
  | same => List.Forall₂ (Property.Rel R)
  | reordered => Property.Matched R

section

variable {l : Likeness} {α β γ δ : Type} {R : α → β → Prop}
variable {ps : List (Property α)} {qs : List (Property β)}

/-- However the properties are alike, each of the second list has one in the first that it
goes with. -/
theorem Properties.exists_left (h : l.Properties R ps qs) {q : Property β} (hq : q ∈ qs) :
    ∃ p ∈ ps, Property.Rel R p q := by
  cases l with
  | same => exact exists_left_of_forall₂ h q hq
  | reordered => exact h.back q hq

/-- What is declared in the place of alike properties is alike. -/
theorem Properties.carried {P : α → γ → Prop} {Q : β → δ → Prop} {S : γ → δ → Prop}
    {vs : List (Property γ)} {ws : List (Property δ)} (h : l.Properties R ps qs)
    (hvs : List.Forall₂ (Property.Rel P) ps vs) (hws : List.Forall₂ (Property.Rel Q) qs ws)
    (himp : ∀ a b c d, R a b → P a c → Q b d → S c d) : l.Properties S vs ws := by
  -- one property by the other, by way of the two that are alike
  have hrel : ∀ {p q v w}, Property.Rel R p q → Property.Rel P p v → Property.Rel Q q w →
      Property.Rel S v w := fun hpq hpv hqw =>
    ⟨hpv.1.symm.trans (hpq.1.trans hqw.1), hpv.2.1.symm.trans (hpq.2.1.trans hqw.2.1),
      himp _ _ _ _ hpq.2.2 hpv.2.2 hqw.2.2⟩
  cases l with
  | same => exact forall₂_carried h hvs hws fun _ _ _ _ => hrel
  | reordered =>
      refine ⟨?_, ?_, fun v hv => ?_, fun w hw => ?_⟩
      · rw [← names_eq_of_forall₂ hvs]
        exact h.nodup
      · rw [← names_eq_of_forall₂ hws]
        exact h.nodup'
      -- from what is declared to the schema, across, and down again
      · obtain ⟨p, hp, hpv⟩ := exists_left_of_forall₂ hvs v hv
        obtain ⟨q, hq, hpq⟩ := h.forth p hp
        obtain ⟨w, hw, hqw⟩ := exists_right_of_forall₂ hws q hq
        exact ⟨w, hw, hrel hpq hpv hqw⟩
      · obtain ⟨q, hq, hqw⟩ := exists_left_of_forall₂ hws w hw
        obtain ⟨p, hp, hpq⟩ := h.back q hq
        obtain ⟨v, hv, hpv⟩ := exists_right_of_forall₂ hvs p hp
        exact ⟨v, hv, hrel hpq hpv hqw⟩

end

end Likeness

/-- What becomes of other members stays alike when it is replaced on both sides. -/
theorem Additional.Rel.carried {α β γ δ : Type} {R : α → β → Prop} {P : α → γ → Prop}
    {Q : β → δ → Prop} {S : γ → δ → Prop} {a : Additional α} {b : Additional β}
    {c : Additional γ} {d : Additional δ} (h : Additional.Rel R a b) (hc : Additional.Rel P a c)
    (hd : Additional.Rel Q b d) (himp : ∀ a b c d, R a b → P a c → Q b d → S c d) :
    Additional.Rel S c d := by
  cases h with
  | ignore =>
      cases hc
      cases hd
      exact .ignore
  | reject =>
      cases hc
      cases hd
      exact .reject
  | schema h =>
      cases hc with
      | schema hc =>
          cases hd with
          | schema hd => exact .schema (himp _ _ _ _ h hc hd)

/-- The shapes ask for the same of alike schemas. -/
inductive Shape.Like (l : Likeness) : Shape → Shape → Prop
  | anything : Like l .anything .anything
  | reference (target : String) : Like l (.reference target) (.reference target)
  | optional {x y : Json} (h : l.Values x y) : Like l (.optional x) (.optional y)
  | union {xs ys : List Json} (h : List.Forall₂ l.Values xs ys) : Like l (.union xs) (.union ys)
  | values {xs ys : List Json} (h : List.Forall₂ l.Values xs ys) :
      Like l (.values xs) (.values ys)
  | string (rules : StringRules) : Like l (.string rules) (.string rules)
  | number (rules : NumberRules) : Like l (.number rules) (.number rules)
  | boolean : Like l .boolean .boolean
  | null : Like l .null .null
  | array {x y : Json} (h : l.Values x y) (bounds : ItemBounds) :
      Like l (.array x bounds) (.array y bounds)
  | object {ps qs : List (Property Json)} {a b : Additional Json}
      (hproperties : l.Properties l.Values ps qs) (hadditional : Additional.Rel l.Values a b) :
      Like l (.object ps a) (.object qs b)

-- ============================================================== the same

/-- Lists are alike to themselves. -/
theorem forall₂_eq_refl {α : Type} (as : List α) : List.Forall₂ Eq as as :=
  List.forall₂_same.mpr fun _ _ => rfl

/-- Every shape is like itself, so that two compilations of one schema are a case of what
follows. -/
theorem Shape.Like.refl (shape : Shape) : shape.Like .same shape := by
  cases shape with
  | anything => exact .anything
  | reference target => exact .reference target
  | optional inner => exact .optional rfl
  | union alternatives => exact .union (forall₂_eq_refl _)
  | values list => exact .values (forall₂_eq_refl _)
  | string rules => exact .string rules
  | number rules => exact .number rules
  | boolean => exact .boolean
  | null => exact .null
  | array items bounds =>
      refine .array ?_ bounds
      exact rfl
  | object properties additional =>
      refine .object (List.forall₂_same.mpr fun _ _ => ⟨rfl, rfl, rfl⟩) ?_
      cases additional with
      | ignore => exact .ignore
      | reject => exact .reject
      | schema catchAll => exact .schema rfl

-- ================================================== keywords in any order

section

variable {ms ns : Members} (h : ms.Reorders ns)

include h

namespace Constraint

/-- A keyword is read by looking it up, and so the order of members has no part in it.
Only what is read counts and not the path that a warning would have. -/
theorem count_reorders (keyword : String) :
    (count ms keyword "").1 = (count ns keyword "").1 := by
  unfold count
  refine h.get?_induction keyword rfl fun x y hxy => ?_
  cases hxy <;> rfl

theorem number_reorders (keyword : String) (switch : Bool) :
    (number ms keyword "" switch).1 = (number ns keyword "" switch).1 := by
  unfold number
  refine h.get?_induction keyword rfl fun x y hxy => ?_
  cases switch <;> cases hxy <;> rfl

theorem isOn_reorders (keyword : String) : isOn ms keyword = isOn ns keyword := by
  unfold isOn
  refine h.get?_induction keyword rfl fun x y hxy => ?_
  cases hxy <;> rfl

theorem pattern_reorders : (pattern ms "").1 = (pattern ns "").1 := by
  unfold pattern
  refine h.get?_induction "pattern" rfl fun x y hxy => ?_
  cases hxy <;> rfl

theorem format_reorders (policy : FormatPolicy) : format ms policy = format ns policy := by
  unfold format
  refine h.get?_induction "format" rfl fun x y hxy => ?_
  cases policy <;> cases hxy <;> rfl

/-- The required names are a list, whose order is no order of members. -/
theorem required_reorders : (required ms "").1 = (required ns "").1 := by
  unfold required
  refine h.get?_induction "required" rfl fun x y hxy => ?_
  cases hxy with
  | array hitems =>
      show List.filterMap _ _ = List.filterMap _ _
      induction hitems with
      | nil => rfl
      | cons hhead _ ih => rw [List.filterMap_cons, List.filterMap_cons, hhead.string?_eq, ih]
  | _ => rfl

theorem lengthRules_reorders : (lengthRules ms "").1 = (lengthRules ns "").1 := by
  unfold lengthRules
  simp only [count_reorders h]

theorem itemBounds_reorders : (itemBounds ms "").1 = (itemBounds ns "").1 := by
  unfold itemBounds
  simp only [count_reorders h]

/-- Each of the rules for a string, an array or a number is read off a keyword of its own. -/
theorem numberRules_reorders (integer : Bool) :
    (numberRules ms integer "").1 = (numberRules ns integer "").1 := by
  unfold numberRules
  simp only [number_reorders h, isOn_reorders h]

end Constraint

end

-- ==================================================== the deciding keyword

/-- The same keyword decides, and holds the same up to the order of members. -/
inductive SchemaKind.Reorders : SchemaKind → SchemaKind → Prop
  | reference (target : String) : Reorders (.reference target) (.reference target)
  | union {xs ys : List Json} (h : List.Forall₂ Json.Reorders xs ys) :
      Reorders (.union xs) (.union ys)
  | typeList {xs ys : List Json} (h : List.Forall₂ Json.Reorders xs ys) :
      Reorders (.typeList xs) (.typeList ys)
  | enum {xs ys : List Json} (h : List.Forall₂ Json.Reorders xs ys) : Reorders (.enum xs) (.enum ys)
  | const {x y : Json} (h : x.Reorders y) : Reorders (.const x) (.const y)
  | primitive (type : PrimitiveType) : Reorders (.primitive type) (.primitive type)
  | implicitObject : Reorders .implicitObject .implicitObject
  | unconstrained : Reorders .unconstrained .unconstrained

namespace SchemaKind

variable {ms ns : Members} (h : ms.Reorders ns)

include h

/-- The type of a node is found under `type` if it is a name there. -/
theorem primitive?_reorders : primitive? ms = primitive? ns := by
  unfold primitive?
  refine h.get?_induction "type" rfl fun x y hxy => ?_
  cases hxy <;> rfl

/-- The kind of a node is decided by the keywords, tried one after the other. Each of the
following stands for one keyword and those behind it. -/
theorem ofType_reorders : (ofType ms).Reorders (ofType ns) := by
  unfold ofType
  rw [primitive?_reorders h]
  cases primitive? ns with
  | some type => exact .primitive type
  | none => exact h.get?_induction "properties" .unconstrained fun _ _ _ => .implicitObject

theorem ofValues_reorders : (ofValues ms).1.Reorders (ofValues ns).1 := by
  unfold ofValues
  refine h.get?_induction "const" ?type fun v w hvw => ?const
  case type =>
    refine h.get?_induction "enum" (ofType_reorders h) fun x y hxy => ?_
    cases hxy with
    | array hitems => exact .enum hitems
    | _ => exact ofType_reorders h
  case const =>
    refine h.get?_induction "enum" (.const hvw) fun x y hxy => ?_
    cases hxy with
    | array hitems => exact .enum hitems
    | _ => exact .const hvw

theorem ofTypes_reorders : (ofTypes ms).1.Reorders (ofTypes ns).1 := by
  unfold ofTypes
  refine h.get?_induction "type" (ofValues_reorders h) fun x y hxy => ?_
  cases hxy with
  | array hitems => exact .typeList hitems
  | _ => exact ofValues_reorders h

/-- Alternatives may have their members in another order themselves. -/
theorem ofUnion_reorders : (ofUnion ms).1.Reorders (ofUnion ns).1 := by
  unfold ofUnion
  refine h.get?_induction "anyOf" (ofTypes_reorders h) fun x y hxy => ?_
  cases hxy with
  | array hitems => exact .union hitems
  | _ => exact ofTypes_reorders h

/-- So the kind of a node does not depend on the order of its members. -/
theorem of_reorders : (of ms).1.Reorders (of ns).1 := by
  unfold of
  refine h.get?_induction "$ref" (ofUnion_reorders h) fun x y hxy => ?_
  cases hxy with
  | string target =>
      cases hempty : target.isEmpty with
      | true =>
          simp only [hempty, if_true]
          exact ofUnion_reorders h
      | false =>
          simp only [hempty, Bool.false_eq_true, if_false]
          exact .reference target
  | _ => exact ofUnion_reorders h

end SchemaKind

-- =========================================================== alternatives

namespace Compiler

/-- Whether an alternative is the only one that is not null does not depend on the
order of members. -/
theorem soleAlternative?_reorders {isNull : Json → Bool} {xs ys : List Json}
    (hnull : ∀ x y : Json, x.Reorders y → isNull x = isNull y)
    (h : List.Forall₂ Json.Reorders xs ys) :
    Option.Rel (fun a b => a.1.Reorders b.1) (soleAlternative? isNull xs)
      (soleAlternative? isNull ys) := by
  -- each alternative keeps its place, and whether it is null
  have hplaces : ∀ i, List.Forall₂ (fun a b : Json × Nat => a.1.Reorders b.1) (xs.zipIdx i)
      (ys.zipIdx i) := by
    induction h with
    | nil => exact fun _ => .nil
    | cons hhead _ ih => exact fun i => .cons hhead (ih (i + 1))
  have hleft := List.rel_filter (p := fun a => !isNull a.1) (q := fun a => !isNull a.1)
    (fun a b hab => by simp only [hnull a.1 b.1 hab]) (hplaces 0)
  unfold soleAlternative?
  rw [h.length_eq]
  generalize xs.zipIdx.filter _ = as, ys.zipIdx.filter _ = bs at hleft
  -- one is left on both sides, or none, or more than one
  cases hleft with
  | nil => exact .none
  | cons hhead hrest =>
      cases hrest with
      | nil =>
          show Option.Rel _ (ite _ _ _) (ite _ _ _)
          split
          · exact .some hhead
          · exact .none
      | cons _ _ => exact .none

/-- A schema of null stays one. -/
theorem isNullSchema_reorders {x y : Json} (h : x.Reorders y) :
    isNullSchema x = isNullSchema y := by
  cases h with
  | @object ms ns hnodup hnames hvalues =>
      have hms : ms.Reorders ns := .object hnodup hnames hvalues
      show ((ms.get? "type").bind Json.string? == _) = ((ns.get? "type").bind Json.string? == _)
      refine hms.get?_induction "type" rfl fun v w hvw => ?_
      simp only [Option.bind_some, hvw.string?_eq]
  | _ => rfl

/-- In a list of types a name stays the same. -/
theorem isNullName_reorders {x y : Json} (h : x.Reorders y) : isNullName x = isNullName y := by
  unfold isNullName
  rw [h.string?_eq]

variable {ms ns : Members}

/-- What is put together from reordered schemas is reordered. It is here that names must
be distinct, as a name that stands twice would leave more than one result. -/
theorem merged_reorders (h : ms.Reorders ns) {x y : Json} (hxy : x.Reorders y) :
    (merged ms x).Reorders (merged ns y) := by
  unfold merged
  cases hxy with
  | object hnodup hnames hvalues => exact (h.merge (.object hnodup hnames hvalues)).erase "anyOf"
  | _ => exact h.erase "anyOf"

/-- A type that is put over another is put in the same place. -/
theorem withType_reorders (h : ms.Reorders ns) {x y : Json} (hxy : x.Reorders y) :
    (withType ms x).Reorders (withType ns y) :=
  h.insert "type" hxy

end Compiler

-- ================================================================= shapes

namespace Shape

variable {ms ns : Members}

/-- An `anyOf` has the same shape on both sides, a union of the alternatives or what is
left beside null. -/
theorem ofVariants_reorders (h : ms.Reorders ns) {xs ys : List Json}
    (hvariants : List.Forall₂ Json.Reorders xs ys) :
    (ofVariants ms xs).Like .reordered (ofVariants ns ys) := by
  have hsole := Compiler.soleAlternative?_reorders
    (fun _ _ => Compiler.isNullSchema_reorders) hvariants
  unfold ofVariants
  generalize Compiler.soleAlternative? _ xs = a, Compiler.soleAlternative? _ ys = b at hsole
  cases hsole with
  | some hfound => exact .optional (Compiler.merged_reorders h hfound)
  | none => exact .union hvariants

/-- A list of types too. -/
theorem ofNames_reorders (h : ms.Reorders ns) {xs ys : List Json}
    (hnames : List.Forall₂ Json.Reorders xs ys) :
    (ofNames ms xs).Like .reordered (ofNames ns ys) := by
  have hsole := Compiler.soleAlternative?_reorders
    (fun _ _ => Compiler.isNullName_reorders) hnames
  unfold ofNames
  generalize Compiler.soleAlternative? _ xs = a, Compiler.soleAlternative? _ ys = b at hsole
  cases hsole with
  | some hfound => exact .optional (Compiler.withType_reorders h hfound)
  | none =>
      refine .union (List.forall₂_map_left_iff.mpr (List.forall₂_map_right_iff.mpr ?_))
      exact hnames.imp fun _ _ hxy => Compiler.withType_reorders h hxy

/-- A pattern that cannot be read leaves no shape on either side. -/
theorem pattern?_reorders (h : ms.Reorders ns) : pattern? ms = pattern? ns := by
  unfold pattern?
  rw [Constraint.pattern_reorders h]

/-- The rules for a string are the same, its pattern among them. -/
theorem stringRules?_reorders (formats : FormatPolicy) (h : ms.Reorders ns) :
    stringRules? formats ms = stringRules? formats ns := by
  unfold stringRules?
  rw [pattern?_reorders h, Constraint.lengthRules_reorders h, Constraint.format_reorders h]

/-- The schema for the items is the same up to the order of members. -/
theorem itemSchema_reorders (h : ms.Reorders ns) :
    (itemSchema ms).Reorders (itemSchema ns) := by
  unfold itemSchema
  refine h.get?_induction "items" .null fun x y hxy => ?_
  cases hxy with
  | object hnodup hnames hvalues => exact .object hnodup hnames hvalues
  | _ => exact .null

/-- Each declaration has its like among those that are in another order. -/
theorem exists_declaration {ds es : Members} (h : ds.Reorders es) (isRequired : String → Bool)
    {p : Property Json} (hp : p ∈ ds.map fun e => ⟨e.1, isRequired e.1, e.2⟩) :
    ∃ q ∈ es.map fun e => (⟨e.1, isRequired e.1, e.2⟩ : Property Json),
      Property.Rel Json.Reorders p q := by
  obtain ⟨e, he, rfl⟩ := List.mem_map.mp hp
  obtain ⟨y, hy, hxy⟩ := h.exists_get? ((Members.get?_eq_some_iff h.nodup).mpr he)
  exact ⟨_, List.mem_map_of_mem (Members.mem_of_get? hy), rfl, rfl, hxy⟩

/-- Properties are matched by name. They may stand in another order, as `properties` is an
object itself. -/
theorem declared_reorders (h : ms.Reorders ns) :
    Property.Matched Json.Reorders (declared ms) (declared ns) := by
  have hnone : Property.Matched Json.Reorders [] [] :=
    ⟨List.nodup_nil, List.nodup_nil, fun _ hp => absurd hp List.not_mem_nil,
      fun _ hq => absurd hq List.not_mem_nil⟩
  unfold declared
  rw [Constraint.required_reorders h]
  refine h.get?_induction "properties" hnone fun x y hxy => ?_
  -- `properties` counts only as an object
  cases hxy with
  | @object ds es hnodup hnames hvalues =>
      have hds : ds.Reorders es := .object hnodup hnames hvalues
      refine ⟨?_, ?_, fun p hp => exists_declaration hds _ hp, fun q hq => ?_⟩
      · rw [List.map_map]
        exact hds.nodup
      · rw [List.map_map]
        exact hds.symm.nodup
      · obtain ⟨p, hp, hname, hrequired, hxy⟩ := exists_declaration hds.symm _ hq
        exact ⟨p, hp, hname.symm, hrequired.symm, hxy.symm⟩
  | _ => exact hnone

/-- Undeclared members are dropped, rejected or given a schema, alike on both sides. -/
theorem additional_reorders (h : ms.Reorders ns) :
    Additional.Rel Json.Reorders (additional ms) (additional ns) := by
  unfold additional
  refine h.get?_induction "additionalProperties" .ignore fun x y hxy => ?_
  cases hxy with
  | null => exact .schema .null
  | bool b => cases b with
    | true => exact .ignore
    | false => exact .reject
  | object hnodup hnames hvalues => exact .schema (.object hnodup hnames hvalues)
  | _ => exact .ignore

/-- A node of one type has the same rules, and like parts. -/
theorem typed?_reorders (formats : FormatPolicy) (h : ms.Reorders ns) (type : PrimitiveType) :
    Option.Rel (Like .reordered) (typed? formats ms type) (typed? formats ns type) := by
  cases type with
  | string =>
      unfold typed?
      rw [stringRules?_reorders formats h]
      cases stringRules? formats ns with
      | none => exact .none
      | some rules => exact .some (.string rules)
  | number =>
      show Option.Rel _ (some (Shape.number _)) (some (Shape.number _))
      rw [Constraint.numberRules_reorders h false]
      exact .some (.number _)
  | integer =>
      show Option.Rel _ (some (Shape.number _)) (some (Shape.number _))
      rw [Constraint.numberRules_reorders h true]
      exact .some (.number _)
  | boolean => exact .some .boolean
  | null => exact .some .null
  | array =>
      show Option.Rel _ (some (Shape.array _ _)) (some (Shape.array _ _))
      rw [Constraint.itemBounds_reorders h]
      refine .some (.array ?_ _)
      exact itemSchema_reorders h
  | object => exact .some (.object (declared_reorders h) (additional_reorders h))

end Shape

/-- So nodes that differ in the order of members have like shapes. -/
theorem shape?_reorders (formats : FormatPolicy) {ms ns : Members} (h : ms.Reorders ns) :
    Option.Rel (Shape.Like .reordered) (shape? formats ms) (shape? formats ns) := by
  have hkind := SchemaKind.of_reorders h
  unfold shape?
  generalize (SchemaKind.of ms).1 = a, (SchemaKind.of ns).1 = b at hkind
  cases hkind with
  | reference target => exact .some (.reference target)
  | union hvariants => exact .some (Shape.ofVariants_reorders h hvariants)
  | typeList hnames => exact .some (Shape.ofNames_reorders h hnames)
  | enum hvalues => exact .some (.values hvalues)
  | const hxy => exact .some (.values (.cons hxy .nil))
  | primitive type => exact Shape.typed?_reorders formats h type
  | implicitObject => exact Shape.typed?_reorders formats h .object
  | unconstrained => exact .some .anything

-- ================================================================== alike

section

variable {l : Likeness} {ms ns : Members} {x y : Json}

/-- What is like a schema object is one. -/
theorem Likeness.Values.exists_members (h : l.Values (.object ms) y) : ∃ ns, y = .object ns := by
  cases l with
  | same =>
      cases h
      exact ⟨ms, rfl⟩
  | reordered =>
      cases h
      exact ⟨_, rfl⟩

/-- What is like anything else is no schema object. -/
theorem Likeness.Values.ne_object (h : l.Values x y) (hx : ∀ ms, x ≠ .object ms) :
    ∀ ns, y ≠ .object ns := by
  rintro ns rfl
  cases l with
  | same => exact hx ns h
  | reordered =>
      cases h
      exact hx _ rfl

/-- Alike schemas have alike shapes. -/
theorem shape?_like {formats : FormatPolicy} {shape : Shape}
    (h : l.Values (.object ms) (.object ns)) (hshape : shape? formats ms = some shape) :
    ∃ shape', shape? formats ns = some shape' ∧ shape.Like l shape' := by
  cases l with
  | same =>
      cases h
      exact ⟨shape, hshape, .refl shape⟩
  | reordered =>
      have hrel := shape?_reorders formats h
      rw [hshape] at hrel
      generalize shape? formats ns = found at hrel
      cases hrel with
      | some hlike => exact ⟨_, rfl, hlike⟩

variable {pool pool' : Definitions}

/-- The pools hold alike definitions. -/
def Likeness.Pools (l : Likeness) (pool pool' : Definitions) : Prop :=
  l.Values (.object pool.members) (.object pool'.members)

/-- What a node declares is reordered with it. -/
theorem declaredBy_reorders (h : ms.Reorders ns) :
    (Definitions.declaredBy ms).members.Reorders (Definitions.declaredBy ns).members := by
  have hnone : Members.Reorders [] [] := Members.Distinct.nil.reorders
  unfold Definitions.declaredBy
  refine h.get?_induction "$defs" ?_ fun x y hxy => ?_
  · refine h.get?_induction "definitions" hnone fun x y hxy => ?_
    cases hxy with
    | object hnodup hnames hvalues => exact .object hnodup hnames hvalues
    | _ => exact hnone
  · cases hxy with
    | object hnodup hnames hvalues => exact .object hnodup hnames hvalues
    | _ =>
        refine h.get?_induction "definitions" hnone fun x y hxy => ?_
        cases hxy with
        | object hnodup hnames hvalues => exact .object hnodup hnames hvalues
        | _ => exact hnone

/-- Whether there are members at all is seen in any order. -/
theorem isEmpty_reorders (h : ms.Reorders ns) : ms.isEmpty = ns.isEmpty := by
  have hlength : ms.names.length = ns.names.length := h.names.length_eq
  rw [Members.names, Members.names, List.length_map, List.length_map] at hlength
  rw [Bool.eq_iff_iff, List.isEmpty_iff_length_eq_zero, List.isEmpty_iff_length_eq_zero, hlength]

/-- The pool in force stays alike, whether the node declares one or leaves the one before. -/
theorem Likeness.Pools.inForce (hpool : l.Pools pool pool')
    (h : l.Values (.object ms) (.object ns)) : l.Pools (pool.inForce ms) (pool'.inForce ns) := by
  cases l with
  | same =>
      cases h
      obtain ⟨members⟩ := pool
      obtain ⟨members'⟩ := pool'
      cases hpool
      exact rfl
  | reordered =>
      have hempty : pool.isEmpty = pool'.isEmpty := isEmpty_reorders hpool
      unfold Definitions.inForce
      rw [hempty]
      split
      · exact declaredBy_reorders h
      · exact hpool

/-- A reference points at alike definitions. -/
theorem Likeness.Pools.resolve? (hpool : l.Pools pool pool') {target : String} {definition : Json}
    (h : pool.resolve? target = some definition) :
    ∃ definition', pool'.resolve? target = some definition' ∧ l.Values definition definition' := by
  cases l with
  | same =>
      obtain ⟨members⟩ := pool
      obtain ⟨members'⟩ := pool'
      cases hpool
      exact ⟨definition, h, rfl⟩
  | reordered => exact Members.Reorders.exists_get? hpool h

end

end Conformance
