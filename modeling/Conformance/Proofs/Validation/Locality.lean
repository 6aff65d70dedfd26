/-
Issues are local.

Arrays and objects report on what is in them one by one, and each answer goes into the
list of issues whether or not the others do. So if the value at a location is replaced,
the reports about other locations stay as they are, in the same order
(`reports_local`).

Two kinds of node answer for a value as a whole. A union reports that no alternative
accepts the value, and a literal that it is another one, in either case without going
into it. So nothing that is asked about a value on the way to the location may be one of
them (`OpenAbove`).

The proof follows the location, and at each value on the way it follows the validators
that pass it on. What lies off the way is asked the same in both runs.
-/
import Conformance.Proofs.Json.Replaced
import Conformance.Proofs.Validation.Reports

namespace Conformance

-- ================================================== reports off a location

/-- The report is neither at the location nor below it. -/
def Report.isOutside (l : Location) (report : Report) : Bool := !l.isPrefixOf report.place

/-- Nothing is outside the root. -/
@[simp] theorem Report.isOutside_nil (report : Report) : report.isOutside [] = false := rfl

@[simp] theorem Report.isOutside_inside (s : String) (l : Location) (report : Report) :
    (report.inside s).isOutside (s :: l) = report.isOutside l := by
  simp [isOutside, inside]

/-- The same is reported by both, but for what is at the location or below it. -/
def Alongside (l : Location) (f g : Location → List Issue) : Prop :=
  ∃ reports others, Placed f reports ∧ Placed g others ∧
    reports.filter (·.isOutside l) = others.filter (·.isOutside l)

namespace Alongside

variable {l : Location} {f g f' g' : Location → List Issue}

/-- What is placed agrees with itself. -/
theorem same (h : Placeable f) : Alongside l f f := by
  obtain ⟨reports, h⟩ := h
  exact ⟨reports, reports, h, h, rfl⟩

/-- Everything is at the root or below it. -/
theorem root (hf : Placeable f) (hg : Placeable g) : Alongside [] f g := by
  obtain ⟨reports, hf⟩ := hf
  obtain ⟨others, hg⟩ := hg
  refine ⟨reports, others, hf, hg, ?_⟩
  simp

/-- Reports of two parts agree if those of each part do. -/
theorem append (h : Alongside l f g) (h' : Alongside l f' g') :
    Alongside l (fun location => f location ++ f' location)
      (fun location => g location ++ g' location) := by
  obtain ⟨reports, others, hf, hg, heq⟩ := h
  obtain ⟨reports', others', hf', hg', heq'⟩ := h'
  refine ⟨reports ++ reports', others ++ others', hf.append hf', hg.append hg', ?_⟩
  rw [List.filter_append, List.filter_append, heq, heq']

/-- It is the same with the reports of a list of parts. -/
theorem flatMap {α : Type} {as : List α} {f g : α → Location → List Issue}
    (h : ∀ a ∈ as, Alongside l (f a) (g a)) :
    Alongside l (fun location => as.flatMap fun a => f a location)
      (fun location => as.flatMap fun a => g a location) := by
  induction as with
  | nil => exact same .nil
  | cons a rest ih =>
      have hrest := ih fun a ha => h a (List.mem_cons_of_mem _ ha)
      exact (h a (List.mem_cons_self ..)).append hrest

/-- What is reported alike of an item or a member is reported alike by what it is in. -/
theorem inside (h : Alongside l f g) (s : String) :
    Alongside (s :: l) (fun location => f (location ++ [s]))
      (fun location => g (location ++ [s])) := by
  obtain ⟨reports, others, hf, hg, heq⟩ := h
  refine ⟨_, _, hf.inside s, hg.inside s, ?_⟩
  simp only [List.filter_map, Function.comp_def, Report.isOutside_inside, heq]

end Alongside

namespace Validator

-- ========================================================== responsibility

/-- The second validator is asked about what stands at the location in the value that the
first is asked about. -/
inductive Responsible : Validator → Json → Location → Validator → Prop
  | self (v : Validator) (x : Json) : Responsible v x [] v
  | stays {v w u : Validator} {x : Json} {l : Location} (hstay : Stays v w)
      (h : Responsible w x l u) : Responsible v x l u
  | inside {v w u : Validator} {x y : Json} {s : String} {l : Location}
      (hask : AsksAt v x s w y) (h : Responsible w y l u) : Responsible v x (s :: l) u

/-- The validator answers for a value as a whole, without going into it. -/
inductive Whole : Validator → Prop
  | union (variants : List Validator) : Whole (.union variants)
  | literal (value : Json) : Whole (.literal value)

/-- No validator that is asked about a value above the location answers for it as a
whole. -/
def OpenAbove (v : Validator) (x : Json) (l : Location) : Prop :=
  ∀ front back, l = front ++ back → back ≠ [] → ∀ u, v.Responsible x front u → ¬ u.Whole

namespace OpenAbove

variable {v w : Validator} {x y : Json} {s : String} {l : Location}

/-- Nothing is above the root. -/
theorem nil (v : Validator) (x : Json) : v.OpenAbove x [] := by
  intro front back hl hback
  exact absurd (List.append_eq_nil_iff.mp hl.symm).2 hback

/-- The value itself is above the location, so its validator does not answer as a whole. -/
theorem not_whole (h : v.OpenAbove x (s :: l)) : ¬ v.Whole :=
  h [] (s :: l) rfl (fun h => nomatch h) v (.self v x)

/-- What is above a location for the validator that a value is passed on to is above it for
the first one. -/
theorem stays (h : v.OpenAbove x l) (hstay : Stays v w) : w.OpenAbove x l :=
  fun front back hl hback u hu => h front back hl hback u (.stays hstay hu)

/-- What is above the rest of a location inside an item or a member is above the whole
location. -/
theorem inside (h : v.OpenAbove x (s :: l)) (hask : AsksAt v x s w y) : w.OpenAbove y l := by
  intro front back hl hback u hu
  subst hl
  exact h (s :: front) back rfl hback u (.inside hask hu)

/-- Above a location there are the value itself and what is above the rest of the
location in what stands inside it. -/
theorem of_cons (hwhole : ¬ v.Whole) (hstays : ∀ w, Stays v w → w.OpenAbove x (s :: l))
    (hinside : ∀ w y, AsksAt v x s w y → w.OpenAbove y l) : v.OpenAbove x (s :: l) := by
  intro front back hl hback u hu
  cases hu with
  | self => exact hwhole
  | stays hstay hu => exact hstays _ hstay front back hl hback u hu
  | inside hask hu =>
      obtain ⟨rfl, htail⟩ := List.cons.inj hl
      exact hinside _ _ hask _ back htail hback u hu

end OpenAbove

-- ================================================================ locality

section

variable {s : String} {rest : Location} {y : Json}

/-- The validator reports alike about both values, but for what is at the location or
below it. -/
def Agrees (v : Validator) (l : Location) (x x' : Json) : Prop :=
  Alongside l (fun location => (v.parseAt x location).issues)
    (fun location => (v.parseAt x' location).issues)

theorem Agrees.same (v : Validator) (l : Location) (x : Json) : v.Agrees l x x :=
  Alongside.same (placeable_issues v x)

/-- An array agrees if its items do at the number that the location begins with. -/
theorem agrees_array {items : Validator} {bounds : ItemBounds} {values : List Json}
    (h : ∀ e ∈ values.zipIdx, toString e.2 = s → items.Agrees rest e.1 (e.1.replace rest y)) :
    (array items bounds).Agrees (s :: rest) (.array values)
      ((Json.array values).replace (s :: rest) y) := by
  unfold Agrees
  simp only [Json.replace, issues_array, List.length_map, List.length_zipIdx,
    Json.zipIdx_map_zipIdx, List.flatMap_map]
  refine .append (.same (bounds.placeable_check values.length)) (.flatMap fun e he => ?_)
  by_cases hs : toString e.2 = s
  · subst hs
    simp only [if_true]
    exact (h e he rfl).inside (toString e.2)
  · simp only [if_neg hs]
    exact .same ((placeable_issues items e.1).inside (toString e.2))

/-- A property agrees if its value does, where it has the name that the location begins
with. -/
theorem alongside_property {members : Members} {p : Property Validator}
    (h : ∀ z, members.get? p.name = some z → p.name = s →
      p.validator.Agrees rest z (z.replace rest y)) :
    Alongside (s :: rest) (fun location => (parsedProperty members location p).1)
      (fun location =>
        (parsedProperty (members.alter s fun z => z.replace rest y) location p).1) := by
  cases hget : members.get? p.name with
  | none =>
      -- a member that is not there is not replaced either
      have hnone : (members.alter s fun z => z.replace rest y).get? p.name = none := by
        rw [Members.get?_alter, hget, Option.map_none]
      have hsame : ∀ location,
          (parsedProperty (members.alter s fun z => z.replace rest y) location p).1
            = (parsedProperty members location p).1 := by
        intro location
        rw [issues_parsedProperty_none hnone, issues_parsedProperty_none hget]
      simp only [hsame]
      exact .same (placeable_missing hget)
  | some z =>
      -- it is there both times, with another value if the location begins with its name
      have hsome : (members.alter s fun z => z.replace rest y).get? p.name
          = some (if p.name = s then z.replace rest y else z) := by
        rw [Members.get?_alter, hget, Option.map_some]
      simp only [issues_parsedProperty_some hget, issues_parsedProperty_some hsome]
      by_cases hs : p.name = s
      · simp only [if_pos hs]
        subst hs
        exact (h z hget rfl).inside p.name
      · simp only [if_neg hs]
        exact .same ((placeable_issues p.validator z).inside p.name)

/-- Which members are not declared does not depend on their values. -/
theorem undeclared_alter (properties : List (Property Validator)) (members : Members)
    (f : Json → Json) :
    undeclared properties (members.alter s f) = (undeclared properties members).alter s f := by
  unfold undeclared Members.alter
  rw [List.filter_map]
  rfl

/-- The other members agree if they do under the name that the location begins with. -/
theorem alongside_others {additional : Additional Validator} {others : Members}
    (h : ∀ catchAll, additional = .schema catchAll → ∀ m ∈ others, m.1 = s →
      catchAll.Agrees rest m.2 (m.2.replace rest y)) :
    Alongside (s :: rest) (fun location => (parsedOthers additional others location).1)
      (fun location =>
        (parsedOthers additional (others.alter s fun z => z.replace rest y) location).1) := by
  cases additional with
  | ignore => exact .same .nil
  | reject =>
      -- only the names are reported, and those are as before
      have hnames : ∀ location,
          (parsedOthers .reject (others.alter s fun z => z.replace rest y) location).1
            = (parsedOthers .reject others location).1 := by
        intro location
        show List.map _ (List.map _ others) = List.map _ others
        rw [List.map_map]
        rfl
      simp only [hnames]
      exact .same (placeable_unknown others)
  | schema catchAll =>
      simp only [parsedOthers, Members.alter, List.flatMap_map]
      refine .flatMap fun m hm => ?_
      by_cases hs : m.1 = s
      · simp only [if_pos hs]
        subst hs
        exact (h catchAll rfl m hm rfl).inside m.1
      · simp only [if_neg hs]
        exact .same ((placeable_issues catchAll m.2).inside m.1)

/-- An object agrees if its members do under the name that the location begins with. -/
theorem agrees_object {properties : List (Property Validator)}
    {additional : Additional Validator} {members : Members}
    (hproperties : ∀ p ∈ properties, ∀ z, members.get? p.name = some z → p.name = s →
      p.validator.Agrees rest z (z.replace rest y))
    (hothers : ∀ catchAll, additional = .schema catchAll → ∀ m ∈ undeclared properties members,
      m.1 = s → catchAll.Agrees rest m.2 (m.2.replace rest y)) :
    (object properties additional).Agrees (s :: rest) (.object members)
      ((Json.object members).replace (s :: rest) y) := by
  unfold Agrees
  simp only [Json.replace, issues_object, undeclared_alter]
  exact .append (.flatMap fun p hp => alongside_property (hproperties p hp))
    (alongside_others hothers)

end

/-- Where nothing above the location answers as a whole, a validator reports alike whatever
stands there. The outer induction is on the location, and the inner one on the
validators that are asked about the same value. -/
theorem agrees_of_openAbove (y : Json) (l : Location) :
    ∀ {v : Validator} {x : Json}, v.OpenAbove x l → v.Agrees l x (x.replace l y) := by
  induction l with
  | nil => exact fun _ => .root (placeable_issues _ _) (placeable_issues _ _)
  | cons s rest ih =>
      intro v x h
      induction v using wellFounded_stays.induction with
      | _ v ihstays =>
          -- those that are asked about the same value agree by the inner induction
          have hstays : ∀ {w}, Stays v w → w.Agrees (s :: rest) x (x.replace (s :: rest) y) :=
            fun hstay => ihstays _ hstay (h.stays hstay)
          cases v with
          -- the two that answer as a whole are not above the location
          | union variants => exact absurd (.union variants) h.not_whole
          | literal value => exact absurd (.literal value) h.not_whole
          | any => exact Alongside.same .nil
          | null | boolean | string | number | stringEnum =>
              cases x <;> exact Agrees.same _ _ _
          -- what stands inside is asked about the rest of the location
          | array items bounds =>
              cases x with
              | array values =>
                  refine agrees_array fun e he hs => ?_
                  subst hs
                  exact ih (h.inside (.item he))
              | _ => exact Agrees.same _ _ _
          | object properties additional =>
              cases x with
              | object members =>
                  refine agrees_object (fun p hp z hget hs => ?_) fun catchAll heq m hm hs => ?_
                  · subst hs
                    exact ih (h.inside (.member hp hget))
                  · subst hs heq
                    exact ih (h.inside (.other hm))
              | _ => exact Agrees.same _ _ _
          -- and those that pass the value on answer as the next one does
          | optional inner =>
              cases x with
              | null => exact Agrees.same _ _ _
              | _ =>
                  show inner.Agrees _ _ _
                  exact hstays (.inner inner)
          | shared number target =>
              show target.Agrees _ _ _
              exact hstays (.target number target)
          | deferred d =>
              unfold Agrees
              cases ht : d.target with
              | error reason =>
                  simp only [parseAt_deferred_error _ _ ht]
                  exact .same (.single (.unresolvedReference d.reference) reason)
              | ok t =>
                  simp only [parseAt_deferred _ _ ht]
                  exact hstays (.resolved ht)

-- ================================================================= issues

/-- Issues are local. Where no union and no literal is asked about a value above the
location, a value that is put there changes no report about another location: what is
left without those at the location and below it is the same list. The issues of
parsing are the reports, each with its location for a path. -/
theorem reports_local {v : Validator} {x : Json} {l : Location} (h : v.OpenAbove x l) (y : Json) :
    ∃ reports others, v.Reports x reports ∧ v.Reports (x.replace l y) others ∧
      v.issues x = reports.map (·.issue []) ∧
      v.issues (x.replace l y) = others.map (·.issue []) ∧
      reports.filter (·.isOutside l) = others.filter (·.isOutside l) := by
  obtain ⟨reports, others, hreports, hothers, heq⟩ := agrees_of_openAbove y l h
  exact ⟨reports, others, hreports, hothers, Reports.issues_eq hreports,
    Reports.issues_eq hothers, heq⟩

/-- A chain of nodes, each with a label. -/
def chainSchema : Json :=
  .object
    [("$ref", .string "#/$defs/Node"),
     ("$defs", .object [("Node", .object
        [("type", .string "object"), ("required", .array [.string "label"]),
         ("properties", .object
           [("label", .object [("type", .string "string")]),
            ("next", .object [("$ref", .string "#/$defs/Node")])])])])]

/-- A chain of two nodes, the first without a label, the second with a number for one. -/
def chain : Json := .object [("next", .object [("label", .number (.whole 7))])]

/-- An object without a schema for other members asks about those that it declares. -/
theorem AsksAt.exists_property {properties : List (Property Validator)} {members : Members}
    {s : String} {w : Validator} {y : Json}
    (h : AsksAt (.object properties .ignore) (.object members) s w y) :
    ∃ p ∈ properties, p.name = s ∧ p.validator = w := by
  cases h with
  | member hp _ => exact ⟨_, hp, rfl, rfl⟩

theorem reports_local_chain : ∃ v, (compile chainSchema).result = .ok v ∧
    v.OpenAbove chain ["next", "label"] ∧
    ∃ reports others, v.Reports chain reports ∧
      v.Reports (.object [("next", .object [("label", .string "b")])]) others ∧
      reports.filter (·.isOutside ["next", "label"])
        = others.filter (·.isOutside ["next", "label"]) := by
  have hcompile : (compile chainSchema).result = .ok _ := rfl
  have hobject : ∀ {properties additional x s}, (object properties additional).OpenAbove x [s] :=
    .of_cons nofun nofun fun w y _ => .nil w y
  have hopen : ∀ v, (compile chainSchema).result = .ok v → v.OpenAbove chain ["next", "label"] := by
    intro v hv
    rw [hcompile] at hv
    cases hv
    -- the reference leads to the node
    refine .of_cons nofun ?_ nofun
    intro w hstay
    cases hstay
    refine .of_cons nofun nofun ?_
    intro w y hask
    -- of its two properties the location goes into the second
    obtain ⟨p, hp, hname, rfl⟩ := hask.exists_property
    rcases List.mem_cons.mp hp with rfl | hp
    · exact absurd hname (by decide)
    · cases List.mem_singleton.mp hp
      refine .of_cons nofun ?_ nofun
      intro w hstay
      cases hstay with
      | resolved ht =>
          cases ht
          exact hobject
  obtain ⟨reports, others, hreports, hothers, -, -, heq⟩ :=
    reports_local (hopen _ hcompile) (.string "b")
  exact ⟨_, hcompile, hopen _ hcompile, reports, others, hreports, hothers, heq⟩

end Validator

end Conformance
