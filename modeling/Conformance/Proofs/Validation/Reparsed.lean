/-
Parsing what parsing yields.

A form is accepted again, but it need not be its own form. An alternative of a
union may refuse a value for a member that the chosen alternative ignores. The
form lacks that member, so the earlier alternative takes it, and may leave out
more.

That is all that can go wrong. Choices are steady where no earlier alternative
makes anything else of what the chosen one made, and then a form is its own form,
down to the order of members. Where nothing is left out choices are steady,
since alternatives do not see the order that is left to differ. So each time a
form is parsed again, something is left out or nothing will be any more, and
there are no more times than there are values in it.
-/
import Mathlib.Logic.Relation
import Conformance.Proofs.Validation.Pruned
import Conformance.Proofs.Validation.Reordered

namespace Conformance

namespace Validator

-- =============================================================== choices

/-- What is made of the second value goes into what is made of the first: it is an
item, a member under its ruler, or the same value under the chosen alternative or
what stands behind. -/
inductive Follows : Validator × Json → Validator × Json → Prop
  | item {items : Validator} {bounds : ItemBounds} {xs : List Json} {x : Json} (hx : x ∈ xs) :
      Follows (array items bounds, .array xs) (items, x)
  | member {ps : List (Property Validator)} {a : Additional Validator} {ms : Members}
      {name : String} {x : Json} {u : Validator} (hx : ms.get? name = some x)
      (hu : ruler? ps a name = some u) : Follows (object ps a, .object ms) (u, x)
  | chosen {before after : List Validator} {v : Validator} {x : Json}
      (hbefore : ∀ u ∈ before, u.check x = false) (hv : v.check x = true) :
      Follows (union (before ++ v :: after), x) (v, x)
  | inner {inner : Validator} {x : Json} (hx : x ≠ .null) : Follows (optional inner, x) (inner, x)
  | target {number : Nat} {t : Validator} {x : Json} : Follows (shared number t, x) (t, x)
  | resolved {d : Deferred} {t : Validator} {x : Json} (ht : d.target = .ok t) :
      Follows (deferred d, x) (t, x)

/-- In each union on the way to the form, no earlier alternative makes anything else
of what the chosen one makes of its value. -/
def Steady (v : Validator) (x : Json) : Prop :=
  ∀ before w after z y, Relation.ReflTransGen Follows (v, x) (union (before ++ w :: after), z) →
    (∀ u ∈ before, u.check z = false) → w.parse z = .ok y →
    ∀ u ∈ before, ∀ y', u.parse y = .ok y' → y' = y

variable {v w : Validator} {x y z : Json}

/-- Each step that parsing follows is a question that it asks. -/
theorem Follows.asks (h : Follows (v, x) (w, z)) : Asks (v, some x) (w, some z) := by
  cases h with
  | item hx => exact .item hx
  | member hx hu => exact asks_of_ruler? hx hu
  | chosen => exact .stays (.variant (by simp)) _
  | inner => exact .stays (.inner _) _
  | target => exact .stays (.target ..) _
  | resolved ht => exact .stays (.resolved ht) _

/-- Choices that are steady stay so further in. -/
theorem Steady.follows (h : v.Steady x) (hstep : Follows (v, x) (w, z)) : w.Steady z :=
  fun before w after z y hpath => h before w after z y (.head hstep hpath)

-- ================================================================= forms

/-- The chosen alternative says what becomes of the value. -/
theorem form?_union_of_chosen {before after : List Validator}
    (hbefore : ∀ u ∈ before, u.check x = false) (h : v.form? x = some y) :
    (union (before ++ v :: after)).form? x = some y := by
  rw [form?_union]
  exact List.findSome?_eq_some_iff.mpr
    ⟨before, v, after, rfl, h, fun u hu => form?_eq_none_iff.mpr (hbefore u hu)⟩

/-- A union leaves what the chosen alternative leaves, if an earlier one does so too
or refuses it. -/
theorem form?_union_self {before after : List Validator}
    (hbefore : ∀ u ∈ before, ∀ y', u.form? y = some y' → y' = y) (h : v.form? y = some y) :
    (union (before ++ v :: after)).form? y = some y := by
  rw [form?_union, List.findSome?_append]
  cases hfound : before.findSome? fun u => u.form? y with
  | none => rw [Option.none_or, List.findSome?_cons, h]
  | some y' =>
      obtain ⟨u, hu, huy⟩ := List.exists_of_findSome?_eq_some hfound
      rw [hbefore u hu y' huy]
      rfl

section

variable {ps : List (Property Validator)} {a : Additional Validator} {ms : Members}

/-- The undeclared members of a form are the forms of the undeclared members. -/
theorem undeclared_formMembers :
    undeclared ps (formMembers ps a ms) = otherForms a (undeclared ps ms) := by
  have hdeclared : undeclared ps (declaredForms ps ms) = [] := by
    refine List.filter_eq_nil_iff.mpr fun m hm => ?_
    obtain ⟨p, hp, hname⟩ :=
      List.mem_map.mp (names_declaredForms_subset (Members.mem_names_of_mem hm))
    simpa using ⟨p, hp, hname⟩
  have hothers : undeclared ps (otherForms a (undeclared ps ms)) = _ :=
    List.filter_eq_self.mpr fun m hm => by simpa using forall_ne_of_mem_otherForms hm
  rw [formMembers, undeclared, List.filter_append]
  exact (congrArg₂ _ hdeclared hothers).trans (List.nil_append _)

/-- Where each member that is made is its own form, the members are made once, and in
their order. -/
theorem formMembers_formMembers (hps : (ps.map Property.name).Nodup) (hms : ms.names.Nodup)
    (h : ∀ name x u y, ms.get? name = some x → ruler? ps a name = some u → u.form? x = some y →
      u.form? y = some y) :
    formMembers ps a (formMembers ps a ms) = formMembers ps a ms := by
  -- equality of lists, so the two parts are compared in their order, not by look-up
  have hdeclared : declaredForms ps (formMembers ps a ms) = declaredForms ps ms := by
    refine List.filterMap_congr fun p hp => ?_
    dsimp only
    rw [get?_formMembers hps hms, ruler?_of_mem hps hp]
    cases hx : ms.get? p.name with
    | none => rfl
    | some x =>
        show Option.map _ ((p.validator.form? x).bind _) = Option.map _ (p.validator.form? x)
        cases hy : p.validator.form? x with
        | none => rfl
        | some y => rw [Option.bind_some, h p.name x p.validator y hx (ruler?_of_mem hps hp) hy]
  have hothers :
      otherForms a (otherForms a (undeclared ps ms)) = otherForms a (undeclared ps ms) := by
    cases a with
    | schema catchAll =>
        refine Members.collect_collect fun m hm y hy => ?_
        obtain ⟨hmem, hne⟩ := mem_undeclared.mp hm
        have hruler := ruler?_of_forall_ne (a := .schema catchAll) hne
        exact h m.1 m.2 catchAll y ((Members.get?_eq_some_iff hms).mpr hmem) hruler hy
    | _ => rfl
  rw [formMembers, hdeclared, undeclared_formMembers, hothers]
  rfl

end

/-- Where choices are steady a form is its own form. -/
theorem form?_form?_of_steady (hnames : v.DistinctNames) (hx : x.Distinct)
    (h : v.form? x = some y) : v.Steady x → v.form? y = some y := by
  refine form_induction ?plain ?array ?object ?union ?null ?optional ?shared ?deferred hnames hx h
  -- a single value is left as it is
  case plain =>
    intro v x hv _ hcheck _
    obtain ⟨y, hy⟩ := check_iff_form?.mp hcheck
    rwa [eq_of_form?_of_isPlain hv hy] at hy
  case array =>
    intro items bounds xs ys hbounds hforms hsteady
    refine form?_array_eq_some.mpr ⟨ys, ys, rfl, rfl, hforms.length_eq ▸ hbounds,
      List.forall₂_same.mpr fun y hy => ?_⟩
    obtain ⟨x, hx, -, ih⟩ := exists_left_of_forall₂ hforms y hy
    exact ih (hsteady.follows (.item hx))
  case object =>
    intro ps a ms hps hms hcheck ih hsteady
    -- each member that is kept is its own form
    have hown : ∀ name x u y, ms.get? name = some x → ruler? ps a name = some u →
        u.form? x = some y → u.form? y = some y := fun name x u y hx hu hy =>
      ih name x u y hx hu hy (hsteady.follows (.member hx hu))
    have hmembers := formMembers_formMembers hps hms.names hown
    refine (form?_object_eq_some hps (nodup_names_formMembers hps hms.names)).mpr
      ⟨check_formMembers hps hms.names hcheck fun name x u y hx hu hy => ?_, ?_⟩
    · exact check_iff_form?.mpr ⟨y, hown name x u y hx hu hy⟩
    · rw [hmembers]
  -- no earlier alternative accepts the form, so the same one is chosen
  case union =>
    intro before v after x y hbefore h ih hsteady
    refine form?_union_self (fun u hu y' hy' => ?_) (ih (hsteady.follows (.chosen hbefore ?_)))
    · exact hsteady before v after x y .refl hbefore (parse_eq_ok.mpr h) u hu y'
        (parse_eq_ok.mpr hy')
    · exact check_iff_form?.mpr ⟨y, h⟩
  case null => exact fun _ _ => rfl
  case optional =>
    intro inner x y hx _ ih hsteady
    by_cases hnull : y = .null
    · rw [hnull, form?_optional_null]
    · rw [form?_optional_of_ne hnull]
      exact ih (hsteady.follows (.inner hx))
  case shared => exact fun _ _ _ _ _ ih hsteady => ih (hsteady.follows .target)
  case deferred =>
    intro d t x y ht _ ih hsteady
    rw [form?_deferred ht]
    exact ih (hsteady.follows (.resolved ht))

-- ======================================================= nothing left out

/-- Where nothing is left out of the first value, nothing is of the second. -/
theorem reorders_of_follows (hnames : v.DistinctNames) (hstep : Follows (v, x) (w, z))
    (h : v.form? x = some y) (hxy : x.Reorders y) : ∃ f, w.form? z = some f ∧ z.Reorders f := by
  cases hstep with
  -- what stands at the same place in both lists
  | item hz =>
      obtain ⟨_, ys, heq, rfl, -, hforms⟩ := form?_array_eq_some.mp h
      cases heq
      cases hxy with
      | array hitems =>
          have hboth := hforms.mp (fun _ _ => And.intro) hitems
          obtain ⟨f, -, hf⟩ := exists_right_of_forall₂ hboth _ hz
          exact ⟨f, hf⟩
  | @member ps a ms name _ _ hz hu =>
      have hps := hnames ps a .self
      have hms : Members.Distinct ms := hxy.distinct
      obtain ⟨-, rfl⟩ := (form?_object_eq_some hps hms.names).mp h
      -- no name is lost, so the member is found in the form
      have hreorders : ms.Reorders (formMembers ps a ms) := hxy
      obtain ⟨f, hf, hzf⟩ := hreorders.exists_get? hz
      obtain ⟨_, _, hz', hu', hform⟩ := (get?_formMembers_eq_some hps hms.names).mp hf
      cases hz.symm.trans hz'
      cases hu.symm.trans hu'
      exact ⟨f, hform, hzf⟩
  | chosen hbefore hw =>
      obtain ⟨f, hf⟩ := check_iff_form?.mp hw
      cases h.symm.trans (form?_union_of_chosen hbefore hf)
      exact ⟨y, hf, hxy⟩
  | inner hz => exact ⟨y, (form?_optional_of_ne hz _).symm.trans h, hxy⟩
  | target => exact ⟨y, h, hxy⟩
  | resolved ht => exact ⟨y, (form?_deferred ht _).symm.trans h, hxy⟩

variable {R : Validator → Validator → Prop} (hR : ∀ v w, R v w → v.Alike .reordered R w)
  (hself : R v v)

include hR hself

/-- Choices are steady where nothing is left out: what an earlier alternative refused,
it refuses in another order. -/
theorem steady_of_reorders (h : v.form? x = some y) (hxy : x.Reorders y) : v.Steady x := by
  have hnames : v.DistinctNames := distinctNames_of_alike hR hself
  -- what is kept along the way, step by step, is that nothing is left out
  have hpath : ∀ w z, Relation.ReflTransGen Follows (v, x) (w, z) →
      v.Involves w ∧ ∃ f, w.form? z = some f ∧ z.Reorders f := by
    intro w z hpath
    generalize hend : (w, z) = b at hpath
    induction hpath generalizing w z with
    | refl =>
        cases hend
        exact ⟨.self, y, h, hxy⟩
    | @tail c _ _ hstep ih =>
        cases hend
        obtain ⟨hinvolves, f, hf, hzf⟩ := ih c.1 c.2 rfl
        exact ⟨hinvolves.trans hstep.asks.involves,
          reorders_of_follows (hnames.involves hinvolves) hstep hf hzf⟩
  intro before w after z f hunion hbefore hw u hu f' hf'
  obtain ⟨hinvolves, g, hg, hzg⟩ := hpath _ z hunion
  cases hg.symm.trans (form?_union_of_chosen hbefore (parse_eq_ok.mp hw))
  have hRu : R u u := (hinvolves.trans (.of_part (.variant (by simp [hu])))).related hR hself
  have hrefused := check_eq_of_form?_rel (form?_rel_of_alike hR u z hRu hzg)
  rw [hbefore u hu, eq_comm, ← form?_eq_none_iff, parse_eq_ok.mp hf'] at hrefused
  cases hrefused

theorem form?_form?_of_reorders (h : v.form? x = some y) (hxy : x.Reorders y) :
    v.form? y = some y :=
  form?_form?_of_steady (distinctNames_of_alike hR hself) hxy.distinct h
    (steady_of_reorders hR hself h hxy)

omit hR hself

-- ============================================================ repetition

/-- Parsing a value, then what was made of it, and so on. -/
def reparse (v : Validator) : Nat → Json → Except Failure Json
  | 0, x => .ok x
  | k + 1, x => v.parse x >>= v.reparse k

include hR hself

/-- What conforms is parsed again and again until nothing is left out any more. -/
theorem exists_reparse (y : Json) (hy : y.Distinct) (hcheck : v.check y = true) :
    ∃ k ≤ y.size, ∃ z, v.reparse k y = .ok z ∧ v.parse z = .ok z := by
  have hnames : v.DistinctNames := distinctNames_of_alike hR hself
  induction hsize : y.size using Nat.strongRecOn generalizing y with
  | ind size ih =>
      obtain ⟨z, hz⟩ := check_iff_form?.mp hcheck
      have hparse : v.parse y = .ok z := parse_eq_ok.mpr hz
      have hprunes := prunes_of_form? hnames hy hz
      -- nothing is left out, and then nothing will be, or there is less to parse
      rcases hprunes.reorders_or_size_lt hy with hyz | hlt
      · refine ⟨1, hsize ▸ y.size_pos, z, ?_, ?_⟩
        · rw [reparse, hparse]
          rfl
        · exact parse_eq_ok.mpr (form?_form?_of_reorders hR hself hz hyz)
      · obtain ⟨k, hk, w, hreparse, hw⟩ :=
          ih z.size (hsize ▸ hlt) z hprunes.distinct (check_of_form? hnames hy hz) rfl
        refine ⟨k + 1, by omega, w, ?_, hw⟩
        rw [reparse, hparse]
        exact hreparse

omit hR hself

/-- What parsing yields is parsed again without issues, and all that may differ is
that more is left out. Nothing does where choices are steady, or where nothing was
left out before, and after some repetitions nothing will any more. -/
theorem reparse_settles {schema : Json} {options : CompileOptions} (hschema : schema.Distinct)
    (h : (compile schema options).result = .ok v) (hx : x.Distinct) (hparse : v.parse x = .ok y) :
    (∃ z, v.parse y = .ok z ∧ y.Prunes z) ∧ (v.Steady x ∨ x.Reorders y → v.parse y = .ok y) ∧
      ∃ k ≤ y.size, ∃ z, v.reparse k y = .ok z ∧ v.parse z = .ok z := by
  -- a compiled validator is its own counterpart
  have hself : Counterparts .reordered options options v v :=
    .of_compile hschema.reorders h h
  have hR : ∀ t u, Counterparts .reordered options options t u →
      t.Alike .reordered (Counterparts .reordered options options) u :=
    fun _ _ => Counterparts.alike rfl
  have hnames : v.DistinctNames := distinctNames_of_alike hR hself
  have hform : v.form? x = some y := parse_eq_ok.mp hparse
  have hy : y.Distinct := (prunes_of_form? hnames hx hform).distinct
  -- the form is accepted, so it can be parsed again
  have hcheck := check_of_form? hnames hx hform
  refine ⟨?_, ?_, exists_reparse hR hself y hy hcheck⟩
  · obtain ⟨z, hz⟩ := check_iff_form?.mp hcheck
    exact ⟨z, parse_eq_ok.mpr hz, prunes_of_form? hnames hy hz⟩
  · rintro (hsteady | hreorders)
    · exact parse_eq_ok.mpr (form?_form?_of_steady hnames hx hform hsteady)
    · exact parse_eq_ok.mpr (form?_form?_of_reorders hR hself hform hreorders)

/-- Two alternatives, each with a member that the other ignores. -/
def notedSchema : Json :=
  .object [("anyOf", .array
    [.object [("type", .string "object"), ("properties", .object
       [("note", .object [("type", .string "integer")])])],
     .object [("type", .string "object"), ("properties", .object
       [("id", .object [("type", .string "integer")])])]])]

/-- An object with both members. -/
def noted : Json := .object [("id", .number (.whole 1)), ("note", .string "hi")]

/-- The object without the note. -/
def unnoted : Json := .object [("id", .number (.whole 1))]

/-- The second parsing takes out the identifier too, and after it nothing changes. -/
theorem reparse_settles_noted : ∃ v, (compile notedSchema).result = .ok v ∧
    v.parse noted = .ok unnoted ∧
    ∃ k ≤ 2, ∃ z, v.reparse k unnoted = .ok z ∧ v.parse z = .ok z := by
  have hschema : notedSchema.Distinct := by simp [notedSchema, Members.names]
  have hx : noted.Distinct := by simp [noted, Members.names]
  have hcompile : (compile notedSchema).result = .ok _ := rfl
  have hparse := reparse_settles hschema hcompile hx (y := unnoted) rfl
  exact ⟨_, hcompile, rfl, hparse.2.2⟩

/-- The first alternative refuses the note, and accepts what the second makes of it. -/
theorem parse_twice_noted : ∃ v, (compile notedSchema).result = .ok v ∧
    v.parse noted = .ok unnoted ∧ v.parse unnoted = .ok (.object []) ∧
    v.parse unnoted ≠ .ok unnoted := by
  refine ⟨_, rfl, rfl, rfl, fun h => ?_⟩
  cases h

end Validator

end Conformance
