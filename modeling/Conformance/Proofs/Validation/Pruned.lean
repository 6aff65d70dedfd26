/-
What parsing leaves of a value.

The form of a value is a pruning of it, and conforms again. All that is left out
are members that are neither declared nor validated, so where no validator
ignores these, nothing is. Each of the three is an induction along the way to
the form.
-/
import Conformance.Proofs.Json.Pruning
import Conformance.Proofs.Validation.Involved

namespace Conformance

namespace Validator

variable {v : Validator} {x y : Json}

/-- Nothing is made up, altered, or left out but members. -/
theorem prunes_of_form? (hnames : v.DistinctNames) (hx : x.Distinct) (h : v.form? x = some y) :
    x.Prunes y := by
  refine form_induction ?plain ?array ?object ?union ?null ?optional ?shared ?deferred hnames hx h
  case plain => exact fun _ x _ hx _ => hx.reorders.prunes
  case array => exact fun _ _ xs ys _ hforms => .array (hforms.imp fun _ _ h => h.2)
  case object =>
    intro ps a ms hps hms _ ih
    refine .object (nodup_names_formMembers hps hms.names) (names_formMembers_subset hps hms.names)
      fun name x y hx hy => ?_
    obtain ⟨z, u, hz, hu, hy⟩ := (get?_formMembers_eq_some hps hms.names).mp hy
    cases hx.symm.trans hz
    exact ih name x u y hx hu hy
  case union => exact fun _ _ _ _ _ _ _ ih => ih
  case null => exact fun _ => .null
  case optional => exact fun _ _ _ _ _ ih => ih
  case shared => exact fun _ _ _ _ _ ih => ih
  case deferred => exact fun _ _ _ _ _ _ ih => ih

/-- The members that are made of an object conform to it, if each conforms to its
ruler. -/
theorem check_formMembers {ps : List (Property Validator)} {a : Additional Validator}
    {ms : Members} (hps : (ps.map Property.name).Nodup) (hms : ms.names.Nodup)
    (hcheck : (object ps a).check (.object ms) = true)
    (h : ∀ name x u y, ms.get? name = some x → ruler? ps a name = some u → u.form? x = some y →
      u.check y = true) : (object ps a).check (.object (formMembers ps a ms)) = true := by
  obtain ⟨hruled, hreject, habsent⟩ := (check_object_iff hps hms).mp hcheck
  refine (check_object_iff hps (nodup_names_formMembers hps hms)).mpr ⟨?_, ?_, ?_⟩
  · intro name y u hy hu
    -- what is found in the form was made by the ruler of its name
    obtain ⟨x, w, hx, hw, hform⟩ := (get?_formMembers_eq_some hps hms).mp hy
    cases hu.symm.trans hw
    exact h name x u y hx hu hform
  · exact fun ha name hname => hreject ha name (names_formMembers_subset hps hms hname)
  · -- a declared member that has no form was not there
    intro p hp hnone hrequired
    refine habsent p hp ?_ hrequired
    cases hget : ms.get? p.name with
    | none => rfl
    | some x =>
        have hruler := ruler?_of_mem (a := a) hps hp
        obtain ⟨y, hy⟩ := check_iff_form?.mp (hruled _ x _ hget hruler)
        have hsome := (get?_formMembers_eq_some hps hms).mpr ⟨x, _, hget, hruler, hy⟩
        exact nomatch hnone.symm.trans hsome

/-- A form conforms. -/
theorem check_of_form? (hnames : v.DistinctNames) (hx : x.Distinct) (h : v.form? x = some y) :
    v.check y = true := by
  refine form_induction ?plain ?array ?object ?union ?null ?optional ?shared ?deferred hnames hx h
  case plain => exact fun _ _ _ _ hcheck => hcheck
  case array =>
    intro items bounds xs ys hbounds hforms
    refine check_array_iff.mpr ⟨hforms.length_eq ▸ hbounds, fun y hy => ?_⟩
    obtain ⟨x, _, -, ih⟩ := exists_left_of_forall₂ hforms y hy
    exact ih
  case object =>
    intro ps a ms hps hms hcheck ih
    exact check_formMembers hps hms.names hcheck ih
  case union =>
    intro before v after x y _ _ ih
    show accepts _ (some y) = true
    exact accepts_union.mpr ⟨v, List.mem_append_right _ (List.mem_cons_self ..), ih⟩
  case null => exact fun _ => rfl
  case optional =>
    intro inner x y _ _ ih
    show accepts _ (some y) = true
    exact accepts_optional.mpr (.inr (.inr ih))
  case shared => exact fun _ _ _ _ _ ih => ih
  case deferred =>
    intro d t x y ht _ ih
    show accepts _ (some y) = true
    exact (accepts_deferred ht).trans ih

/-- Where no object ignores members, none is left out. -/
theorem reorders_of_form? (hnames : v.DistinctNames) (hx : x.Distinct) (h : v.form? x = some y) :
    (∀ ps, ¬ v.Involves (.object ps .ignore)) → x.Reorders y := by
  refine form_induction ?plain ?array ?object ?union ?null ?optional ?shared ?deferred hnames hx h
  case plain => exact fun _ _ _ hx _ _ => hx.reorders
  case array =>
    intro items bounds xs ys _ hforms hignore
    exact .array (hforms.imp fun _ _ h =>
      h.2 fun ps hps => hignore ps ((Involves.of_part .items).trans hps))
  case object =>
    intro ps a ms hps hms hcheck ih hignore
    obtain ⟨hruled, hreject, -⟩ := (check_object_iff hps hms.names).mp hcheck
    have hruler : ∀ name ∈ ms.names, ∃ u, ruler? ps a name = some u := by
      intro name hname
      refine Option.ne_none_iff_exists'.mp ?_
      cases a with
      | ignore => exact absurd .self (hignore ps)
      | reject => exact hreject rfl name hname
      | schema catchAll =>
          unfold ruler?
          cases ps.find? (·.name == name) <;> exact Option.some_ne_none _
    refine Members.reorders_of_get? hms.names (nodup_names_formMembers hps hms.names)
      fun name => ?_
    cases hx : ms.get? name with
    | none =>
        rw [get?_formMembers hps hms.names, hx]
        exact .none
    | some x =>
        obtain ⟨u, hu⟩ := hruler name (Members.mem_names_iff.mpr ⟨x, hx⟩)
        obtain ⟨y, hy⟩ := check_iff_form?.mp (hruled name x u hx hu)
        rw [(get?_formMembers_eq_some hps hms.names).mpr ⟨x, u, hx, hu, hy⟩]
        exact .some (ih name x u y hx hu hy fun ps hps =>
          hignore ps ((asks_of_ruler? hx hu).involves.trans hps))
  case union =>
    exact fun before v after x y _ _ ih hignore => ih fun ps hps =>
      hignore ps ((Involves.of_part (.variant (by simp))).trans hps)
  case null => exact fun _ _ => .null
  case optional =>
    exact fun inner x y _ _ ih hignore => ih fun ps hps =>
      hignore ps ((Involves.of_part .inner).trans hps)
  case shared =>
    exact fun number target x y _ ih hignore => ih fun ps hps =>
      hignore ps ((Involves.of_part .target).trans hps)
  case deferred =>
    exact fun d t x y ht _ ih hignore => ih fun ps hps =>
      hignore ps ((Involves.target .self ht).trans hps)

/-- What parsing yields conforms, and it is what was parsed but for members that
are left out and for the order of members. Where no object that the validator
involves ignores undeclared members, none is left out. -/
theorem parse_prunes {schema : Json} {options : CompileOptions} {v : Validator}
    (hschema : schema.Distinct) (h : (compile schema options).result = .ok v) {x y : Json}
    (hx : x.Distinct) (hparse : v.parse x = .ok y) :
    v.check y = true ∧ x.Prunes y ∧
      ((∀ ps, ¬ v.Involves (.object ps .ignore)) → x.Reorders y) := by
  have hnames : v.DistinctNames := distinctNames_of_compile hschema h
  have hform : v.form? x = some y := parse_eq_ok.mp hparse
  exact ⟨check_of_form? hnames hx hform, prunes_of_form? hnames hx hform,
    reorders_of_form? hnames hx hform⟩

/-- An object with tags, and whatever else. -/
def tagsSchema : Json :=
  .object
    [("type", .string "object"),
     ("properties", .object [("tags", .object
        [("type", .string "array"), ("items", .object [("type", .string "string")])])]),
     ("required", .array [.string "tags"])]

/-- A value of tags and nothing else. -/
def tagged : Json := .object [("tags", .array [.string "a", .string "b"])]

/-- A value with a member that the schema says nothing about. -/
def taggedAndNamed : Json :=
  .object [("name", .null), ("tags", .array [.string "a", .string "b"])]

/-- Here something is left out, so the two are not the same up to order. -/
theorem parse_prunes_tagged : ∃ v, (compile tagsSchema).result = .ok v ∧
    v.parse taggedAndNamed = .ok tagged ∧ v.check tagged = true ∧
    taggedAndNamed.Prunes tagged := by
  have hschema : tagsSchema.Distinct := by simp [tagsSchema, Members.names]
  have hx : taggedAndNamed.Distinct := by simp [taggedAndNamed, Members.names]
  have hcompile : (compile tagsSchema).result = .ok _ := rfl
  have hparse := parse_prunes hschema hcompile hx (y := tagged) rfl
  exact ⟨_, hcompile, rfl, hparse.1, hparse.2.1⟩

end Validator

end Conformance
