/-
Members in any order.

Validators that are built alike up to an order accept values that differ in
nothing else, and make of them values that differ in nothing else. Each member
has its counterpart under the same name, and the rulers of a name are
counterparts too, so nothing that is said of an object name by name sees the
order.
-/
import Conformance.Proofs.Json.Order
import Conformance.Proofs.Validation.Comparison
import Conformance.Proofs.Validation.Forms

namespace Conformance

namespace Validator

variable {R : Validator → Validator → Prop} {v w : Validator} {x y x' : Json}

-- =============================================================== objects

section

variable {ps qs : List (Property Validator)} {a b : Additional Validator} {ms ns : Members}
variable (hps : Property.Matched R ps qs) (ha : Additional.Rel R a b)

include hps ha

/-- Each name is ruled by counterparts, or by none on either side. -/
theorem ruler?_rel (name : String) : Option.Rel R (ruler? ps a name) (ruler? qs b name) := by
  by_cases hdeclared : ∃ p ∈ ps, p.name = name
  · obtain ⟨p, hp, rfl⟩ := hdeclared
    obtain ⟨q, hq, hname, -, h⟩ := hps.forth p hp
    rw [ruler?_of_mem hps.nodup hp, hname, ruler?_of_mem hps.nodup' hq]
    exact .some h
  · have hne : ∀ p ∈ ps, p.name ≠ name := fun p hp hname => hdeclared ⟨p, hp, hname⟩
    have hne' : ∀ q ∈ qs, q.name ≠ name := fun q hq hname => by
      obtain ⟨p, hp, hpq⟩ := hps.back q hq
      exact hne p hp (hpq.1.trans hname)
    rw [ruler?_of_forall_ne hne, ruler?_of_forall_ne hne']
    cases ha with
    | ignore => exact .none
    | reject => exact .none
    | schema h => exact .some h

/-- A name that is ruled on one side is ruled on the other, by the counterpart. -/
theorem exists_ruler? {name : String} {u : Validator} (h : ruler? ps a name = some u) :
    ∃ t, ruler? qs b name = some t ∧ R u t := by
  have hrel := ruler?_rel hps ha name
  rw [h] at hrel
  generalize ruler? qs b name = found at hrel
  cases hrel with
  | some h => exact ⟨_, rfl, h⟩

/-- An object is accepted if it was in another order, when its members are. -/
theorem check_object_of_rel (hms : ms.Reorders ns)
    (hmembers : ∀ name x y u t, ms.get? name = some x → ns.get? name = some y →
      ruler? ps a name = some u → ruler? qs b name = some t → u.check x = true → t.check y = true)
    (habsent : ∀ u t, R u t → u.acceptsAbsent = true → t.acceptsAbsent = true)
    (h : (object ps a).check (.object ms) = true) : (object qs b).check (.object ns) = true := by
  obtain ⟨hruled, hreject, hmissing⟩ := (check_object_iff hps.nodup hms.nodup).mp h
  refine (check_object_iff hps.nodup' hms.symm.nodup).mpr
    ⟨fun name y t hy ht => ?_, fun hb name hname hnone => ?_, fun q hq hnone hrequired => ?_⟩
  -- a member and its ruler have counterparts, which accept each other's
  · obtain ⟨x, hx, -⟩ := hms.symm.exists_get? hy
    obtain ⟨u, hu, -⟩ := exists_ruler? hps.flip ha.flip ht
    exact hmembers name x y u t hx hy hu ht (hruled name x u hx hu)
  · subst hb
    -- no member is without a ruler, as none was before
    have hreject' : a = .reject := by
      cases ha
      rfl
    obtain ⟨u, hu⟩ := Option.ne_none_iff_exists'.mp
      (hreject hreject' name (hms.names.mem_iff.mpr hname))
    obtain ⟨t, ht, -⟩ := exists_ruler? hps ha hu
    exact nomatch hnone.symm.trans ht
  -- what is missing now was missing before
  · obtain ⟨p, hp, hname, hreq, hpq⟩ := hps.back q hq
    refine habsent _ _ hpq (hmissing p hp ?_ (hreq ▸ hrequired))
    cases hx : ms.get? p.name with
    | none => rfl
    | some x =>
        obtain ⟨y, hy, -⟩ := hms.exists_get? hx
        rw [hname, hnone] at hy
        cases hy

end

-- ================================================================ values

/-- To compare forms it is enough that both values are accepted or neither is,
and to compare them where there are two. -/
theorem form?_rel_of_check (hcheck : v.check x = w.check x')
    (hforms : ∀ y z, v.form? x = some y → w.form? x' = some z → y.Reorders z) :
    Option.Rel Json.Reorders (v.form? x) (w.form? x') := by
  cases hy : v.form? x with
  | none =>
      cases hz : w.form? x' with
      | none => exact .none
      | some z =>
          have hfound := check_iff_form?.mp (hcheck.trans (check_iff_form?.mpr ⟨z, hz⟩))
          rw [hy] at hfound
          exact absurd hfound (by simp)
  | some y =>
      obtain ⟨z, hz⟩ := check_iff_form?.mp (hcheck.symm.trans (check_iff_form?.mpr ⟨y, hy⟩))
      rw [hz]
      exact .some (hforms y z hy hz)

/-- Where forms are related they are there on both sides. -/
theorem check_eq_of_form?_rel (h : Option.Rel Json.Reorders (v.form? x) (w.form? x')) :
    v.check x = w.check x' := by
  rw [Bool.eq_iff_iff, check_iff_form?, check_iff_form?]
  generalize v.form? x = a, w.form? x' = b at h
  cases h <;> simp

/-- A value that is taken as it is or not at all. -/
theorem form?_rel_self (hv : v.IsPlain) (hx : x.Reorders x) :
    Option.Rel Json.Reorders (v.form? x) (v.form? x) := by
  cases h : v.form? x with
  | none => exact .none
  | some y =>
      cases eq_of_form?_of_isPlain hv h
      exact .some hx

/-- Items are compared in their places, and the length is the same. -/
theorem form?_array_rel {items items' : Validator} {bounds : ItemBounds} {xs ys : List Json}
    (h : List.Forall₂ (fun x y => Option.Rel Json.Reorders (items.form? x) (items'.form? y))
      xs ys) :
    Option.Rel Json.Reorders ((array items bounds).form? (.array xs))
      ((array items' bounds).form? (.array ys)) := by
  -- the items are accepted in the same places
  have hchecks : xs.map items.check = ys.map items'.check :=
    map_eq_of_forall₂ h fun _ _ _ => check_eq_of_form?_rel
  have hall : (∀ x ∈ xs, items.check x = true) ↔ ∀ y ∈ ys, items'.check y = true := by
    rw [← List.forall_mem_map (P := (· = true)), hchecks, List.forall_mem_map]
  refine form?_rel_of_check ?_ fun y z hy hz => ?_
  · rw [Bool.eq_iff_iff, check_array_iff, check_array_iff, h.length_eq, hall]
  · obtain ⟨_, fs, heq, rfl, -, hforms⟩ := form?_array_eq_some.mp hy
    obtain ⟨_, gs, heq', rfl, -, hforms'⟩ := form?_array_eq_some.mp hz
    cases heq
    cases heq'
    refine .array (forall₂_carried h hforms hforms' fun x y f g hrel hf hg => ?_)
    rw [hf, hg] at hrel
    cases hrel with
    | some hfg => exact hfg

/-- Members of one name are asked of the counterparts that rule the name. -/
theorem form?_object_rel {ps qs : List (Property Validator)} {a b : Additional Validator}
    {ms ns : Members} (hps : Property.Matched R ps qs) (ha : Additional.Rel R a b)
    (hms : ms.Reorders ns)
    (hmembers : ∀ name x y u t, ms.get? name = some x → ns.get? name = some y →
      ruler? ps a name = some u → R u t → Option.Rel Json.Reorders (u.form? x) (t.form? y))
    (habsent : ∀ u t, R u t → u.acceptsAbsent = t.acceptsAbsent) :
    Option.Rel Json.Reorders ((object ps a).form? (.object ms))
      ((object qs b).form? (.object ns)) := by
  -- there is one ruler for a name on each side, and the two go together
  have hrel : ∀ {name x y u t}, ms.get? name = some x → ns.get? name = some y →
      ruler? ps a name = some u → ruler? qs b name = some t →
      Option.Rel Json.Reorders (u.form? x) (t.form? y) := by
    intro name x y u t hx hy hu ht
    obtain ⟨_, ht', hut⟩ := exists_ruler? hps ha hu
    cases ht.symm.trans ht'
    exact hmembers name x y u t hx hy hu hut
  refine form?_rel_of_check (Bool.eq_iff_iff.mpr ⟨?forth, ?back⟩) fun y z hy hz => ?forms
  case forth =>
    exact check_object_of_rel hps ha hms
      (fun _ _ _ _ _ hx hy hu ht h => (check_eq_of_form?_rel (hrel hx hy hu ht)).symm.trans h)
      fun u t hut h => (habsent u t hut).symm.trans h
  case back =>
    exact check_object_of_rel hps.flip ha.flip hms.symm
      (fun _ _ _ _ _ hy hx ht hu h => (check_eq_of_form?_rel (hrel hx hy hu ht)).trans h)
      fun t u hut h => (habsent u t hut).trans h
  case forms =>
    obtain ⟨-, rfl⟩ := (form?_object_eq_some hps.nodup hms.nodup).mp hy
    obtain ⟨-, rfl⟩ := (form?_object_eq_some hps.nodup' hms.symm.nodup).mp hz
    refine Members.reorders_of_get? (nodup_names_formMembers hps.nodup hms.nodup)
      (nodup_names_formMembers hps.nodup' hms.symm.nodup) fun name => ?_
    rw [get?_formMembers hps.nodup hms.nodup, get?_formMembers hps.nodup' hms.symm.nodup]
    -- under each name: the members, their rulers and so the forms go together
    have hget := hms.get? name
    have hruler := ruler?_rel hps ha name
    have hform := @hrel name
    generalize ms.get? name = x, ns.get? name = y, ruler? ps a name = u, ruler? qs b name = t
      at hget hruler hform
    cases hget with
    | none => exact .none
    | some =>
        cases hruler with
        | none => exact .none
        | some => exact hform rfl rfl rfl rfl

/-- The first alternative with a form has the same place on both sides, so no other pair
needs to be compared. -/
theorem form?_union_rel {vs ws : List Validator}
    (h : List.Forall₂ (fun v w => Option.Rel Json.Reorders (v.form? x) (w.form? x')) vs ws) :
    Option.Rel Json.Reorders ((union vs).form? x) ((union ws).form? x') := by
  rw [form?_union, form?_union]
  induction h with
  | nil => exact .none
  | @cons v w _ _ hhead _ ih =>
      rw [List.findSome?_cons, List.findSome?_cons]
      generalize v.form? x = a, w.form? x' = b at hhead
      cases hhead with
      | none => exact ih
      | some hyz => exact .some hyz

/-- What is made of a value does not see the order of members, in the value or in
what the validator was made from. -/
theorem form?_rel_of_alike (hR : ∀ v w, R v w → v.Alike .reordered R w) (v : Validator) (x : Json) :
    ∀ {w : Validator} {x' : Json}, R v w → x.Reorders x' →
      Option.Rel Json.Reorders (v.form? x) (w.form? x') := by
  induction v, x using ask_induction with
  | step v x ih =>
      intro w x' h hx
      cases hR v w h with
      | any => exact .some hx
      | null | boolean | string | number | stringEnum =>
          cases hx with
          | array | object => exact .none
          | _ => exact form?_rel_self trivial (by constructor)
      | literal he =>
          rw [form?_literal, form?_literal, Json.same_congr hx he]
          split
          · exact .some hx
          · exact .none
      | array ht bounds =>
          cases hx with
          | array hitems =>
              have hand := (List.forall₂_and_left _ _).mpr ⟨fun _ hz => hz, hitems⟩
              exact form?_array_rel (hand.imp fun z w hz => ih _ _ (.item hz.1) ht hz.2)
          | _ => exact .none
      | @object ps qs a b hps ha =>
          cases hx with
          | object hnodup hnames hvalues =>
              refine form?_object_rel hps ha (.object hnodup hnames hvalues) ?_
                fun _ _ => acceptsAbsent_eq_of_alike hR
              exact fun name x y u t hx hy hu hut =>
                ih u x (asks_of_ruler? hx hu) hut (hvalues name x y hx hy)
          | _ => exact .none
      | union hvs =>
          have hand := (List.forall₂_and_left _ _).mpr ⟨fun _ hv => hv, hvs⟩
          exact form?_union_rel (hand.imp fun v w hv =>
            ih v x (.stays (.variant hv.1) _) hv.2 hx)
      | optional ht =>
          by_cases hnull : x = .null
          · subst hnull
            cases hx
            exact .some .null
          · have hnull' : x' ≠ .null := by
              rintro rfl
              cases hx
              exact hnull rfl
            rw [form?_optional_of_ne hnull, form?_optional_of_ne hnull']
            exact ih _ _ (.stays (.inner _) _) ht hx
      | shared ht =>
          rw [form?_shared, form?_shared]
          exact ih _ _ (.stays (.target ..) _) ht hx
      | deferred hd he ht =>
          rw [form?_deferred hd, form?_deferred he]
          exact ih _ _ (.stays (.resolved hd) _) ht hx
      | unresolved _ hd he =>
          rw [form?_deferred_error hd, form?_deferred_error he]
          exact .none

end Validator

end Conformance
