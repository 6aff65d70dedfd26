/-
All that a validator involves: its nodes, and those of what its deferred
references stand for.

Names are declared once where a schema has distinct names, so in everything that
such a schema compiles to no object declares a name twice (`DistinctNames`).
Then the form of a value is all that can be said about it node by node, and
`form_induction` is the induction that goes with it: along the way that leads
to the form, which passes through one alternative of each union.
-/
import Conformance.Proofs.Compiler.Counterparts
import Conformance.Proofs.Validation.Forms

namespace Conformance

namespace Validator

/-- The second validator is a node of the first, or of what a deferred reference
stands for that the first involves. -/
inductive Involves (v : Validator) : Validator → Prop
  | self : Involves v v
  | part {w u : Validator} (h : Involves v w) (hpart : w.Part u) : Involves v u
  | target {d : Deferred} {t : Validator} (h : Involves v (.deferred d))
      (ht : d.target = .ok t) : Involves v t

variable {v w u : Validator}

/-- What is involved involves more. -/
theorem Involves.trans (h : v.Involves w) (h' : w.Involves u) : v.Involves u := by
  induction h' with
  | self => exact h
  | part _ hpart ih => exact .part ih hpart
  | target _ ht ih => exact .target ih ht

theorem Involves.of_part (h : v.Part w) : v.Involves w := .part .self h

/-- Who is asked is involved. -/
theorem Asks.involves {data inside : Data} (h : Asks (v, data) (w, inside)) : v.Involves w := by
  rcases h.part_or_target with hpart | ⟨d, rfl, ht⟩
  · exact .of_part hpart
  · exact .target .self ht

-- ========================================================= distinct names

/-- No object that the validator involves declares a name twice. -/
def DistinctNames (v : Validator) : Prop :=
  ∀ ps a, v.Involves (.object ps a) → (ps.map Property.name).Nodup

/-- The names are distinct in everything that is involved, by definition. -/
theorem DistinctNames.involves (h : v.DistinctNames) (hw : v.Involves w) : w.DistinctNames :=
  fun ps a hobject => h ps a (hw.trans hobject)

section

variable {R : Validator → Validator → Prop}

/-- Compared to itself, a validator is built from validators that are compared to
themselves. -/
theorem Alike.self_of_part (h : v.Alike .reordered R v) (hpart : v.Part w) : R w w := by
  cases hpart with
  | items => cases h with | array h => exact h
  | property hp =>
      cases h with
      | object hproperties =>
          obtain ⟨q, hq, hname, -, h⟩ := hproperties.forth _ hp
          rwa [List.inj_on_of_nodup_map hproperties.nodup hq hp hname.symm] at h
  | other =>
      cases h with
      | object _ hadditional => cases hadditional with | schema h => exact h
  | variant hv => cases h with | union h => exact List.forall₂_same.mp h _ hv
  | inner => cases h with | optional h => exact h
  | target => cases h with | shared h => exact h

/-- What a deferred reference stands for is like itself, if the reference is. -/
theorem Alike.self_of_target {d : Deferred} {t : Validator}
    (h : (Validator.deferred d).Alike .reordered R (.deferred d)) (ht : d.target = .ok t) :
    R t t := by
  cases h with
  | deferred hd he h =>
      rw [ht, Except.ok.injEq] at hd he
      rwa [← hd, ← he] at h
  | unresolved _ hd =>
      rw [ht] at hd
      cases hd

/-- What is related to itself involves only what is related to itself. -/
theorem Involves.related (hR : ∀ v w, R v w → v.Alike .reordered R w) (h : R v v)
    (hw : v.Involves w) : R w w := by
  induction hw with
  | self => exact h
  | part _ hpart ih => exact (hR _ _ ih).self_of_part hpart
  | target _ ht ih => exact (hR _ _ ih).self_of_target ht

/-- Objects that are like themselves up to order have their properties matched by name,
which needs distinct names. -/
theorem distinctNames_of_alike (hR : ∀ v w, R v w → v.Alike .reordered R w) (h : R v v) :
    v.DistinctNames := by
  intro ps a hobject
  cases hR _ _ (hobject.related hR h) with
  | object hproperties => exact hproperties.nodup

end

/-- What a schema with distinct names compiles to declares no name twice. -/
theorem distinctNames_of_compile {schema : Json} {options : CompileOptions}
    (hschema : schema.Distinct) (h : (compile schema options).result = .ok v) :
    v.DistinctNames := by
  have hself : Counterparts .reordered options options v v :=
    .of_compile hschema.reorders h h
  exact distinctNames_of_alike (fun _ _ => Counterparts.alike rfl) hself

-- ============================================================== induction

/-- Induction along the way to a form. What holds of values that are taken as they
are, and of what is put together from forms if it holds of them, holds of every
form. -/
@[elab_as_elim]
theorem form_induction {motive : Validator → Json → Json → Prop}
    (plain : ∀ v x, v.IsPlain → x.Distinct → v.check x = true → motive v x x)
    (array : ∀ items bounds xs ys, bounds.Allows xs.length →
      List.Forall₂ (fun x y => items.form? x = some y ∧ motive items x y) xs ys →
      motive (.array items bounds) (.array xs) (.array ys))
    (object : ∀ ps a (ms : Members), (ps.map Property.name).Nodup → ms.Distinct →
      (Validator.object ps a).check (.object ms) = true →
      (∀ name x u y, ms.get? name = some x → ruler? ps a name = some u → u.form? x = some y →
        motive u x y) →
      motive (.object ps a) (.object ms) (.object (formMembers ps a ms)))
    (union : ∀ before v after x y, (∀ u ∈ before, u.check x = false) → v.form? x = some y →
      motive v x y → motive (.union (before ++ v :: after)) x y)
    (null : ∀ inner, motive (.optional inner) .null .null)
    (optional : ∀ inner x y, x ≠ .null → inner.form? x = some y → motive inner x y →
      motive (.optional inner) x y)
    (shared : ∀ number target x y, target.form? x = some y → motive target x y →
      motive (.shared number target) x y)
    (deferred : ∀ d t x y, d.target = .ok t → t.form? x = some y → motive t x y →
      motive (.deferred d) x y)
    {v : Validator} {x y : Json} (hnames : v.DistinctNames) (hx : x.Distinct)
    (h : v.form? x = some y) : motive v x y := by
  induction v, x using ask_induction generalizing y with
  | step v x ih =>
      -- what the node asks is covered by the induction
      have hask : ∀ {w z form}, Asks (v, some x) (w, some z) → z.Distinct →
          w.form? z = some form → motive w z form :=
        fun hask hz => ih _ _ hask (hnames.involves hask.involves) hz
      cases v with
      | array items bounds =>
          obtain ⟨xs, ys, rfl, rfl, hbounds, hforms⟩ := form?_array_eq_some.mp h
          have hand := (List.forall₂_and_left _ _).mpr ⟨fun _ hz => hz, hforms⟩
          refine array items bounds xs ys hbounds (hand.imp fun z w hz => ⟨hz.2, ?_⟩)
          exact hask (.item hz.1) (Json.distinct_array.mp hx z hz.1) hz.2
      | object ps a =>
          obtain ⟨ms, rfl⟩ := exists_members_of_form? h
          have hms : Members.Distinct ms := hx
          obtain ⟨hcheck, rfl⟩ := (form?_object_eq_some (hnames ps a .self) hms.names).mp h
          refine object ps a ms (hnames ps a .self) hms hcheck fun name z u w hz hu hw => ?_
          exact hask (asks_of_ruler? hz hu) (hms.get? hz) hw
      | union variants =>
          rw [form?_union] at h
          -- the first alternative with a form has made it
          obtain ⟨before, w, after, rfl, hw, hbefore⟩ := List.findSome?_eq_some_iff.mp h
          exact union before w after x y (fun u hu => form?_eq_none_iff.mp (hbefore u hu)) hw
            (hask (.stays (.variant (by simp)) _) hx hw)
      | optional inner =>
          by_cases hnull : x = .null
          · subst hnull
            cases h
            exact null inner
          · rw [form?_optional_of_ne hnull] at h
            exact optional inner x y hnull h (hask (.stays (.inner inner) _) hx h)
      | shared number target =>
          rw [form?_shared] at h
          exact shared number target x y h (hask (.stays (.target number target) _) hx h)
      | deferred d =>
          cases ht : d.target with
          | error reason =>
              rw [form?_deferred_error ht] at h
              cases h
          | ok t =>
              rw [form?_deferred ht] at h
              exact deferred d t x y ht h (hask (.stays (.resolved ht) _) hx h)
      | _ =>
          -- all other nodes take the value as it is
          cases eq_of_form?_of_isPlain (by trivial) h
          exact plain _ x trivial hx (check_iff_form?.mpr ⟨x, h⟩)

end Validator

end Conformance
