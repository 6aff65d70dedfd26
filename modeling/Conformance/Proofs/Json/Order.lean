/-
Values up to the order of their members.

`Reorders` relates two values with distinct names that differ in the order of
members, at any depth, and in nothing else: objects have the same names in some
order, and under each name values that are related again. A value is related to
itself just if its names are distinct.

Everything that is done to members follows names, so it comes to related members
when it is done to related members, and equality of values does not see the
difference.
-/
import Conformance.Proofs.Json.Names
import Conformance.Proofs.Lists

namespace Conformance

namespace Json

/-- The values have distinct names, and differ at most in the order of members. -/
inductive Reorders : Json → Json → Prop
  | null : Reorders null null
  | bool (b : Bool) : Reorders (bool b) (bool b)
  | number (n : Number) : Reorders (number n) (number n)
  | string (s : String) : Reorders (string s) (string s)
  | array {xs ys : List Json} (hitems : List.Forall₂ Reorders xs ys) :
      Reorders (array xs) (array ys)
  | object {ms ns : Members} (hnodup : ms.names.Nodup) (hnames : ms.names.Perm ns.names)
      (hvalues : ∀ name x y, ms.get? name = some x → ns.get? name = some y → Reorders x y) :
      Reorders (object ms) (object ns)

end Json

namespace Members

/-- The members are those of objects that differ at most in their order. -/
def Reorders (ms ns : Members) : Prop := (Json.object ms).Reorders (.object ns)

variable {ms ns : Members} {name : String}

namespace Reorders

/-- Names are distinct on both sides, and this is part of what reordering means. -/
theorem nodup (h : ms.Reorders ns) : ms.names.Nodup := by
  cases h with
  | object hnodup => exact hnodup

/-- The names are the same in another order. -/
theorem names (h : ms.Reorders ns) : ms.names.Perm ns.names := by
  cases h with
  | object _ hnames => exact hnames

/-- Under each name there are related values, or none on either side. -/
theorem get? (h : ms.Reorders ns) (name : String) :
    Option.Rel Json.Reorders (ms.get? name) (ns.get? name) := by
  cases h with
  | object _ hnames hvalues =>
      have hmem := hnames.mem_iff (a := name)
      rw [mem_names_iff, mem_names_iff] at hmem
      cases hx : ms.get? name with
      | none =>
          cases hy : ns.get? name with
          | none => exact .none
          | some y =>
              obtain ⟨x, hx'⟩ := hmem.mpr ⟨y, hy⟩
              exact nomatch hx.symm.trans hx'
      | some x =>
          obtain ⟨y, hy⟩ := hmem.mp ⟨x, hx⟩
          rw [hy]
          exact .some (hvalues name x y hx hy)

/-- What is found on one side is found on the other. -/
theorem exists_get? (h : ms.Reorders ns) {x : Json} (hx : ms.get? name = some x) :
    ∃ y, ns.get? name = some y ∧ x.Reorders y := by
  have hrel := h.get? name
  rw [hx] at hrel
  generalize ns.get? name = found at hrel
  cases hrel with
  | some hxy => exact ⟨_, rfl, hxy⟩

/-- What holds where nothing is found, and where related values are, holds of
what is found under a name. -/
@[elab_as_elim]
theorem get?_induction {motive : Option Json → Option Json → Prop} (h : ms.Reorders ns)
    (name : String) (none : motive none none)
    (some : ∀ x y : Json, x.Reorders y → motive (some x) (some y)) :
    motive (ms.get? name) (ns.get? name) := by
  have hrel := h.get? name
  generalize ms.get? name = a, ns.get? name = b at hrel
  cases hrel with
  | some hxy => exact some _ _ hxy
  | none => exact none

end Reorders

/-- Where names are distinct, it is enough that under each name there are related
values. -/
theorem reorders_of_get? (hms : ms.names.Nodup) (hns : ns.names.Nodup)
    (h : ∀ name, Option.Rel Json.Reorders (ms.get? name) (ns.get? name)) : ms.Reorders ns := by
  refine .object hms ((List.perm_ext_iff_of_nodup hms hns).mpr fun name => ?_) ?_
  · rw [mem_names_iff, mem_names_iff]
    have hrel := h name
    generalize ms.get? name = a, ns.get? name = b at hrel
    cases hrel with
    | some => exact ⟨fun _ => ⟨_, rfl⟩, fun _ => ⟨_, rfl⟩⟩
    | none => exact Iff.rfl
  · intro name x y hx hy
    have hrel := h name
    rw [hx, hy] at hrel
    cases hrel with
    | some hxy => exact hxy

end Members

namespace Json

variable {x y : Json}

-- ========================================================== equivalence

/-- A value is in the order of its members already, if their names are distinct. -/
theorem Distinct.reorders (h : x.Distinct) : x.Reorders x := by
  induction x using Json.induction with
  | null => exact .null
  | bool b => exact .bool b
  | number n => exact .number n
  | string s => exact .string s
  | array items ih =>
      exact .array (List.forall₂_same.mpr fun v hv => ih v hv (distinct_array.mp h v hv))
  | object members ih =>
      refine .object (Members.Distinct.names h) (.refl _) fun name v w hv hw => ?_
      cases hv.symm.trans hw
      exact ih _ (Members.mem_of_get? hv) (Members.Distinct.get? h hv)

/-- The other way round the members are put back. -/
theorem Reorders.symm : ∀ {y : Json}, x.Reorders y → y.Reorders x := by
  induction x using Json.induction with
  | array items ih =>
      intro y h
      cases h with
      | array hitems =>
          -- the hypothesis of the induction goes along with the items
          have hand := (List.forall₂_and_left _ _).mpr ⟨ih, hitems⟩
          exact .array (hand.imp fun _ _ h => h.1 h.2).flip
  | object members ih =>
      intro y h
      cases h with
      | object hnodup hnames hvalues =>
          refine .object (hnames.nodup_iff.mp hnodup) hnames.symm fun name v w hv hw => ?_
          exact ih _ (Members.mem_of_get? hw) (hvalues name w v hw hv)
  | _ =>
      intro y h
      cases h
      constructor

/-- Distinct names follow at every depth. -/
theorem Reorders.distinct : ∀ {y : Json}, x.Reorders y → x.Distinct := by
  induction x using Json.induction with
  | array items ih =>
      intro y h
      cases h with
      | array hitems =>
          refine .array fun v hv => ?_
          obtain ⟨w, _, hvw⟩ := exists_right_of_forall₂ hitems v hv
          exact ih v hv hvw
  | object members ih =>
      intro y h
      cases h with
      | object hnodup hnames hvalues =>
          have hms : Members.Reorders members _ := .object hnodup hnames hvalues
          refine .object hnodup fun m hm => ?_
          obtain ⟨w, _, hmw⟩ := hms.exists_get? ((Members.get?_eq_some_iff hnodup).mpr hm)
          exact ih m hm hmw
  | _ =>
      intro y _
      constructor

/-- An object with its members in another order. -/
theorem reorders_of_perm {ms ns : Members} (h : ms.Distinct) (hperm : ms.Perm ns) :
    ms.Reorders ns := by
  have hnames : ms.names.Perm ns.names := hperm.map _
  refine .object h.names hnames fun name x y hx hy => ?_
  have hmem := hperm.mem_iff.mpr (Members.mem_of_get? hy)
  cases hx.symm.trans ((Members.get?_eq_some_iff h.names).mpr hmem)
  exact (h.get? hx).reorders

/-- Objects differ in order at most if each member of the one has its like in the other. -/
theorem reorders_of_mem {ms ns : Members} (hms : ms.names.Nodup) (hnames : ms.names.Perm ns.names)
    (h : ∀ m ∈ ms, ∃ y, (m.1, y) ∈ ns ∧ m.2.Reorders y) : ms.Reorders ns := by
  refine .object hms hnames fun name x y hx hy => ?_
  obtain ⟨z, hz, hreorders⟩ := h _ (Members.mem_of_get? hx)
  cases hy.symm.trans ((Members.get?_eq_some_iff (hnames.nodup_iff.mp hms)).mpr hz)
  exact hreorders

-- ============================================================= equality

/-- Arrays are equal as JSON when their items are, one by one. -/
theorem sameItems_iff {xs ys : List Json} :
    sameItems xs ys = true ↔ List.Forall₂ (fun x y => x.same y = true) xs ys := by
  induction xs generalizing ys with
  | nil => cases ys <;> simp [sameItems]
  | cons x xs ih => cases ys <;> simp [sameItems, ih]

/-- Objects are compared by looking up the members of the first in the second. -/
theorem sameMembers_iff {ms ns : Members} :
    sameMembers ms ns = true ↔ ∀ m ∈ ms, ∃ w, ns.get? m.1 = some w ∧ m.2.same w = true := by
  induction ms with
  | nil => simp [sameMembers]
  | cons m rest ih =>
      obtain ⟨name, v⟩ := m
      rw [sameMembers, Bool.and_eq_true, ih, List.forall_mem_cons, Members.get?]
      cases List.lookup name ns <;> simp

/-- Objects are equal when they have as many members, and each of the first has
an equal one in the second. -/
theorem same_object_iff {ms ns : Members} :
    (object ms).same (object ns) = true ↔
      ms.length = ns.length ∧ ∀ m ∈ ms, ∃ w, ns.get? m.1 = some w ∧ m.2.same w = true := by
  rw [same, Bool.and_eq_true, beq_iff_eq, sameMembers_iff]

/-- To be equal as JSON is not affected by the order of members on either side. -/
theorem same_of_reorders : ∀ {x' y y' : Json}, x.Reorders x' → y.Reorders y' →
    x.same y = true → x'.same y' = true := by
  induction x using Json.induction with
  | array items ih =>
      intro x' y y' hx hy hsame
      cases hx with
      | array hxs =>
          cases hy with
          | array hys =>
              rw [same, sameItems_iff] at hsame ⊢
              have hall := (List.forall₂_and_left _ _).mpr ⟨ih, hsame⟩
              exact forall₂_carried hall hxs hys fun _ _ _ _ h hx hy => h.1 hx hy h.2
          | _ => cases hsame
  | object members ih =>
      intro x' y y' hx hy hsame
      cases hx with
      | @object _ ms hnodup hnames hvalues =>
          cases hy with
          | @object ns ns' hnodup' hnames' hvalues' =>
              -- equal objects have as many members, each with an equal one under its name
              obtain ⟨hlength, hmembers⟩ := same_object_iff.mp hsame
              refine same_object_iff.mpr ⟨?_, fun m hm => ?_⟩
              · have hleft : members.names.length = ms.names.length := hnames.length_eq
                have hright : ns.names.length = ns'.names.length := hnames'.length_eq
                simp only [Members.names, List.length_map] at hleft hright
                omega
              · -- the member has its counterpart, that an equal one, and that its counterpart
                have hms : Members.Reorders ms members :=
                  (Reorders.object hnodup hnames hvalues).symm
                have hns : Members.Reorders ns ns' := .object hnodup' hnames' hvalues'
                obtain ⟨v, hv, hmv⟩ :=
                  hms.exists_get? ((Members.get?_eq_some_iff hms.nodup).mpr hm)
                obtain ⟨w, hw, hsame⟩ := hmembers _ (Members.mem_of_get? hv)
                obtain ⟨w', hw', hww'⟩ := hns.exists_get? hw
                exact ⟨w', hw', ih _ (Members.mem_of_get? hv) hmv.symm hww' hsame⟩
          | _ => cases hsame
  | _ =>
      intro x' y y' hx hy hsame
      cases hx
      cases hy <;> exact hsame

/-- Equality does not see the order of members. -/
theorem same_congr {x' y' : Json} (hx : x.Reorders x') (hy : y.Reorders y') :
    x.same y = x'.same y' :=
  Bool.eq_iff_iff.mpr ⟨same_of_reorders hx hy, same_of_reorders hx.symm hy.symm⟩

/-- The text of a string does not depend on any order. -/
theorem Reorders.string?_eq (h : x.Reorders y) : x.string? = y.string? := by
  cases h <;> rfl

end Json

-- =========================================================== operations

namespace Members.Reorders

variable {ms ns : Members} {name : String} {x y : Json}

protected theorem symm (h : ms.Reorders ns) : ns.Reorders ms := Json.Reorders.symm h

/-- What the compiler does to objects can be done in any order of their members. -/
theorem erase (h : ms.Reorders ns) (name : String) : (ms.erase name).Reorders (ns.erase name) := by
  refine reorders_of_get? (nodup_names_erase h.nodup name)
    (nodup_names_erase h.symm.nodup name) fun other => ?_
  by_cases heq : name = other
  · subst heq
    rw [get?_erase_self, get?_erase_self]
    exact .none
  · rw [get?_erase_of_ne heq, get?_erase_of_ne heq]
    exact h.get? other

theorem insert (h : ms.Reorders ns) (name : String) (hxy : x.Reorders y) :
    (ms.insert name x).Reorders (ns.insert name y) := by
  refine reorders_of_get? (nodup_names_insert h.nodup name x)
    (nodup_names_insert h.symm.nodup name y) fun other => ?_
  by_cases heq : name = other
  · subst heq
    rw [get?_insert_self, get?_insert_self]
    exact .some hxy
  · rw [get?_insert_of_ne heq, get?_insert_of_ne heq]
    exact h.get? other

/-- To lay one object over another puts its members in one after the other. Their order
shows in the result, but only as an order. -/
theorem merge {top top' : Members} (h : ms.Reorders ns) (htop : top.Reorders top') :
    (ms.merge top).Reorders (ns.merge top') := by
  refine reorders_of_get? (nodup_names_merge h.nodup) (nodup_names_merge h.symm.nodup)
    fun other => ?_
  rw [get?_merge htop.nodup, get?_merge htop.symm.nodup]
  have hover := htop.get? other
  generalize top.get? other = a, top'.get? other = b at hover
  cases hover with
  | some hxy => exact .some hxy
  | none => exact h.get? other

end Members.Reorders

end Conformance
