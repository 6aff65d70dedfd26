/-
Values with members left out.

`Prunes` relates a value to what is left of it when members are left out at any
depth, and the others put in some order. Scalars stay as they are, and so do the
number and the places of items. So the second value is the first again, in some
order, or it is smaller (`Prunes.reorders_or_size_lt`): where values are pruned
again and again, nothing more is lost from some point on.
-/
import Conformance.Proofs.Json.Order

namespace Conformance

namespace Json

/-- The second value comes from the first by leaving out members, and putting
others in another order. -/
inductive Prunes : Json → Json → Prop
  | null : Prunes null null
  | bool (b : Bool) : Prunes (bool b) (bool b)
  | number (n : Number) : Prunes (number n) (number n)
  | string (s : String) : Prunes (string s) (string s)
  | array {xs ys : List Json} (hitems : List.Forall₂ Prunes xs ys) : Prunes (array xs) (array ys)
  | object {ms ns : Members} (hnodup : ns.names.Nodup) (hnames : ns.names ⊆ ms.names)
      (hvalues : ∀ name x y, ms.get? name = some x → ns.get? name = some y → Prunes x y) :
      Prunes (object ms) (object ns)

variable {x y : Json}

/-- To leave out nothing is a case of pruning. -/
theorem Reorders.prunes : ∀ {y : Json}, x.Reorders y → x.Prunes y := by
  induction x using Json.induction with
  | array items ih =>
      intro y h
      cases h with
      | array hitems =>
          have hand := (List.forall₂_and_left _ _).mpr ⟨ih, hitems⟩
          exact .array (hand.imp fun _ _ h => h.1 h.2)
  | object members ih =>
      intro y h
      cases h with
      | object hnodup hnames hvalues =>
          refine .object (hnames.nodup_iff.mp hnodup) hnames.symm.subset fun name v w hv hw => ?_
          exact ih _ (Members.mem_of_get? hv) (hvalues name v w hv hw)
  | _ =>
      intro y h
      cases h
      constructor

/-- What is left has distinct names. -/
theorem Prunes.distinct : ∀ {x : Json}, x.Prunes y → y.Distinct := by
  induction y using Json.induction with
  | array items ih =>
      intro x h
      cases h with
      | array hitems =>
          refine .array fun w hw => ?_
          obtain ⟨v, _, hvw⟩ := exists_left_of_forall₂ hitems w hw
          exact ih w hw hvw
  | object members ih =>
      intro x h
      cases h with
      | object hnodup hnames hvalues =>
          refine .object hnodup fun m hm => ?_
          have hget := (Members.get?_eq_some_iff hnodup).mpr hm
          obtain ⟨v, hv⟩ := Members.mem_names_iff.mp (hnames (Members.mem_names_of_mem hm))
          exact ih m hm (hvalues m.1 v m.2 hv hget)
  | _ =>
      intro x _
      constructor

-- ================================================================= sizes

/-- The second value is no larger than the first, and where it is as large it is
the first in some order. -/
def Lessens (x y : Json) : Prop := y.size ≤ x.size ∧ (x.size ≤ y.size → x.Reorders y)

/-- Items are pruned one by one, so their sizes add up. -/
theorem lessens_array {xs ys : List Json} (h : List.Forall₂ Lessens xs ys) :
    Lessens (array xs) (array ys) := by
  have hitems : sizeItems ys ≤ sizeItems xs ∧
      (sizeItems xs ≤ sizeItems ys → List.Forall₂ Reorders xs ys) := by
    induction h with
    | nil => exact ⟨Nat.le_refl _, fun _ => .nil⟩
    | cons hhead _ ih =>
        obtain ⟨hle, hreorders⟩ := hhead
        obtain ⟨hles, hall⟩ := ih
        simp only [sizeItems]
        exact ⟨by omega, fun h => .cons (hreorders (by omega)) (hall (by omega))⟩
  refine ⟨?_, fun h => .array (hitems.2 ?_)⟩
  · simp only [size]
    omega
  · simp only [size] at h
    omega

section

variable {ms ns : Members}

/-- Each member that is left is taken out of the first object with what it was
before. What remains there at the end has been left out. -/
theorem sizeMembers_le_of_lessens (hms : ms.names.Nodup) (hns : ns.names.Nodup)
    (hnames : ns.names ⊆ ms.names)
    (hvalues : ∀ name x y, ms.get? name = some x → ns.get? name = some y → Lessens x y) :
    sizeMembers ns ≤ sizeMembers ms ∧ (sizeMembers ms ≤ sizeMembers ns → ms.Reorders ns) := by
  induction ns generalizing ms with
  | nil =>
      refine ⟨Nat.zero_le _, fun h => ?_⟩
      cases ms with
      | nil => exact Members.Distinct.nil.reorders
      | cons m rest =>
          have hpos := size_pos m.2
          simp only [sizeMembers] at h
          omega
  | cons n rest ih =>
      obtain ⟨name, y⟩ := n
      obtain ⟨hname, hrest⟩ := List.nodup_cons.mp hns
      obtain ⟨x, (hx : ms.get? name = some x)⟩ :=
        Members.mem_names_iff.mp (hnames (List.mem_cons_self ..))
      -- the names of the others are found where this one has been taken out
      have hother : ∀ {other}, other ∈ Members.names rest → name ≠ other :=
        fun hmem heq => hname (heq ▸ hmem)
      have hsub : Members.names rest ⊆ (ms.erase name).names := fun other hmem => by
        obtain ⟨z, hz⟩ := Members.mem_names_iff.mp (hnames (List.mem_cons_of_mem _ hmem))
        rw [← Members.get?_erase_of_ne (hother hmem)] at hz
        exact Members.mem_names_iff.mpr ⟨z, hz⟩
      have hbelow : ∀ other v w, (ms.erase name).get? other = some v →
          Members.get? rest other = some w → Lessens v w := fun other v w hv hw => by
        have hne := hother (Members.mem_names_iff.mpr ⟨w, hw⟩)
        rw [Members.get?_erase_of_ne hne] at hv
        exact hvalues other v w hv ((Members.get?_cons_of_ne hne ..).trans hw)
      obtain ⟨hle, hreorders⟩ := hvalues name x y hx (Members.get?_cons_self ..)
      obtain ⟨hles, hall⟩ := ih (Members.nodup_names_erase hms name) hrest hsub hbelow
      -- what is left of the member and what is left of the others add up
      have htaken := Members.sizeMembers_erase_add_le hx
      simp only [sizeMembers]
      refine ⟨by omega, fun h => Members.reorders_of_get? hms hns fun other => ?_⟩
      -- if nothing is lost in the sum, nothing is in either part
      by_cases heq : name = other
      · subst heq
        rw [hx, Members.get?_cons_self]
        exact .some (hreorders (by omega))
      · rw [Members.get?_cons_of_ne heq, ← Members.get?_erase_of_ne heq]
        exact (hall (by omega)).get? other

/-- So an object that has lost nothing is the same up to order. -/
theorem lessens_object (hms : ms.names.Nodup) (hns : ns.names.Nodup)
    (hnames : ns.names ⊆ ms.names)
    (hvalues : ∀ name x y, ms.get? name = some x → ns.get? name = some y → Lessens x y) :
    Lessens (object ms) (object ns) := by
  have hmembers := sizeMembers_le_of_lessens hms hns hnames hvalues
  refine ⟨?_, fun h => hmembers.2 ?_⟩
  · simp only [size]
    omega
  · simp only [size] at h
    omega

end

/-- Pruning takes away from the size, and if it takes nothing it has only reordered. -/
theorem Prunes.lessens (hx : x.Distinct) : ∀ {y : Json}, x.Prunes y → x.Lessens y := by
  induction x using Json.induction with
  | array items ih =>
      intro y h
      cases h with
      | array hitems =>
          have hand := (List.forall₂_and_left _ _).mpr ⟨fun _ hv => hv, hitems⟩
          exact lessens_array (hand.imp fun v _ h => ih v h.1 (distinct_array.mp hx v h.1) h.2)
  | object members ih =>
      intro y h
      cases h with
      | object hnodup hnames hvalues =>
          refine lessens_object (Members.Distinct.names hx) hnodup hnames fun name v w hv hw => ?_
          exact ih _ (Members.mem_of_get? hv) (Members.Distinct.get? hx hv)
            (hvalues name v w hv hw)
  | _ =>
      intro y h
      cases h
      exact ⟨Nat.le_refl _, fun _ => hx.reorders⟩

/-- A value that is pruned stays the same but for the order, or there is less of
it. -/
theorem Prunes.reorders_or_size_lt (h : x.Prunes y) (hx : x.Distinct) :
    x.Reorders y ∨ y.size < x.size := by
  obtain ⟨hle, hreorders⟩ := h.lessens hx
  rcases Nat.lt_or_ge y.size x.size with hlt | hge
  · exact .inr hlt
  · exact .inl (hreorders hge)

end Json

end Conformance
