/-
The parts of a schema document: how many values there are in it, and which
strings stand in it under `$ref`.

The compiler does not only descend into a schema. It also puts schemas
together, from an alternative and the schema around it, or from a type and the
schema that lists it. But it puts them together from members that are there,
and it takes out more than it puts in. So such a schema is smaller than the one
that it was made from (`size_merged_lt`, `size_withType_lt`), and it has no
references that the other has not.
-/
import Conformance.Compiler.Basic
import Mathlib.Data.List.Dedup

namespace Conformance

namespace Json

-- ========================================================== references

/-- The string that a member holds under `$ref`. -/
def ownReference (m : String × Json) : List String :=
  if m.1 = "$ref" then m.2.string?.toList else []

mutual

/-- All strings that stand under `$ref` anywhere in a value. -/
def references : Json → List String
  | array items => referencesItems items
  | object members => referencesMembers members
  | _ => []

/-- Those of the items, one after the other. -/
def referencesItems : List Json → List String
  | [] => []
  | x :: xs => references x ++ referencesItems xs

/-- Of each member its own reference, if it is one, and those within its value. -/
def referencesMembers : List (String × Json) → List String
  | [] => []
  | (name, v) :: rest => ownReference (name, v) ++ references v ++ referencesMembers rest

end

/-- How many different strings stand under `$ref` in a value. -/
def referenceCount (x : Json) : Nat := x.references.dedup.length

/-- A reference within a list stands in one of the items. -/
theorem mem_referencesItems {r : String} {items : List Json} :
    r ∈ referencesItems items ↔ ∃ x ∈ items, r ∈ x.references := by
  induction items with
  | nil => simp [referencesItems]
  | cons x rest ih => simp [referencesItems, ih]

/-- Within members it is one of them or stands in one. -/
theorem mem_referencesMembers {r : String} {members : Members} :
    r ∈ referencesMembers members ↔ ∃ m ∈ members, r ∈ ownReference m ∨ r ∈ m.2.references := by
  induction members with
  | nil => simp [referencesMembers]
  | cons m rest ih =>
      obtain ⟨name, v⟩ := m
      simp only [referencesMembers, List.mem_append, ih, List.mem_cons, exists_eq_or_imp]

/-- A part has no references but those of the whole. -/
theorem references_subset_of_item {x : Json} {items : List Json} (h : x ∈ items) :
    x.references ⊆ (array items).references :=
  fun _ hr => mem_referencesItems.mpr ⟨x, h, hr⟩

theorem references_subset_of_member {m : String × Json} {members : Members} (h : m ∈ members) :
    m.2.references ⊆ (object members).references :=
  fun _ hr => mem_referencesMembers.mpr ⟨m, h, .inr hr⟩

/-- What stands under `$ref` is a reference. -/
theorem mem_references_of_get? {members : Members} {target : String}
    (h : members.get? "$ref" = some (string target)) : target ∈ (object members).references := by
  have hown : target ∈ ownReference ("$ref", string target) := by
    rw [ownReference, if_pos rfl]
    exact List.mem_singleton_self target
  exact mem_referencesMembers.mpr ⟨_, Members.mem_of_get? h, .inl hown⟩

-- ================================================================ sizes

/-- Every value counts itself. -/
theorem size_pos (x : Json) : 0 < x.size := by
  cases x <;> simp only [size] <;> omega

theorem size_le_sizeItems {x : Json} {items : List Json} (h : x ∈ items) :
    x.size ≤ sizeItems items := by
  induction items with
  | nil => cases h
  | cons y rest ih =>
      rw [sizeItems]
      rcases List.mem_cons.mp h with rfl | h
      · omega
      · have := ih h
        omega

theorem size_le_sizeMembers {m : String × Json} {members : Members} (h : m ∈ members) :
    m.2.size ≤ sizeMembers members := by
  induction members with
  | nil => cases h
  | cons n rest ih =>
      rw [sizeMembers]
      rcases List.mem_cons.mp h with rfl | h
      · omega
      · have := ih h
        omega

/-- A part is smaller than what it is a part of. -/
theorem size_lt_of_item {x : Json} {items : List Json} (h : x ∈ items) :
    x.size < (array items).size :=
  Nat.lt_succ_of_le (size_le_sizeItems h)

theorem size_lt_of_member {m : String × Json} {members : Members} (h : m ∈ members) :
    m.2.size < (object members).size :=
  Nat.lt_succ_of_le (size_le_sizeMembers h)

/-- A string under `$ref` is a value too, with no references of its own. -/
theorem length_ownReference_add_le (name : String) {v : Json}
    (h : v.references.length ≤ v.size) :
    (ownReference (name, v)).length + v.references.length ≤ v.size := by
  unfold ownReference
  split
  · cases v with
    | string s => exact Nat.le_refl 1
    | _ => simpa [string?] using h
  · simpa using h

mutual

/-- There are no more references in a value than values. -/
theorem length_references_le_size : ∀ x : Json, x.references.length ≤ x.size
  | array items => by
    have := length_referencesItems_le items
    rw [references, size]
    omega
  | object members => by
    have := length_referencesMembers_le members
    rw [references, size]
    omega
  | null => Nat.zero_le _
  | bool _ => Nat.zero_le _
  | number _ => Nat.zero_le _
  | string _ => Nat.zero_le _

/-- The three bounds are proved along the three definitions. -/
theorem length_referencesItems_le :
    ∀ items : List Json, (referencesItems items).length ≤ sizeItems items
  | [] => Nat.le_refl 0
  | x :: rest => by
    have hhead := length_references_le_size x
    have htail := length_referencesItems_le rest
    rw [referencesItems, sizeItems, List.length_append]
    omega

theorem length_referencesMembers_le :
    ∀ members : List (String × Json), (referencesMembers members).length ≤ sizeMembers members
  | [] => Nat.le_refl 0
  | (name, v) :: rest => by
    have hhead := length_ownReference_add_le name (length_references_le_size v)
    have htail := length_referencesMembers_le rest
    rw [referencesMembers, sizeMembers, List.length_append, List.length_append]
    omega

end

/-- There are no more references than values. -/
theorem referenceCount_le_size (x : Json) : x.referenceCount ≤ x.size :=
  Nat.le_trans (List.dedup_sublist _).length_le (length_references_le_size x)

end Json

-- =========================================================== operations

namespace Members

open Json

/-- Another name is found behind the first member, if anywhere. -/
theorem get?_cons_of_ne {n name : String} (h : n ≠ name) (v : Json) (rest : Members) :
    get? ((n, v) :: rest) name = get? rest name := by
  rw [get?, List.lookup_cons, beq_false_of_ne (Ne.symm h)]
  rfl

/-- A member that is put in is found. -/
theorem get?_insert_self (members : Members) (name : String) (value : Json) :
    (members.insert name value).get? name = some value := by
  induction members with
  | nil => exact List.lookup_cons_self
  | cons n rest ih =>
      obtain ⟨n, v⟩ := n
      rw [insert]
      split
      · next heq =>
        subst heq
        exact List.lookup_cons_self
      · next hne => rw [get?_cons_of_ne hne, ih]

/-- Members of other names stay what they are when one is put in. -/
theorem get?_insert_of_ne {name other : String} (h : name ≠ other) (members : Members)
    (value : Json) : (members.insert name value).get? other = members.get? other := by
  induction members with
  | nil => exact get?_cons_of_ne h value []
  | cons n rest ih =>
      obtain ⟨n, v⟩ := n
      rw [insert]
      split
      · next heq =>
        subst heq
        rw [get?_cons_of_ne h, get?_cons_of_ne h]
      · by_cases heq : n = other
        · subst heq
          rw [get?, get?, List.lookup_cons_self, List.lookup_cons_self]
        · rw [get?_cons_of_ne heq, get?_cons_of_ne heq, ih]

/-- No other members come up. -/
theorem mem_of_mem_insert {members : Members} {name : String} {value : Json} {m : String × Json}
    (h : m ∈ members.insert name value) : m = (name, value) ∨ m ∈ members := by
  induction members with
  | nil => exact .inl (List.mem_singleton.mp h)
  | cons n rest ih =>
      obtain ⟨n, v⟩ := n
      rw [insert] at h
      split at h
      · next heq =>
        rcases List.mem_cons.mp h with hm | hm
        · exact .inl (by rw [hm, heq])
        · exact .inr (List.mem_cons_of_mem _ hm)
      · rcases List.mem_cons.mp h with hm | hm
        · exact .inr (by rw [hm]; exact List.mem_cons_self ..)
        · rcases ih hm with hm | hm
          · exact .inl hm
          · exact .inr (List.mem_cons_of_mem _ hm)

/-- What is laid over an object has members of the one or of the other. -/
theorem mem_of_mem_merge {base top : Members} {m : String × Json} (h : m ∈ base.merge top) :
    m ∈ base ∨ m ∈ top := by
  induction top generalizing base with
  | nil => exact .inl h
  | cons e rest ih =>
      have hrest : m ∈ Members.merge (base.insert e.1 e.2) rest := h
      rcases ih hrest with hm | hm
      · rcases mem_of_mem_insert hm with hm | hm
        · exact .inr (by rw [hm]; exact List.mem_cons_self ..)
        · exact .inl hm
      · exact .inr (List.mem_cons_of_mem _ hm)

/-- A value that is put over another takes its place. -/
theorem sizeMembers_insert_of_get? {members : Members} {name : String} {old : Json}
    (h : members.get? name = some old) (value : Json) :
    sizeMembers (members.insert name value) + old.size = sizeMembers members + value.size := by
  induction members with
  | nil => cases h
  | cons n rest ih =>
      obtain ⟨n, v⟩ := n
      by_cases heq : n = name
      -- the member is replaced here, and what is behind it stays
      · subst heq
        rw [get?, List.lookup_cons_self] at h
        cases h
        rw [insert, if_pos rfl]
        simp only [sizeMembers]
        omega
      · rw [get?_cons_of_ne heq] at h
        have := ih h
        rw [insert, if_neg heq]
        simp only [sizeMembers]
        omega

/-- To take something out leaves no more than was there. -/
theorem sizeMembers_erase_le (members : Members) (name : String) :
    sizeMembers (members.erase name) ≤ sizeMembers members := by
  induction members with
  | nil => exact Nat.le_refl 0
  | cons n rest ih =>
      rw [erase, List.filter_cons]
      rw [erase] at ih
      split
      · simp only [sizeMembers]; omega
      · simp only [sizeMembers]; omega

/-- What is taken out of an object is no longer there. -/
theorem sizeMembers_erase_add_le {members : Members} {name : String} {old : Json}
    (h : members.get? name = some old) :
    sizeMembers (members.erase name) + old.size ≤ sizeMembers members := by
  induction members with
  | nil => cases h
  | cons n rest ih =>
      obtain ⟨n, v⟩ := n
      by_cases heq : n = name
      -- the first member of the name makes up for its value, and others may go with it
      · subst heq
        rw [get?, List.lookup_cons_self] at h
        cases h
        have hle := sizeMembers_erase_le rest n
        rw [erase] at hle
        rw [erase, List.filter_cons, if_neg (by simp)]
        simp only [sizeMembers]
        omega
      · rw [get?_cons_of_ne heq] at h
        have := ih h
        rw [erase] at this
        rw [erase, List.filter_cons, if_pos (by simpa using heq)]
        simp only [sizeMembers]
        omega

/-- A member that is put in adds no more than its value, whether it takes the place of
another or not, and whether it is taken out again or not. -/
theorem sizeMembers_erase_insert_le (members : Members) (name other : String) (value : Json) :
    sizeMembers ((members.insert name value).erase other)
      ≤ sizeMembers (members.erase other) + value.size := by
  induction members with
  | nil =>
      have := sizeMembers_erase_le [(name, value)] other
      simp only [insert, sizeMembers] at this ⊢
      omega
  | cons n rest ih =>
      simp only [erase] at ih ⊢
      rw [insert]
      split
      -- the value is put over the one of the same name
      · next heq =>
        rw [List.filter_cons, List.filter_cons, heq]
        split
        · simp only [sizeMembers]; omega
        · omega
      · rw [List.filter_cons, List.filter_cons]
        split
        · simp only [sizeMembers]; omega
        · exact ih

/-- So laying one object over another adds no more than that one. The keyword that is
taken out is one of the object below. -/
theorem sizeMembers_erase_merge_le (base top : Members) (name : String) :
    sizeMembers ((base.merge top).erase name)
      ≤ sizeMembers (base.erase name) + sizeMembers top := by
  induction top generalizing base with
  | nil => exact Nat.le_refl _
  | cons e rest ih =>
      have hrest := ih (base.insert e.1 e.2)
      have hinsert := sizeMembers_erase_insert_le base e.1 name e.2
      calc sizeMembers ((base.merge (e :: rest)).erase name)
          ≤ sizeMembers ((base.insert e.1 e.2).erase name) + sizeMembers rest := hrest
        _ ≤ sizeMembers (base.erase name) + (e.2.size + sizeMembers rest) := by omega

end Members

-- ====================================================== schemas put together

namespace Compiler

open Json

variable {members : Members}

section

variable {variants : List Json} {sole : Json}
variable (hget : members.get? "anyOf" = some (.array variants)) (hsole : sole ∈ variants)

include hget hsole

/-- A schema with an alternative laid over it is smaller: it has lost the
alternatives, this one included. -/
theorem size_merged_lt : (merged members sole).size < (Json.object members).size := by
  have hlost := Members.sizeMembers_erase_add_le hget
  have halternative := size_lt_of_item hsole
  unfold merged
  cases sole with
  | object fields =>
      have hmerge := Members.sizeMembers_erase_merge_le members fields "anyOf"
      simp only [size] at hmerge halternative hlost ⊢
      omega
  | _ =>
      simp only [Members.merge, List.foldl_nil, size] at halternative hlost ⊢
      omega

/-- To put an alternative in the place of its list brings no reference that was not there. -/
theorem references_merged_subset :
    (merged members sole).references ⊆ (Json.object members).references := by
  intro r hr
  obtain ⟨m, hm, hown⟩ := mem_referencesMembers.mp hr
  have hm : m ∈ Members.merge members _ := (List.mem_filter.mp hm).1
  rcases Members.mem_of_mem_merge hm with hm | hm
  · exact mem_referencesMembers.mpr ⟨m, hm, hown⟩
  · -- a field of the alternative, which is beneath the schema
    have hinside : r ∈ sole.references := by
      cases sole with
      | object fields => exact mem_referencesMembers.mpr ⟨m, hm, hown⟩
      | _ => cases hm
    exact references_subset_of_member (Members.mem_of_get? hget)
      (references_subset_of_item hsole hinside)

end

section

variable {names : List Json} {name : Json}
variable (hget : members.get? "type" = some (.array names)) (hname : name ∈ names)

include hget hname

/-- A schema with one of the types that it lists is smaller. -/
theorem size_withType_lt : (withType members name).size < (Json.object members).size := by
  have hreplaced := Members.sizeMembers_insert_of_get? hget name
  have hlisted := size_lt_of_item hname
  unfold withType
  rw [size, size]
  omega

/-- To put a type in the place of its list brings no reference that was not there. -/
theorem references_withType_subset :
    (withType members name).references ⊆ (Json.object members).references := by
  intro r hr
  obtain ⟨m, hm, hr⟩ := mem_referencesMembers.mp hr
  rcases Members.mem_of_mem_insert hm with rfl | hm
  · rcases hr with hr | hr
    · cases hr
    · exact references_subset_of_member (Members.mem_of_get? hget)
        (references_subset_of_item hname hr)
  · exact mem_referencesMembers.mpr ⟨m, hm, hr⟩

end

end Compiler

end Conformance
