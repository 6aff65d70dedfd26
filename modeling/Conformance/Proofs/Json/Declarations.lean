/-
Schemas without their declarations.

`bare` takes `$defs` and `definitions` out of a schema object and out of the
schemas beneath it, wherever a keyword holds schemas. Values that are no schemas
keep all their members, whatever the names, and so do objects whose names are those
of properties or of definitions.

What is put together from members can be put together from bare ones as well:
`bareMembers` can be pulled through looking up, inserting, erasing and merging.
-/
import Conformance.Definitions
import Conformance.Proofs.Json.Names

namespace Conformance

/-- Whether a keyword declares definitions. -/
def Members.declares (name : String) : Bool := name == "$defs" || name == "definitions"

namespace Json

mutual

/-- The schema without declarations, and so the schemas beneath it. -/
def bare : Json → Json
  | object members => object (bareMembers members)
  | x => x

/-- Of the members, those that declare schemas go away, and the others are kept in their
order. -/
def bareMembers : List (String × Json) → List (String × Json)
  | [] => []
  | (name, x) :: rest =>
    if Members.declares name then bareMembers rest
    else (name, bareUnder name x) :: bareMembers rest

/-- What a keyword holds, with the schemas in it bare. -/
def bareUnder (name : String) : Json → Json
  | array items => array (if name = "anyOf" then bareItems items else items)
  | object members =>
    object (if name = "properties" then bareProperties members
      else if name = "items" ∨ name = "additionalProperties" then bareMembers members
      else members)
  | x => x

/-- Every item is taken as a schema. -/
def bareItems : List Json → List Json
  | [] => []
  | x :: rest => bare x :: bareItems rest

/-- Every member is taken as a schema, whatever its name is. -/
def bareProperties : List (String × Json) → List (String × Json)
  | [] => []
  | (name, x) :: rest => (name, bare x) :: bareProperties rest

end

@[simp] theorem bareItems_eq (items : List Json) : bareItems items = items.map bare := by
  induction items with
  | nil => rfl
  | cons x rest ih => rw [bareItems, ih, List.map_cons]

@[simp] theorem bareProperties_eq (members : Members) :
    bareProperties members = members.map fun m => (m.1, m.2.bare) := by
  induction members with
  | nil => rfl
  | cons m rest ih => rw [bareProperties, ih, List.map_cons]

section

variable {name other : String} (x : Json)

/-- A keyword that holds no schemas keeps what it holds. -/
theorem bareUnder_of_plain
    (h : name ∉ ["anyOf", "properties", "items", "additionalProperties"]) :
    bareUnder name x = x := by
  simp only [List.mem_cons, List.not_mem_nil, or_false, not_or] at h
  obtain ⟨hanyOf, hproperties, hitems, hadditional⟩ := h
  cases x with
  | array items => rw [bareUnder, if_neg hanyOf]
  | object members =>
      rw [bareUnder, if_neg hproperties, if_neg fun h => h.elim hitems hadditional]
  | _ => rfl

end

end Json

-- =============================================================== members

namespace Members

open Json

variable {name : String} {members : Members}

/-- A member that declares schemas goes away, and the walk goes on behind it. -/
theorem bareMembers_cons_of_declares (h : declares name = true) (x : Json) (rest : Members) :
    bareMembers ((name, x) :: rest) = bareMembers rest := by
  rw [bareMembers, if_pos h]

/-- Any other member stays, with the schemas in it bare. -/
theorem bareMembers_cons (h : declares name = false) (x : Json) (rest : Members) :
    bareMembers ((name, x) :: rest) = (name, bareUnder name x) :: bareMembers rest := by
  rw [bareMembers, if_neg (Bool.eq_false_iff.mp h)]

/-- Under a keyword that declares nothing, a bare schema holds the same as before,
with the schemas in it bare. -/
theorem get?_bareMembers (h : declares name = false) (members : Members) :
    get? (bareMembers members) name = (members.get? name).map (bareUnder name) := by
  induction members with
  | nil => rfl
  | cons m rest ih =>
      obtain ⟨n, x⟩ := m
      cases hn : declares n with
      | true =>
          -- the member goes away, and it was not the one that is looked for
          have hne : n ≠ name := by
            rintro rfl
            rw [h] at hn
            cases hn
          rw [bareMembers_cons_of_declares hn, get?_cons_of_ne hne, ih]
      | false =>
          rw [bareMembers_cons hn]
          by_cases heq : n = name
          · subst heq
            rw [get?_cons_self, get?_cons_self, Option.map_some]
          · rw [get?_cons_of_ne heq, get?_cons_of_ne heq, ih]

/-- To put in definitions changes nothing. -/
theorem bareMembers_insert_of_declares (h : declares name = true) (members : Members) (x : Json) :
    bareMembers (members.insert name x) = bareMembers members := by
  induction members with
  | nil => rw [insert, bareMembers_cons_of_declares h]
  | cons m rest ih =>
      obtain ⟨n, y⟩ := m
      rw [insert]
      split
      · next heq =>
        subst heq
        rw [bareMembers_cons_of_declares h, bareMembers_cons_of_declares h]
      · cases hn : declares n with
        | true => rw [bareMembers_cons_of_declares hn, bareMembers_cons_of_declares hn, ih]
        | false => rw [bareMembers_cons hn, bareMembers_cons hn, ih]

/-- To put in anything else comes to the same before and after. -/
theorem bareMembers_insert (h : declares name = false) (members : Members) (x : Json) :
    bareMembers (members.insert name x)
      = insert (bareMembers members) name (bareUnder name x) := by
  induction members with
  | nil =>
      rw [insert, bareMembers_cons h]
      rfl
  | cons m rest ih =>
      obtain ⟨n, y⟩ := m
      rw [insert]
      split
      -- the value is put over another, in the same place
      · next heq =>
        subst heq
        rw [bareMembers_cons h, bareMembers_cons h, insert, if_pos rfl]
      · next hne =>
        cases hn : declares n with
        | true => rw [bareMembers_cons_of_declares hn, bareMembers_cons_of_declares hn, ih]
        | false => rw [bareMembers_cons hn, bareMembers_cons hn, ih, insert, if_neg hne]

theorem erase_cons_self (name : String) (x : Json) (rest : Members) :
    erase ((name, x) :: rest) name = rest.erase name := by
  simp [erase]

theorem erase_cons_of_ne {n : String} (h : n ≠ name) (x : Json) (rest : Members) :
    erase ((n, x) :: rest) name = (n, x) :: rest.erase name := by
  simp [erase, h]

/-- So does taking a member out, whether it declares anything or not. -/
theorem bareMembers_erase (members : Members) (name : String) :
    bareMembers (members.erase name) = erase (bareMembers members) name := by
  induction members with
  | nil => rfl
  | cons m rest ih =>
      obtain ⟨n, x⟩ := m
      by_cases heq : n = name
      · subst heq
        rw [erase_cons_self, ih]
        cases hn : declares n with
        | true => rw [bareMembers_cons_of_declares hn]
        | false => rw [bareMembers_cons hn, erase_cons_self]
      · rw [erase_cons_of_ne heq]
        cases hn : declares n with
        | true => rw [bareMembers_cons_of_declares hn, bareMembers_cons_of_declares hn, ih]
        | false => rw [bareMembers_cons hn, bareMembers_cons hn, ih, erase_cons_of_ne heq]

/-- And so does laying one schema over another. -/
theorem bareMembers_merge (base top : Members) :
    bareMembers (base.merge top) = merge (bareMembers base) (bareMembers top) := by
  induction top generalizing base with
  | nil => rfl
  | cons m rest ih =>
      obtain ⟨n, x⟩ := m
      have hmerge : base.merge ((n, x) :: rest) = merge (base.insert n x) rest := rfl
      rw [hmerge, ih]
      cases hn : declares n with
      | true => rw [bareMembers_insert_of_declares hn, bareMembers_cons_of_declares hn]
      | false =>
          rw [bareMembers_insert hn, bareMembers_cons hn]
          rfl

end Members

-- =========================================================== definitions

namespace Definitions

/-- The pool with bare definitions. -/
def bare (pool : Definitions) : Definitions := ⟨pool.members.map fun m => (m.1, m.2.bare)⟩

@[simp] theorem isEmpty_bare (pool : Definitions) : pool.bare.isEmpty = pool.isEmpty :=
  List.isEmpty_map

/-- A reference leads to the same definition, made bare. -/
theorem resolve?_bare (pool : Definitions) (target : String) :
    pool.bare.resolve? target = (pool.resolve? target).map Json.bare :=
  Members.get?_map (fun _ => Json.bare) pool.members (targetName target)

end Definitions

end Conformance
