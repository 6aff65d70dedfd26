/-
One level of a compilation, as a relation.

`Layer` leaves out of what a rule of the compiler does all that does not show in its
result: errors and the paths in them, warnings, what is remembered, and the names of nodes.
It says which validators the shape of a schema comes to, when `below` says which the
schemas beneath it come to, and it has one case for each kind of node that the compiler
builds. What a shape hands down to be compiled (`Shape.Hands`) and what becomes of it there
(`Shape.Becomes`) is said once for all of these.
-/
import Conformance.Proofs.Lists
import Conformance.Proofs.Compiler.Shape
import Conformance.Proofs.Compiler.Sharing

namespace Conformance

/-- The validator of a shape with no schema beneath it. -/
def Shape.leaf? : Shape → Option Validator
  | anything => some .any
  | .values list => some (Compiler.enumeration list)
  | string rules => some (.string rules)
  | number rules => some (.number rules)
  | boolean => some .boolean
  | null => some .null
  | _ => none

section

variable (options : CompileOptions)

/-- The validator of a shape, when `below` gives those of the schemas beneath
it. -/
inductive Layer (pool : Definitions) (visited : VisitedPath)
    (below : VisitedPath → Json → Validator → Prop) : Shape → Validator → Prop
  | leaf {shape : Shape} {v : Validator} (h : shape.leaf? = some v) :
      Layer pool visited below shape v
  | cut {target : String} (hentered : visited.contains target = true)
      (hnested : visited.isNested target = false) :
      Layer pool visited below (.reference target) (.union [])
  | deferred {d : Deferred} (hpool : d.pool = pool) (hvisited : d.visited = visited)
      (hoptions : d.options = options) :
      Layer pool visited below (.reference d.reference) (.deferred d)
  | followed {target : String} {definition : Json} {v : Validator} {number : Nat}
      (hentered : visited.contains target = false)
      (hresolve : pool.resolve? target = some definition)
      (h : below (visited.enter target) definition v) :
      Layer pool visited below (.reference target) (.shared number v)
  | optional {inner : Json} {v : Validator} (h : below visited inner v) :
      Layer pool visited below (.optional inner) (.optional v)
  | union {alternatives : List Json} {vs : List Validator}
      (h : List.Forall₂ (below visited) alternatives vs) :
      Layer pool visited below (.union alternatives) (.union vs)
  | array {items : Json} {bounds : ItemBounds} {v : Validator}
      (h : below visited.descend items v) :
      Layer pool visited below (.array items bounds) (.array v bounds)
  | object {properties : List (Property Json)} {additional : Additional Json}
      {ps : List (Property Validator)} {a : Additional Validator}
      (hproperties : List.Forall₂ (Property.Rel (below visited.descend)) properties ps)
      (hadditional : Additional.Rel (below visited.descend) additional a) :
      Layer pool visited below (.object properties additional) (.object ps a)

end

namespace Layer

variable {options : CompileOptions} {pool : Definitions} {visited : VisitedPath}
variable {below : VisitedPath → Json → Validator → Prop} {v : Validator}

/-- What a reference comes to: nothing, if it has been entered and no data has
been reached since, a deferred node, if some has, and else its definition. -/
theorem reference_cases {target : String}
    (h : Layer options pool visited below (.reference target) v) :
    (visited.contains target = true ∧ visited.isNested target = false ∧ v = .union []) ∨
    (∃ d : Deferred, d.reference = target ∧ d.pool = pool ∧ d.visited = visited ∧
      v = .deferred d) ∨
    ∃ definition t number, visited.contains target = false ∧
      pool.resolve? target = some definition ∧ below (visited.enter target) definition t ∧
      v = .shared number t := by
  cases h with
  | leaf h => cases h
  | cut hentered hnested => exact .inl ⟨hentered, hnested, rfl⟩
  | deferred hpool hvisited => exact .inr (.inl ⟨_, rfl, hpool, hvisited, rfl⟩)
  | followed hentered hresolve h => exact .inr (.inr ⟨_, _, _, hentered, hresolve, h, rfl⟩)

/-- The shape tells the kind of the node, so a layer over it can be taken apart. -/
theorem exists_optional {inner : Json} (h : Layer options pool visited below (.optional inner) v) :
    ∃ t, v = .optional t ∧ below visited inner t := by
  cases h with
  | leaf h => cases h
  | optional h => exact ⟨_, rfl, h⟩

/-- The alternatives of a union are related in their order. -/
theorem exists_union {alternatives : List Json}
    (h : Layer options pool visited below (.union alternatives) v) :
    ∃ ts, v = .union ts ∧ List.Forall₂ (below visited) alternatives ts := by
  cases h with
  | leaf h => cases h
  | union h => exact ⟨_, rfl, h⟩

/-- The schema of the items stands further down in the data. -/
theorem exists_array {items : Json} {bounds : ItemBounds}
    (h : Layer options pool visited below (.array items bounds) v) :
    ∃ t, v = .array t bounds ∧ below visited.descend items t := by
  cases h with
  | leaf h => cases h
  | array h => exact ⟨_, rfl, h⟩

/-- Properties keep their order, and what becomes of other members keeps its kind. -/
theorem exists_object {properties : List (Property Json)} {additional : Additional Json}
    (h : Layer options pool visited below (.object properties additional) v) :
    ∃ ps a, v = .object ps a ∧
      List.Forall₂ (Property.Rel (below visited.descend)) properties ps ∧
      Additional.Rel (below visited.descend) additional a := by
  cases h with
  | leaf h => cases h
  | object hproperties hadditional => exact ⟨_, _, rfl, hproperties, hadditional⟩

end Layer

-- ======================================================= names of nodes

namespace Validator

/-! What a validator is, seen from what is left when names are forgotten. -/

variable {v w : Validator}

/-- To forget names leaves the kind of a node as it is. So the kind can be read off what
is left. -/
theorem anonymous_eq_optional (h : v.anonymous = optional w) :
    ∃ u, v = optional u ∧ u.anonymous = w := by
  cases v <;> simp [anonymous, forget] at h
  exact ⟨_, rfl, h⟩

theorem anonymous_eq_union {ws : List Validator} (h : v.anonymous = union ws) :
    ∃ us, v = union us ∧ us.map anonymous = ws := by
  cases v <;> simp [anonymous, forget] at h
  exact ⟨_, rfl, h⟩

theorem anonymous_eq_array {bounds : ItemBounds} (h : v.anonymous = array w bounds) :
    ∃ u, v = array u bounds ∧ u.anonymous = w := by
  cases v <;> simp [anonymous, forget] at h
  exact ⟨_, by rw [h.2], h.1⟩

/-- Properties keep their own names, which are not the names of nodes. -/
theorem anonymous_eq_object {properties : List (Property Validator)}
    {additional : Additional Validator} (h : v.anonymous = object properties additional) :
    ∃ ps a, v = object ps a ∧ ps.map (Property.map anonymous) = properties ∧
      a.map anonymous = additional := by
  cases v <;> simp [anonymous, forget] at h
  exact ⟨_, _, rfl, h⟩

/-- A shared node stays one, only its number is lost. -/
theorem anonymous_eq_shared {number : Nat} (h : v.anonymous = shared number w) :
    ∃ k u, v = shared k u ∧ u.anonymous = w := by
  cases v <;> simp [anonymous, forget] at h
  exact ⟨_, _, rfl, h.2⟩

/-- A deferred node keeps everything but the place under which it is remembered. -/
theorem anonymous_eq_deferred {d : Deferred} (h : v.anonymous = deferred d) :
    ∃ e, v = deferred e ∧ { e with key := [] } = d := by
  cases v <;> simp [anonymous, forget] at h
  exact ⟨_, rfl, h⟩

/-- A literal has no name to forget. -/
theorem anonymous_eq_literal {value : Json} : v.anonymous = literal value ↔ v = literal value := by
  cases v <;> simp [anonymous, forget]

/-- A union of literals has no names to forget. -/
theorem map_anonymous_eq_literals {values : List Json} :
    ∀ {vs : List Validator}, vs.map anonymous = values.map literal ↔ vs = values.map literal := by
  induction values with
  | nil => intro vs; cases vs <;> simp
  | cons value rest ih =>
      intro vs
      cases vs with
      | nil => simp
      | cons v vs => simp only [List.map_cons, List.cons.injEq, anonymous_eq_literal, ih]

/-- A leaf has no names to forget. -/
theorem anonymous_eq_leaf {shape : Shape} (hleaf : shape.leaf? = some w) :
    v.anonymous = w ↔ v = w := by
  cases shape with
  | anything | string | number | boolean | null =>
      cases hleaf
      cases v <;> simp [anonymous, forget]
  -- an enumeration is a literal, a list of texts or a union of literals
  | values list =>
      cases hleaf
      unfold Compiler.enumeration
      split
      · exact anonymous_eq_literal
      · cases v <;> simp [anonymous, forget]
      · constructor
        · intro h
          obtain ⟨us, rfl, hus⟩ := anonymous_eq_union h
          rw [map_anonymous_eq_literals.mp hus]
        · intro h
          subst h
          rw [anonymous_union, map_anonymous_eq_literals.mpr rfl]
  | reference | optional | union | array | object => cases hleaf

/-- Beneath a leaf there are at most values. -/
theorem part_of_leaf {shape : Shape} {v w : Validator} (hleaf : shape.leaf? = some v)
    (hpart : v.Part w) : ∃ x, w = .literal x := by
  cases shape with
  | anything | string | number | boolean | null =>
      cases hleaf
      cases hpart
  -- only the union of literals has parts
  | values list =>
      cases hleaf
      unfold Compiler.enumeration at hpart
      split at hpart
      · cases hpart
      · cases hpart
      · cases hpart with
        | variant hv =>
            obtain ⟨x, _, rfl⟩ := List.mem_map.mp hv
            exact ⟨x, rfl⟩
  | reference | optional | union | array | object => cases hleaf

/-- A value defers nothing. -/
theorem not_holds_literal {x : Json} {d : Deferred} : ¬ (literal x).Holds d := by
  intro h
  cases h with
  | beneath hpart => cases hpart

/-- A leaf is no deferred reference. -/
theorem leaf_ne_deferred {shape : Shape} {d : Deferred} : shape.leaf? ≠ some (.deferred d) := by
  intro hleaf
  cases shape with
  | values list =>
      have heq : Compiler.enumeration list = .deferred d := Option.some.inj hleaf
      unfold Compiler.enumeration at heq
      split at heq <;> cases heq
  | _ => cases hleaf

end Validator

-- ====================================================== what is handed down

/-- A shape hands a schema down, to be compiled in the pool after a history. -/
inductive Shape.Hands (pool : Definitions) (visited : VisitedPath) :
    Shape → VisitedPath → Json → Prop
  | definition {target : String} {definition : Json}
      (hentered : visited.contains target = false)
      (hresolve : pool.resolve? target = some definition) :
      Hands pool visited (.reference target) (visited.enter target) definition
  | inner {schema : Json} : Hands pool visited (.optional schema) visited schema
  | alternative {alternatives : List Json} {schema : Json} (h : schema ∈ alternatives) :
      Hands pool visited (.union alternatives) visited schema
  | items {schema : Json} {bounds : ItemBounds} :
      Hands pool visited (.array schema bounds) visited.descend schema
  | property {properties : List (Property Json)} {additional : Additional Json}
      {p : Property Json} (hp : p ∈ properties) :
      Hands pool visited (.object properties additional) visited.descend p.validator
  | other {properties : List (Property Json)} {schema : Json} :
      Hands pool visited (.object properties (.schema schema)) visited.descend schema

/-- Where the shape has become the first validator, a schema that it hands down has
become a part of it. -/
inductive Shape.Becomes (pool : Definitions) : Shape → Validator → Json → Validator → Prop
  | definition {target : String} {number : Nat} {definition : Json} {w : Validator}
      (hresolve : pool.resolve? target = some definition) :
      Becomes pool (.reference target) (.shared number w) definition w
  | inner {schema : Json} {w : Validator} :
      Becomes pool (.optional schema) (.optional w) schema w
  | alternative {alternatives : List Json} {ws : List Validator} {schema : Json} {w : Validator}
      (h : (schema, w) ∈ alternatives.zip ws) :
      Becomes pool (.union alternatives) (.union ws) schema w
  | items {schema : Json} {bounds : ItemBounds} {w : Validator} :
      Becomes pool (.array schema bounds) (.array w bounds) schema w
  | property {properties : List (Property Json)} {additional : Additional Json}
      {ps : List (Property Validator)} {a : Additional Validator} {p : Property Json}
      {q : Property Validator} (h : (p, q) ∈ properties.zip ps) :
      Becomes pool (.object properties additional) (.object ps a) p.validator q.validator
  | other {properties : List (Property Json)} {ps : List (Property Validator)} {schema : Json}
      {w : Validator} :
      Becomes pool (.object properties (.schema schema)) (.object ps (.schema w)) schema w

namespace Layer

variable {options : CompileOptions} {pool : Definitions} {visited : VisitedPath}
variable {below below' : VisitedPath → Json → Validator → Prop} {shape : Shape} {v w : Validator}

/-- Only a reference is deferred, with what the layer has at hand. -/
theorem of_deferred {d : Deferred} (h : Layer options pool visited below shape (.deferred d)) :
    shape = .reference d.reference ∧ d.pool = pool ∧ d.visited = visited ∧
      d.options = options := by
  cases h with
  | leaf hleaf => exact absurd hleaf Validator.leaf_ne_deferred
  | deferred hpool hvisited hoptions => exact ⟨rfl, hpool, hvisited, hoptions⟩

/-- Of what lies beneath, a layer depends on what its shape hands down. -/
theorem imp (h : Layer options pool visited below shape v)
    (himp : ∀ path schema w, shape.Hands pool visited path schema →
      below path schema w → below' path schema w) :
    Layer options pool visited below' shape v := by
  cases h with
  | leaf h => exact .leaf h
  | cut hentered hnested => exact .cut hentered hnested
  | deferred hpool hvisited hoptions => exact .deferred hpool hvisited hoptions
  -- in the other cases a schema has been handed down
  | followed hentered hresolve h =>
      exact .followed hentered hresolve (himp _ _ _ (.definition hentered hresolve) h)
  | optional h => exact .optional (himp _ _ _ .inner h)
  | union hs =>
      exact .union (forall₂_imp_of_mem hs fun _ hs _ h => himp _ _ _ (.alternative hs) h)
  | array h => exact .array (himp _ _ _ .items h)
  | object hproperties hadditional =>
      refine .object (forall₂_imp_of_mem hproperties fun _ hp _ h =>
        ⟨h.1, h.2.1, himp _ _ _ (.property hp) h.2.2⟩) ?_
      cases hadditional with
      | ignore => exact .ignore
      | reject => exact .reject
      | schema h => exact .schema (himp _ _ _ .other h)

/-- In a layer, what has become of a schema handed down is what lies beneath. -/
theorem of_becomes (h : Layer options pool visited below shape v) {schema : Json}
    (hbecomes : shape.Becomes pool v schema w) :
    ∃ path, shape.Hands pool visited path schema ∧ below path schema w := by
  cases hbecomes with
  -- the reference was followed, since it is a shared node now
  | definition hdefinition =>
      cases h with
      | leaf hleaf => cases hleaf
      | followed hentered hresolve hw =>
          rw [hdefinition] at hresolve
          cases hresolve
          exact ⟨_, .definition hentered hdefinition, hw⟩
  | inner =>
      cases h with
      | leaf hleaf => cases hleaf
      | optional hw => exact ⟨_, .inner, hw⟩
  -- alternatives and what they have become are paired
  | alternative hmem =>
      cases h with
      | leaf hleaf => cases hleaf
      | union hs =>
          exact ⟨_, .alternative (List.of_mem_zip hmem).1, (List.forall₂_iff_zip.mp hs).2 hmem⟩
  | items =>
      cases h with
      | leaf hleaf => cases hleaf
      | array hw => exact ⟨_, .items, hw⟩
  | property hmem =>
      cases h with
      | leaf hleaf => cases hleaf
      | object hproperties =>
          -- the property and what it has become stand in the same place
          have hrel := (List.forall₂_iff_zip.mp hproperties).2 hmem
          exact ⟨_, .property (List.of_mem_zip hmem).1, hrel.2.2⟩
  | other =>
      cases h with
      | leaf hleaf => cases hleaf
      | object _ hadditional =>
          cases hadditional with
          | schema hw => exact ⟨_, .other, hw⟩

/-- A part of a layer is what has become of a schema handed down, but for the values
of an enumeration. -/
theorem becomes_of_part (h : Layer options pool visited below shape v) (hpart : v.Part w) :
    (∃ schema, shape.Becomes pool v schema w) ∨ ∃ x, w = .literal x := by
  cases h with
  | leaf hleaf => exact .inr (Validator.part_of_leaf hleaf hpart)
  | cut =>
      cases hpart with
      | variant hv => exact absurd hv List.not_mem_nil
  | deferred => cases hpart
  | followed _ hresolve =>
      cases hpart
      exact .inl ⟨_, .definition hresolve⟩
  | optional =>
      cases hpart
      exact .inl ⟨_, .inner⟩
  | union hs =>
      cases hpart with
      | variant hv =>
          obtain ⟨_, hmem⟩ := exists_mem_zip_of_forall₂ hs _ hv
          exact .inl ⟨_, .alternative hmem⟩
  | array =>
      cases hpart
      exact .inl ⟨_, .items⟩
  | object hproperties hadditional =>
      cases hpart with
      | property hp =>
          obtain ⟨_, hmem⟩ := exists_mem_zip_of_forall₂ hproperties _ hp
          exact .inl ⟨_, .property hmem⟩
      | other =>
          cases hadditional with
          | schema => exact .inl ⟨_, .other⟩

/-- So a part lies beneath a schema that was handed down, unless it is a literal. -/
theorem part (h : Layer options pool visited below shape v) (hpart : v.Part w) :
    (∃ path schema, shape.Hands pool visited path schema ∧ below path schema w) ∨
      ∃ x, w = .literal x := by
  rcases h.becomes_of_part hpart with ⟨schema, hbecomes⟩ | hliteral
  · obtain ⟨path, hhands, hw⟩ := h.of_becomes hbecomes
    exact .inl ⟨path, schema, hhands, hw⟩
  · exact .inr hliteral

end Layer

end Conformance
