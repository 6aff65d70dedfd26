/-
A compilation that succeeds settles every reference for good.

A deferred reference is compiled later than the rest, on a branch that has
entered more references, and with the levels counted from the beginning again.
Neither can make it fail. To have entered more only means that more references
are not followed, and more levels only that more is allowed:
`exists_expands_of_like`, which also says that a schema does as well as one that
is like it.

And each definition that is compiled later was compiled before. The branch of a
deferred reference has entered it, so its definition came to something on a
branch that had entered less. `Grounded` says so of every reference on a branch,
and it holds on every branch of a compilation, also of the later ones.
-/
import Conformance.Proofs.Compiler.Likeness
import Conformance.Session

namespace Conformance

variable {options : CompileOptions}

-- ======================================================== more is no harm

/-- A reference that has been entered comes to something at once. -/
theorem exists_layer_of_contains (options : CompileOptions) (pool : Definitions)
    {visited : VisitedPath} (below : VisitedPath → Json → Validator → Prop) {target : String}
    (h : visited.contains target = true) :
    ∃ v, Layer options pool visited below (.reference target) v := by
  cases hnested : visited.isNested target with
  | false => exact ⟨_, .cut h hnested⟩
  | true =>
      let d : Deferred := ⟨[], target, pool, visited, options, hnested⟩
      exact ⟨.deferred d, Layer.deferred (d := d) rfl rfl rfl⟩

section

variable {l : Likeness} {options' : CompileOptions} {pool pool' : Definitions}
variable {visited wider : VisitedPath} {below below' : VisitedPath → Json → Validator → Prop}
variable {v : Validator} (hpool : l.Pools pool pool') (hwithin : visited.Within wider)
  (hbelow : ∀ (path other : VisitedPath) (schema schema' : Json) (v : Validator),
    path.Within other → l.Values schema schema' → below path schema v →
    ∃ w, below' other schema' w)

include hwithin hbelow

include hpool in
/-- Where more has been entered, a reference is cut or deferred sooner, and cannot fail
then. -/
theorem exists_layer_of_reference {target : String}
    (h : Layer options pool visited below (.reference target) v) :
    ∃ w, Layer options' pool' wider below' (.reference target) w := by
  cases hentered : wider.contains target with
  | true => exact exists_layer_of_contains options' pool' below' hentered
  | false =>
      -- what has not been entered by now had not been entered before
      have hnot : ¬ visited.contains target = true := fun h => by
        rw [hwithin _ h] at hentered
        cases hentered
      cases h with
      | leaf h => cases h
      | cut h => exact absurd h hnot
      | @deferred d _ hvisited =>
          exact absurd (hvisited ▸ VisitedPath.contains_of_isNested d.nested) hnot
      | followed _ hresolve h =>
          obtain ⟨definition, hresolve', hlike⟩ := hpool.resolve? hresolve
          obtain ⟨w, hw⟩ := hbelow _ _ _ _ _ (hwithin.enter target) hlike h
          exact ⟨.shared 0 w, .followed hentered hresolve' hw⟩

/-- Alternatives come to something one by one. -/
theorem exists_layer_of_union {alternatives alternatives' : List Json}
    (hlike : List.Forall₂ l.Values alternatives alternatives')
    (h : Layer options pool visited below (.union alternatives) v) :
    ∃ w, Layer options' pool' wider below' (.union alternatives') w := by
  obtain ⟨vs, -, hs⟩ := h.exists_union
  have hvariants : ∀ schema ∈ alternatives', ∃ w, below' wider schema w := by
    intro schema hschema
    obtain ⟨other, hother, hlike⟩ := exists_left_of_forall₂ hlike schema hschema
    obtain ⟨_, _, h⟩ := exists_right_of_forall₂ hs other hother
    exact hbelow _ _ _ _ _ hwithin hlike h
  obtain ⟨ws, hws⟩ := exists_forall₂ hvariants
  exact ⟨.union ws, .union hws⟩

/-- So do properties, in whichever order they stand. -/
theorem exists_layer_of_object {properties properties' : List (Property Json)}
    {additional additional' : Additional Json}
    (hlikes : l.Properties l.Values properties properties')
    (hlike : Additional.Rel l.Values additional additional')
    (h : Layer options pool visited below (.object properties additional) v) :
    ∃ w, Layer options' pool' wider below' (.object properties' additional') w := by
  obtain ⟨_, _, -, hproperties, hadditional⟩ := h.exists_object
  -- each property has one on the other side that came to something
  have hdeclared : ∀ q ∈ properties', ∃ w, Property.Rel (below' wider.descend) q w := by
    intro q hq
    obtain ⟨p, hp, -, -, hlike⟩ := hlikes.exists_left hq
    obtain ⟨_, _, -, -, h⟩ := exists_right_of_forall₂ hproperties p hp
    obtain ⟨w, hw⟩ := hbelow _ _ _ _ _ hwithin.descend hlike h
    exact ⟨⟨q.name, q.required, w⟩, rfl, rfl, hw⟩
  obtain ⟨ws, hws⟩ := exists_forall₂ hdeclared
  cases hlike with
  | ignore => exact ⟨.object ws .ignore, .object hws .ignore⟩
  | reject => exact ⟨.object ws .reject, .object hws .reject⟩
  | schema hlike =>
      cases hadditional with
      | schema h =>
          obtain ⟨w, hw⟩ := hbelow _ _ _ _ _ hwithin.descend hlike h
          exact ⟨.object ws (.schema w), .object hws (.schema hw)⟩

include hpool in
/-- One layer over schemas that still come to something comes to something too. -/
theorem exists_layer_of_like {shape shape' : Shape} (hlike : shape.Like l shape')
    (h : Layer options pool visited below shape v) :
    ∃ w, Layer options' pool' wider below' shape' w := by
  cases hlike with
  | anything | values | string | number | boolean | null => exact ⟨_, .leaf rfl⟩
  | reference target => exact exists_layer_of_reference hpool hwithin hbelow h
  | optional hlike =>
      obtain ⟨_, -, h⟩ := h.exists_optional
      obtain ⟨w, hw⟩ := hbelow _ _ _ _ _ hwithin hlike h
      exact ⟨.optional w, .optional hw⟩
  | union hlike => exact exists_layer_of_union hwithin hbelow hlike h
  | array hlike bounds =>
      obtain ⟨_, -, h⟩ := h.exists_array
      obtain ⟨w, hw⟩ := hbelow _ _ _ _ _ hwithin.descend hlike h
      exact ⟨.array w bounds, .array hw⟩
  | object hlikes hlike => exact exists_layer_of_object hwithin hbelow hlikes hlike h

end

/-- What comes to something, comes to something on a branch that has entered
more, with more levels left, and where schema and pool are only alike. -/
theorem exists_expands_of_like {l : Likeness} {options' : CompileOptions}
    (hformats : options.formats = options'.formats) {m : Nat} :
    ∀ {n : Nat} {pool pool' : Definitions} {visited wider : VisitedPath} {schema schema' : Json}
      {v : Validator}, m ≤ n → l.Pools pool pool' → l.Values schema schema' →
      visited.Within wider → Expands options m pool visited schema v →
      ∃ w, Expands options' n pool' wider schema' w := by
  -- schemas that are no objects come to something at any level
  have hany : ∀ (n : Nat) (pool : Definitions) (visited : VisitedPath) (schema : Json),
      (∀ members, schema ≠ .object members) → Expands options' n pool visited schema .any := by
    intro n pool visited schema hschema
    cases schema with
    | object members => exact absurd rfl (hschema members)
    | _ => cases n <;> rfl
  induction m with
  | zero =>
      intro n pool pool' visited wider schema schema' v _ _ hlike _ h
      refine ⟨.any, hany _ _ _ _ (hlike.ne_object ?_)⟩
      rintro members rfl
      cases h
  | succ m ih =>
      intro n pool pool' visited wider schema schema' v hle hpool hlike hwithin h
      by_cases hschema : ∃ members, schema = .object members
      · obtain ⟨members, rfl⟩ := hschema
        obtain ⟨members', rfl⟩ := hlike.exists_members
        obtain ⟨n, rfl⟩ : ∃ k, n = k + 1 := ⟨n - 1, by omega⟩
        obtain ⟨shape, hshape, hlayer⟩ := h
        obtain ⟨shape', hshape', hlikeshape⟩ := shape?_like hlike hshape
        have hforce := hpool.inForce hlike
        -- one level down there is one less to go on both sides
        obtain ⟨w, hw⟩ := exists_layer_of_like hforce hwithin
          (fun _ _ _ _ _ hwithin hlike => ih (Nat.le_of_succ_le_succ hle) hforce hlike hwithin)
          hlikeshape hlayer
        exact ⟨w, shape', hformats ▸ hshape', hw⟩
      · exact ⟨.any, hany _ _ _ _ (hlike.ne_object fun members heq => hschema ⟨members, heq⟩)⟩

-- ======================================================= grounded branches

/-- Every reference on the branch points at a definition that came to something
on a branch that had entered no more. -/
def Grounded (options : CompileOptions) (pool : Definitions) (visited : VisitedPath) : Prop :=
  ∀ r, visited.contains r = true → ∃ definition levels earlier v,
    pool.resolve? r = some definition ∧ levels ≤ Compiler.levels options ∧
      VisitedPath.Within earlier visited ∧ Expands options levels pool earlier definition v

namespace Grounded

variable {pool : Definitions} {visited : VisitedPath}

/-- At the start there is no branch to speak of. -/
theorem empty (options : CompileOptions) (pool : Definitions) : Grounded options pool .empty :=
  fun _ h => nomatch h

/-- Definitions come into force only where no reference has been entered. -/
theorem inForce (h : Grounded options pool visited) (members : Members) :
    Grounded options (pool.inForce members) visited := by
  intro r hr
  obtain ⟨definition, levels, earlier, v, hresolve, hrest⟩ := h r hr
  rw [Definitions.inForce_of_resolve? hresolve]
  exact ⟨definition, levels, earlier, v, hresolve, hrest⟩

/-- Passing data changes nothing about what has come to something. -/
theorem descend (h : Grounded options pool visited) : Grounded options pool visited.descend := by
  intro r hr
  obtain ⟨definition, levels, earlier, v, hresolve, hlevels, hwithin, hv⟩ :=
    h r (VisitedPath.contains_descend.mp hr)
  exact ⟨definition, levels, earlier, v, hresolve, hlevels,
    hwithin.trans (VisitedPath.within_descend visited), hv⟩

/-- A reference is entered where its definition comes to something. -/
theorem enter (h : Grounded options pool visited) {target : String} {definition : Json}
    {levels : Nat} {v : Validator} (hresolve : pool.resolve? target = some definition)
    (hlevels : levels ≤ Compiler.levels options)
    (hv : Expands options levels pool (visited.enter target) definition v) :
    Grounded options pool (visited.enter target) := by
  intro r hr
  rcases VisitedPath.contains_enter.mp hr with rfl | hr
  · exact ⟨definition, levels, _, v, hresolve, hlevels, .refl _, hv⟩
  · obtain ⟨other, levels, earlier, w, hother, hlevels, hwithin, hw⟩ := h r hr
    exact ⟨other, levels, earlier, w, hother, hlevels,
      hwithin.trans (VisitedPath.within_enter visited target), hw⟩

/-- A definition that was entered comes to something again when it is entered
once more, with all levels left. -/
theorem exists_expands (h : Grounded options pool visited) {target : String}
    (htarget : visited.contains target = true) :
    ∃ definition v, pool.resolve? target = some definition ∧
      Expands options (Compiler.levels options) pool (visited.enter target) definition v := by
  obtain ⟨definition, levels, earlier, v, hresolve, hlevels, hwithin, hv⟩ := h target htarget
  have hsame : Likeness.same.Pools pool pool := rfl
  obtain ⟨w, hw⟩ := exists_expands_of_like (Eq.refl options.formats) hlevels hsame rfl
    (hwithin.trans (VisitedPath.within_enter visited target)) hv
  exact ⟨definition, w, hresolve, hw⟩

end Grounded

-- ===================================================== grounded expansions

/-- The validator is what the schema comes to on a grounded branch. -/
def Stands (options : CompileOptions) (pool : Definitions) (visited : VisitedPath)
    (schema : Json) (v : Validator) : Prop :=
  ∃ levels, levels ≤ Compiler.levels options ∧ Grounded options pool visited ∧
    Expands options levels pool visited schema v

namespace Stands

variable {pool : Definitions} {visited : VisitedPath} {v : Validator}

/-- What the compiler yields stands where it started. -/
theorem of_compileNode {schema : Json}
    (h : (compileNode schema pool .empty options).result = .ok v) :
    Stands options pool .empty schema v :=
  ⟨_, Nat.le_refl _, .empty options pool, expands_of_compileNode h⟩

/-- The root starts without definitions. -/
theorem of_compile {schema : Json} (h : (compile schema options).result = .ok v) :
    Stands options {} .empty schema v :=
  of_compileNode h

/-- A schema object comes to a layer, and what lies beneath stands on grounded
branches too. -/
theorem layer {members : Members} (h : Stands options pool visited (.object members) v) :
    ∃ shape, shape? options.formats members = some shape ∧
      Layer options (pool.inForce members) visited (Stands options (pool.inForce members))
        shape v := by
  obtain ⟨levels, hlevels, hgrounded, hexpands⟩ := h
  rcases hexpands.any_or_layer with ⟨hschema, -⟩ | ⟨less, _, shape, rfl, heq, hshape, hlayer⟩
  · exact absurd rfl (hschema members)
  · cases heq
    refine ⟨shape, hshape, hlayer.imp fun path schema w hhands hw => ?_⟩
    have hle : less ≤ Compiler.levels options := Nat.le_of_succ_le hlevels
    have hforce := hgrounded.inForce members
    refine ⟨less, hle, ?_, hw⟩
    cases hhands with
    | definition _ hresolve => exact hforce.enter hresolve hle hw
    | inner | alternative => exact hforce
    | items | property | other => exact hforce.descend

/-- A schema that is no object stands for anything. -/
theorem eq_any {schema : Json} (hschema : ∀ members, schema ≠ .object members)
    (h : Stands options pool visited schema v) : v = .any := by
  obtain ⟨_, -, -, hexpands⟩ := h
  rcases hexpands.any_or_layer with ⟨-, hany⟩ | ⟨_, members, _, -, heq, -⟩
  · exact hany
  · exact absurd heq (hschema members)

end Stands

-- ===================================================== deferred references

namespace Deferred

/-- The reference was deferred on a grounded branch of a compilation with these
options. -/
structure Settled (options : CompileOptions) (d : Deferred) : Prop where
  options_eq : d.options = options
  grounded : Grounded options d.pool d.visited

namespace Settled

variable {d : Deferred}

/-- What was deferred on a grounded branch can be compiled later. -/
theorem exists_target (h : d.Settled options) : ∃ t, d.target = .ok t := by
  obtain ⟨rfl, hgrounded⟩ := h
  have hentered : d.visited.contains d.reference = true :=
    VisitedPath.contains_of_isNested d.nested
  obtain ⟨definition, v, hresolve, hv⟩ := hgrounded.exists_expands hentered
  obtain ⟨t, ht⟩ := exists_compile hresolve hv
  exact ⟨t, target_eq_ok.mpr ht⟩

/-- What it is compiled to stands on a grounded branch again. -/
theorem stands_target {t : Validator} (h : d.Settled options) (ht : d.target = .ok t) :
    ∃ definition, d.pool.resolve? d.reference = some definition ∧
      Stands options d.pool (d.visited.enter d.reference) definition t := by
  obtain ⟨rfl, hgrounded⟩ := h
  obtain ⟨definition, hresolve, hexpands⟩ := expands_of_compile (target_eq_ok.mp ht)
  exact ⟨definition, hresolve, _, Nat.le_refl _,
    hgrounded.enter hresolve (Nat.le_refl _) hexpands, hexpands⟩

end Settled

end Deferred

namespace Stands

variable {pool : Definitions} {visited : VisitedPath} {schema : Json} {v w : Validator}

/-- What stands, stands on a branch that is grounded. -/
theorem grounded (h : Stands options pool visited schema v) : Grounded options pool visited :=
  let ⟨_, _, hgrounded, _⟩ := h
  hgrounded

/-- What stands and is not the validator of anything comes from a schema object. -/
theorem exists_members (h : Stands options pool visited schema v) (hv : v ≠ .any) :
    ∃ members, schema = .object members := by
  by_cases hschema : ∃ members, schema = .object members
  · exact hschema
  · exact absurd (h.eq_any fun members heq => hschema ⟨members, heq⟩) hv

/-- So a deferred reference that was compiled stands for something. -/
theorem settled {d : Deferred} (h : Stands options pool visited schema (.deferred d)) :
    d.Settled options := by
  obtain ⟨members, rfl⟩ := h.exists_members (fun h => nomatch h)
  obtain ⟨shape, -, hlayer⟩ := h.layer
  obtain ⟨-, hpool, hvisited, hoptions⟩ := hlayer.of_deferred
  exact ⟨hoptions, hpool ▸ hvisited ▸ h.grounded.inForce members⟩

/-- The parts of what stands stand too, but for the values of an enumeration. -/
theorem part (h : Stands options pool visited schema v) (hpart : v.Part w) :
    (∃ pool visited schema, Stands options pool visited schema w) ∨ ∃ x, w = .literal x := by
  obtain ⟨members, rfl⟩ := h.exists_members (fun h => by subst h; cases hpart)
  obtain ⟨shape, -, hlayer⟩ := h.layer
  exact (hlayer.part hpart).imp_left fun ⟨_, _, _, hw⟩ => ⟨_, _, _, hw⟩

/-- Every reference deferred in a compilation can be compiled later. -/
theorem settled_of_holds {d : Deferred} (hholds : v.Holds d) :
    ∀ {pool : Definitions} {visited : VisitedPath} {schema : Json},
      Stands options pool visited schema v → d.Settled options := by
  induction hholds with
  | here d => exact fun h => h.settled
  | beneath hpart hrest ih =>
      intro pool visited schema h
      rcases h.part hpart with ⟨_, _, _, h⟩ | ⟨x, rfl⟩
      · exact ih h
      · exact absurd hrest Validator.not_holds_literal

end Stands

end Conformance
