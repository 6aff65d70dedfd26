/-
A compiled schema accepts what the schema means.

One half is plain. What a validator accepts it accepts by the rules, and a
deferred reference or a shared node is the rule for references applied once.

The other half has to account for the cuts. On a branch that enters a reference
again without having looked into the data, the compiler puts a union of nothing,
though the data may well satisfy the definition. What saves it is a shortest
derivation. If data satisfy a definition at all, they do so in some least number
of steps, and a derivation with as few steps as that has no use for the same
definition at the same data further down, since it would contain a shorter one.
So on each branch, at the data it is at, the references that it has entered
there take at least as many steps as are left: `Barren`. A cut then stands only
where no derivation goes.

`accepts_iff_satisfies` puts the halves together.
-/
import Conformance.Proofs.Compiler.Resolution
import Conformance.Proofs.Meaning.Basic

namespace Conformance

-- ========================================================= corresponding

section

/-! Validators and the schemas they stand for, side by side. -/

variable {α β : Type} {R : α → β → Prop}

/-- Related lists of properties can be turned round. -/
theorem forall₂_property_flip {ps : List (Property α)} {qs : List (Property β)}
    (h : List.Forall₂ (Property.Rel R) ps qs) :
    List.Forall₂ (Property.Rel fun b a => R a b) qs ps :=
  List.Forall₂.flip (h.imp fun _ _ => Property.Rel.flip)

/-- An object that conforms to one of two related sides conforms to the other. -/
theorem Conforms.of_rel {P : α → Data → Prop} {Q : β → Data → Prop} {ps : List (Property α)}
    {qs : List (Property β)} {a : Additional α} {b : Additional β} {members : Members}
    (hproperties : List.Forall₂ (Property.Rel R) ps qs) (hadditional : Additional.Rel R a b)
    (himp : ∀ u v data, R u v → P u data → Q v data) (h : Conforms P ps a members) :
    Conforms Q qs b members := by
  refine ⟨fun q hq x hx => ?_, fun q hq hnone hrequired => ?_, fun hreject m hm => ?_,
    fun catchAll hcatchAll m hm hnone => ?_⟩
  · obtain ⟨p, hp, hname, -, hrel⟩ := exists_left_of_forall₂ hproperties q hq
    exact himp _ _ _ hrel (h.present p hp x (hname ▸ hx))
  · obtain ⟨p, hp, hname, hreq, hrel⟩ := exists_left_of_forall₂ hproperties q hq
    exact himp _ _ _ hrel (h.absent p hp (hname ▸ hnone) (hreq ▸ hrequired))
  · subst hreject
    cases hadditional
    obtain ⟨p, hp, hm⟩ := h.declared rfl m hm
    obtain ⟨q, hq, hname, -⟩ := exists_right_of_forall₂ hproperties p hp
    exact ⟨q, hq, hname.symm.trans hm⟩
  · subst hcatchAll
    cases hadditional with
    | schema hrel =>
        refine himp _ _ _ hrel (h.others _ rfl m hm fun p hp => ?_)
        -- a name that is declared on one side is declared on the other
        obtain ⟨q, hq, hname, -⟩ := exists_right_of_forall₂ hproperties p hp
        exact hname ▸ hnone q hq

end

/-- The validator of a leaf accepts what meets its shape. -/
theorem accepts_leaf {shape : Shape} {v : Validator} (hleaf : shape.leaf? = some v)
    (pool : Definitions) (holds : Json → Data → Prop) {data : Data} :
    v.accepts data = true ↔ Meets pool holds shape data := by
  cases shape with
  | anything =>
      cases hleaf
      exact ⟨fun _ => .anything data, fun _ => Validator.accepts_any⟩
  | values list =>
      cases hleaf
      rw [Validator.accepts_enumeration]
      constructor
      · intro h
        obtain ⟨x, rfl, y, hy, hsame⟩ := h
        exact .value hy hsame
      · intro h
        cases h with
        | value hy hsame => exact ⟨_, rfl, _, hy, hsame⟩
  | string rules =>
      cases hleaf
      rw [Validator.accepts_string]
      constructor
      · intro h
        obtain ⟨_, rfl, s, rfl, h⟩ := h
        exact .string h
      · intro h
        cases h with
        | string h => exact ⟨_, rfl, _, rfl, h⟩
  | number rules =>
      cases hleaf
      rw [Validator.accepts_number]
      constructor
      · intro h
        obtain ⟨_, rfl, n, rfl, h⟩ := h
        exact .number h
      · intro h
        cases h with
        | number h => exact ⟨_, rfl, _, rfl, h⟩
  | boolean =>
      cases hleaf
      rw [Validator.accepts_boolean]
      constructor
      · intro h
        obtain ⟨_, rfl, b, rfl⟩ := h
        exact .boolean b
      · intro h
        cases h with
        | boolean b => exact ⟨_, rfl, b, rfl⟩
  | null =>
      cases hleaf
      rw [Validator.accepts_null]
      constructor
      · intro h
        obtain ⟨_, rfl, rfl⟩ := h
        exact .nullType
      · intro h
        cases h with
        | nullType => exact ⟨_, rfl, rfl⟩
  | reference | optional | union | array | object => cases hleaf

-- ============================================================ soundness

/-- What an object's conformity turns on is what its validator asks. -/
theorem Conforms.asked {P : Validator → Data → Prop} {properties : List (Property Validator)}
    {additional : Additional Validator} {members : Members}
    (h : Conforms P properties additional members) :
    Conforms (fun v data => P v data ∧
        Validator.Asks (.object properties additional, some (.object members)) (v, data))
      properties additional members where
  present := fun p hp x hx => ⟨h.present p hp x hx, .member hp hx⟩
  absent := fun p hp hnone hrequired => ⟨h.absent p hp hnone hrequired, .missing hp hnone⟩
  declared := h.declared
  others := by
    intro catchAll hadditional m hm hnone
    subst hadditional
    exact ⟨h.others catchAll rfl m hm hnone, .other hm⟩

open Validator in
/-- What the validator of a schema accepts satisfies the schema. -/
theorem satisfies_of_accepts {options : CompileOptions} (call : Validator × Data) :
    ∀ {pool : Definitions} {visited : VisitedPath} {schema : Json},
      Stands options pool visited schema call.1 → call.1.accepts call.2 = true →
      Satisfies options.formats pool schema call.2 := by
  induction call using wellFounded_asks.induction with
  | _ call ih =>
      obtain ⟨v, data⟩ := call
      intro pool visited schema hstands haccepts
      by_cases hschema : ∃ members, schema = .object members
      · obtain ⟨members, rfl⟩ := hschema
        obtain ⟨shape, hshape, hlayer⟩ := hstands.layer
        refine satisfies_object_iff.mpr ⟨shape, hshape, ?_⟩
        cases hlayer with
        | leaf hleaf => exact (accepts_leaf hleaf _ _).mp haccepts
        | cut =>
            obtain ⟨v, hv, -⟩ := accepts_union.mp haccepts
            exact absurd hv List.not_mem_nil
        | @deferred d hpool _ _ =>
            -- the reference stands for what its definition comes to
            have hsettled := hstands.settled
            obtain ⟨t, ht⟩ := hsettled.exists_target
            obtain ⟨definition, hresolve, htarget⟩ := hsettled.stands_target ht
            rw [accepts_deferred ht] at haccepts
            rw [← hpool]
            exact .reference hresolve (ih (t, data) (.stays (.resolved ht) data) htarget haccepts)
        | followed _ hresolve h =>
            rw [accepts_shared] at haccepts
            exact .reference hresolve (ih (_, data) (.stays (.target _ _) data) h haccepts)
        | optional h =>
            rcases accepts_optional.mp haccepts with rfl | rfl | hinner
            · exact .absent _
            · exact .null _
            · exact .inner (ih (_, data) (.stays (.inner _) data) h hinner)
        | union hs =>
            obtain ⟨v, hv, haccepts⟩ := accepts_union.mp haccepts
            obtain ⟨schema, hschema, h⟩ := exists_left_of_forall₂ hs v hv
            exact .alternative hschema (ih (v, data) (.stays (.variant hv) data) h haccepts)
        | array h =>
            obtain ⟨_, rfl, values, rfl, hbounds, hitems⟩ := accepts_array.mp haccepts
            exact .array hbounds fun x hx => ih (_, some x) (.item hx) h (hitems x hx)
        | @object properties additional ps a hproperties hadditional =>
            obtain ⟨_, rfl, members, rfl, hconforms⟩ := accepts_object.mp haccepts
            refine .object (hconforms.asked.of_rel (forall₂_property_flip hproperties)
              hadditional.flip fun w schema data hw hasked => ?_)
            exact ih (w, data) hasked.2 hw hasked.1
      · exact .free (fun members heq => hschema ⟨members, heq⟩) data

-- ========================================================== completeness

/-- Where something holds at some height, it holds at a least one. -/
theorem exists_least (P : Nat → Prop) {k : Nat} (h : P k) :
    ∃ n, n ≤ k ∧ P n ∧ ∀ j < n, ¬ P j := by
  induction k using Nat.strongRecOn with
  | ind k ih =>
      by_cases hsmaller : ∃ j, j < k ∧ P j
      · obtain ⟨j, hj, hPj⟩ := hsmaller
        obtain ⟨n, hn, hleast⟩ := ih j hj hPj
        exact ⟨n, by omega, hleast⟩
      · exact ⟨k, Nat.le_refl k, h, fun j hj hPj => hsmaller ⟨j, hj, hPj⟩⟩

/-- Of the references that the branch has entered at the data it is at, none has
a definition that the data satisfy in fewer steps. -/
def Barren (formats : FormatPolicy) (k : Nat) (pool : Definitions) (visited : VisitedPath)
    (data : Data) : Prop :=
  ∀ r definition, visited.contains r = true → visited.isNested r = false →
    pool.resolve? r = some definition → ∀ j < k, ¬ SatisfiesIn formats j pool definition data

namespace Barren

variable {formats : FormatPolicy} {k n : Nat} {pool : Definitions} {visited : VisitedPath}
variable {data : Data}

/-- With fewer levels, what is barren stays so. -/
theorem mono (hle : n ≤ k) (h : Barren formats k pool visited data) :
    Barren formats n pool visited data :=
  fun r definition hentered hnested hresolve j hj =>
    h r definition hentered hnested hresolve j (Nat.lt_of_lt_of_le hj hle)

/-- Nothing has been entered, so nothing is asked. -/
theorem empty (formats : FormatPolicy) (k : Nat) (pool : Definitions) (data : Data) :
    Barren formats k pool .empty data :=
  fun _ _ hentered => nomatch hentered

/-- Definitions come into force only where no reference has been entered. -/
theorem inForce {options : CompileOptions} (hgrounded : Grounded options pool visited)
    (members : Members) (h : Barren formats k pool visited data) :
    Barren formats k (pool.inForce members) visited data := by
  intro r definition hentered hnested hresolve
  obtain ⟨_, _, _, _, hsome, -⟩ := hgrounded r hentered
  rw [Definitions.inForce_of_resolve? hsome] at hresolve ⊢
  exact h r definition hentered hnested hresolve

/-- Behind a descent no reference has been entered at the data. -/
theorem descend (formats : FormatPolicy) (k : Nat) (pool : Definitions) (visited : VisitedPath)
    (data : Data) : Barren formats k pool visited.descend data := by
  intro r definition hentered hnested
  have hmarked : visited.descend.isNested r = true :=
    VisitedPath.isNested_descend.mpr (VisitedPath.contains_descend.mp hentered)
  rw [hmarked] at hnested
  cases hnested

/-- A reference is entered with as many steps as its definition takes at least. -/
theorem enter {target : String} {definition : Json} (h : Barren formats n pool visited data)
    (hresolve : pool.resolve? target = some definition)
    (hleast : ∀ j < n, ¬ SatisfiesIn formats j pool definition data) :
    Barren formats n pool (visited.enter target) data := by
  intro r other hentered hnested hother
  by_cases heq : r = target
  · subst heq
    rw [hresolve] at hother
    cases hother
    exact hleast
  · have hentered' : visited.contains r = true :=
      (VisitedPath.contains_enter.mp hentered).resolve_left heq
    have hnested' : visited.isNested r = false := by
      refine Bool.eq_false_iff.mpr fun hmarked => ?_
      rw [VisitedPath.isNested_enter.mpr ⟨heq, hmarked⟩] at hnested
      cases hnested
    exact h r other hentered' hnested' hother

end Barren

open Validator in
/-- What satisfies a schema is accepted by its validator, on any branch on which
the references entered at the data are barren. -/
theorem accepts_of_satisfiesIn {options : CompileOptions} {k : Nat} :
    ∀ {pool : Definitions} {visited : VisitedPath} {schema : Json} {v : Validator} {data : Data},
      Stands options pool visited schema v → SatisfiesIn options.formats k pool schema data →
      Barren options.formats k pool visited data → v.accepts data = true := by
  induction k using Nat.strongRecOn with
  | ind k ih =>
      intro pool visited schema v data hstands hsatisfies hbarren
      by_cases hschema : ∃ members, schema = .object members
      · obtain ⟨members, rfl⟩ := hschema
        cases k with
        | zero => cases hsatisfies
        | succ k =>
            obtain ⟨shape, hshape, hmeets⟩ := hsatisfies
            obtain ⟨_, hshape', hlayer⟩ := hstands.layer
            cases hshape.symm.trans hshape'
            have hforce : Barren options.formats (k + 1) (pool.inForce members) visited data :=
              hbarren.inForce hstands.grounded members
            have hbelow : ∀ {schema w}, Stands options (pool.inForce members) visited schema w →
                SatisfiesIn options.formats k (pool.inForce members) schema data →
                w.accepts data = true :=
              fun hw h => ih k (Nat.lt_succ_self k) hw h (hforce.mono (Nat.le_succ k))
            have hinside : ∀ schema w data,
                Stands options (pool.inForce members) visited.descend schema w →
                SatisfiesIn options.formats k (pool.inForce members) schema data →
                w.accepts data = true :=
              fun _ _ _ hw h => ih k (Nat.lt_succ_self k) hw h (.descend _ _ _ _ _)
            -- a definition is entered with a shortest derivation of it
            have hentered : ∀ {target definition t},
                (pool.inForce members).resolve? target = some definition →
                Stands options (pool.inForce members) (visited.enter target) definition t →
                SatisfiesIn options.formats k (pool.inForce members) definition data →
                t.accepts data = true := by
              intro target definition t hresolve ht h
              obtain ⟨n, hn, hsatisfies, hleast⟩ := exists_least
                (SatisfiesIn options.formats · (pool.inForce members) definition data) h
              exact ih n (by omega) ht hsatisfies
                ((hforce.mono (by omega)).enter hresolve hleast)
            cases hlayer with
            | leaf hleaf => exact (accepts_leaf hleaf _ _).mpr hmeets
            | cut hcontains hnested =>
                cases hmeets with
                | reference hresolve h =>
                    exact absurd h
                      (hforce _ _ hcontains hnested hresolve k (Nat.lt_succ_self k))
            | @deferred d hpool hvisited _ =>
                cases hmeets with
                | reference hresolve h =>
                    have hsettled := hstands.settled
                    obtain ⟨t, ht⟩ := hsettled.exists_target
                    obtain ⟨definition, hresolve', htarget⟩ := hsettled.stands_target ht
                    rw [hpool, hvisited] at htarget
                    rw [hpool] at hresolve'
                    cases hresolve.symm.trans hresolve'
                    rw [accepts_deferred ht]
                    exact hentered hresolve htarget h
            | followed _ hresolve hw =>
                cases hmeets with
                | reference hresolve' h =>
                    cases hresolve.symm.trans hresolve'
                    rw [accepts_shared]
                    exact hentered hresolve hw h
            | optional hw =>
                refine accepts_optional.mpr ?_
                cases hmeets with
                | absent => exact .inl rfl
                | null => exact .inr (.inl rfl)
                | inner h => exact .inr (.inr (hbelow hw h))
            | union hs =>
                cases hmeets with
                | alternative hschema h =>
                    obtain ⟨w, hw, hstands⟩ := exists_right_of_forall₂ hs _ hschema
                    exact accepts_union.mpr ⟨w, hw, hbelow hstands h⟩
            | array hw =>
                cases hmeets with
                | array hbounds hitems =>
                    exact accepts_array.mpr ⟨_, rfl, _, rfl, hbounds,
                      fun x hx => hinside _ _ _ hw (hitems x hx)⟩
            | object hproperties hadditional =>
                cases hmeets with
                | object h =>
                    exact accepts_object.mpr ⟨_, rfl, _, rfl,
                      h.of_rel hproperties hadditional hinside⟩
      · rw [hstands.eq_any fun members heq => hschema ⟨members, heq⟩]
        exact accepts_any

-- ============================================================ agreement

/-- The validator of a schema accepts just the data that satisfy the schema. -/
theorem Stands.accepts_iff_satisfies {options : CompileOptions} {pool : Definitions}
    {schema : Json} {v : Validator} (h : Stands options pool .empty schema v) (data : Data) :
    v.accepts data = true ↔ Satisfies options.formats pool schema data := by
  constructor
  · exact satisfies_of_accepts (v, data) h
  · intro hsatisfies
    obtain ⟨k, hk⟩ := exists_satisfiesIn hsatisfies
    exact accepts_of_satisfiesIn h hk (.empty _ _ _ _)

/-- Compiled acceptance is the least meaning of the schema, of values and of their
absence. -/
theorem check_iff_satisfies {schema : Json} {options : CompileOptions} {v : Validator}
    (h : (compile schema options).result = .ok v) :
    (∀ value, v.check value = true ↔ Satisfies options.formats {} schema (some value)) ∧
      (v.acceptsAbsent = true ↔ Satisfies options.formats {} schema none) :=
  ⟨fun value => (Stands.of_compile h).accepts_iff_satisfies (some value),
    (Stands.of_compile h).accepts_iff_satisfies none⟩

/-- A nest is a nest, or an array of nests. The first alternative says nothing,
and the compiler cuts it. -/
def nestSchema : Json :=
  .object
    [("$ref", .string "#/$defs/Nest"),
     ("$defs", .object [("Nest", .object
        [("anyOf", .array
          [.object [("$ref", .string "#/$defs/Nest")],
           .object [("type", .string "array"),
             ("items", .object [("$ref", .string "#/$defs/Nest")])]])])])]

/-- Nests within an array are deferred, and the nest that is reached without one is cut off.
A least predicate and a compiled validator agree on both. -/
theorem check_iff_satisfies_nest : ∃ v, (compile nestSchema).result = .ok v ∧
    (∀ value, v.check value = true ↔ Satisfies .enforce {} nestSchema (some value)) ∧
    ¬ Satisfies .enforce {} nestSchema none := by
  have hcompile : (compile nestSchema).result = .ok _ := rfl
  refine ⟨_, hcompile, (check_iff_satisfies hcompile).1, fun h => ?_⟩
  cases (check_iff_satisfies hcompile).2.mpr h

end Conformance
