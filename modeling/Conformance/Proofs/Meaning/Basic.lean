/-
The meaning of schemas.

A schema holds of some data, values or their absence, by its keywords alone.
`Meets` has the rules, one for each thing a shape can ask for, with a reference
holding of what the definition holds of that it names. `Satisfies` is the least
relation that follows these rules, with the definitions that are in force passed
on from a schema to those beneath it. So what refers to itself without ever
looking into the data holds of nothing by that.

Nothing here knows of branches, depth or deferral. A derivation has a height,
though: `SatisfiesIn` says that data satisfy a schema by a derivation of at most
so many steps, and whatever satisfies a schema does so in some number of them.
-/
import Conformance.Proofs.Compiler.Shape
import Conformance.Proofs.Compiler.Unfolding
import Conformance.Proofs.Validation.Acceptance

namespace Conformance

-- ================================================================ rules

/-- Data meet a shape, when references are resolved against the pool, and `holds`
says which data the schemas beneath the shape hold of. -/
inductive Meets (pool : Definitions) (holds : Json → Data → Prop) : Shape → Data → Prop
  | anything (data : Data) : Meets pool holds .anything data
  | reference {target : String} {definition : Json} {data : Data}
      (hresolve : pool.resolve? target = some definition) (h : holds definition data) :
      Meets pool holds (.reference target) data
  | absent (inner : Json) : Meets pool holds (.optional inner) none
  | null (inner : Json) : Meets pool holds (.optional inner) (some .null)
  | inner {inner : Json} {data : Data} (h : holds inner data) :
      Meets pool holds (.optional inner) data
  | alternative {alternatives : List Json} {schema : Json} {data : Data}
      (hschema : schema ∈ alternatives) (h : holds schema data) :
      Meets pool holds (.union alternatives) data
  | value {values : List Json} {x y : Json} (hy : y ∈ values) (h : x.same y = true) :
      Meets pool holds (.values values) (some x)
  | string {rules : StringRules} {s : String} (h : rules.Allows s) :
      Meets pool holds (.string rules) (some (.string s))
  | number {rules : NumberRules} {n : Number} (h : rules.Allows n) :
      Meets pool holds (.number rules) (some (.number n))
  | boolean (b : Bool) : Meets pool holds .boolean (some (.bool b))
  | nullType : Meets pool holds .null (some .null)
  | array {items : Json} {bounds : ItemBounds} {values : List Json}
      (hbounds : bounds.Allows values.length) (hitems : ∀ x ∈ values, holds items (some x)) :
      Meets pool holds (.array items bounds) (some (.array values))
  | object {properties : List (Property Json)} {additional : Additional Json}
      {members : Members} (h : Conforms holds properties additional members) :
      Meets pool holds (.object properties additional) (some (.object members))

/-- The data satisfy the schema, with the pool in force. A schema that is no
object asks for nothing. For a schema object, `holds` may be any part of the
relation itself: this is the least relation that follows the rules. -/
inductive Satisfies (formats : FormatPolicy) : Definitions → Json → Data → Prop
  | free {pool : Definitions} {schema : Json} (hschema : ∀ members, schema ≠ .object members)
      (data : Data) : Satisfies formats pool schema data
  | shaped {pool : Definitions} {members : Members} {shape : Shape} {data : Data}
      {holds : Json → Data → Prop} (hshape : shape? formats members = some shape)
      (hmeets : Meets (pool.inForce members) holds shape data)
      (hholds : ∀ schema data, holds schema data →
        Satisfies formats (pool.inForce members) schema data) :
      Satisfies formats pool (.object members) data

variable {formats : FormatPolicy} {pool : Definitions}

/-- More data meet a shape where the schemas beneath it hold of more. -/
theorem Meets.imp {holds holds' : Json → Data → Prop} {shape : Shape} {data : Data}
    (himp : ∀ schema data, holds schema data → holds' schema data)
    (h : Meets pool holds shape data) : Meets pool holds' shape data := by
  cases h with
  | anything => exact .anything data
  | reference hresolve h => exact .reference hresolve (himp _ _ h)
  | absent inner => exact .absent inner
  | null inner => exact .null inner
  | inner h => exact .inner (himp _ _ h)
  | alternative hschema h => exact .alternative hschema (himp _ _ h)
  | value hy h => exact .value hy h
  | string h => exact .string h
  | number h => exact .number h
  | boolean b => exact .boolean b
  | nullType => exact .nullType
  | array hbounds hitems => exact .array hbounds fun x hx => himp _ _ (hitems x hx)
  | object h => exact .object (h.imp himp)

/-- A schema object is satisfied just as its shape says, by the relation
itself. -/
theorem satisfies_object_iff {members : Members} {data : Data} :
    Satisfies formats pool (.object members) data ↔
      ∃ shape, shape? formats members = some shape ∧
        Meets (pool.inForce members) (Satisfies formats (pool.inForce members)) shape data := by
  constructor
  · intro h
    cases h with
    | free hschema => exact absurd rfl (hschema members)
    | shaped hshape hmeets hholds => exact ⟨_, hshape, hmeets.imp hholds⟩
  · intro h
    obtain ⟨shape, hshape, hmeets⟩ := h
    exact .shaped hshape hmeets fun _ _ h => h

/-- Satisfaction is part of every relation that follows the rules. -/
theorem Satisfies.least {R : Definitions → Json → Data → Prop}
    (hfree : ∀ pool schema, (∀ members, schema ≠ .object members) → ∀ data, R pool schema data)
    (hshaped : ∀ pool members shape data, shape? formats members = some shape →
      Meets (Definitions.inForce pool members) (R (Definitions.inForce pool members)) shape data →
      R pool (.object members) data)
    {schema : Json} {data : Data} (h : Satisfies formats pool schema data) :
    R pool schema data := by
  induction h with
  | free hschema data => exact hfree _ _ hschema data
  | shaped hshape hmeets _ ih => exact hshaped _ _ _ _ hshape (hmeets.imp ih)

-- =============================================================== heights

/-- The data satisfy the schema by a derivation of at most so many steps. -/
def SatisfiesIn (formats : FormatPolicy) : Nat → Definitions → Json → Data → Prop
  | 0, _, .object _, _ => False
  | k + 1, pool, .object members, data =>
    ∃ shape, shape? formats members = some shape ∧
      Meets (pool.inForce members) (SatisfiesIn formats k (pool.inForce members)) shape data
  | _, _, _, _ => True

/-- A schema that is no object holds of everything within any bound. -/
theorem satisfiesIn_free {schema : Json} (hschema : ∀ members, schema ≠ .object members)
    (k : Nat) (data : Data) : SatisfiesIn formats k pool schema data := by
  cases schema with
  | object members => exact absurd rfl (hschema members)
  | _ => cases k <;> trivial

/-- With more levels to go, more is found to hold. The induction is on the levels, and
each goes down one. -/
theorem satisfiesIn_succ {k : Nat} : ∀ {pool : Definitions} {schema : Json} {data : Data},
    SatisfiesIn formats k pool schema data → SatisfiesIn formats (k + 1) pool schema data := by
  induction k with
  | zero =>
      intro pool schema data h
      cases schema with
      | object members => cases h
      | _ => trivial
  | succ k ih =>
      intro pool schema data h
      cases schema with
      | object members =>
          obtain ⟨shape, hshape, hmeets⟩ := h
          exact ⟨shape, hshape, hmeets.imp fun _ _ => ih⟩
      | _ => trivial

/-- So a bound may be raised. -/
theorem satisfiesIn_mono {k n : Nat} (hle : k ≤ n) {schema : Json} {data : Data}
    (h : SatisfiesIn formats k pool schema data) : SatisfiesIn formats n pool schema data := by
  induction hle with
  | refl => exact h
  | step _ ih => exact satisfiesIn_succ ih

section

/-! What holds in some number of steps each, holds in one number for all. -/

/-- Finitely many bounds have a common one. -/
theorem exists_forall_of_forall_exists {α : Type} {P : Nat → α → Prop} {as : List α}
    (hmono : ∀ k n a, k ≤ n → P k a → P n a) (h : ∀ a ∈ as, ∃ k, P k a) :
    ∃ k, ∀ a ∈ as, P k a := by
  induction as with
  | nil => exact ⟨0, fun _ ha => absurd ha List.not_mem_nil⟩
  | cons a rest ih =>
      obtain ⟨k, hk⟩ := h a (List.mem_cons_self ..)
      obtain ⟨n, hn⟩ := ih fun a ha => h a (List.mem_cons_of_mem _ ha)
      refine ⟨max k n, fun b hb => ?_⟩
      rcases List.mem_cons.mp hb with rfl | hb
      · exact hmono _ _ _ (Nat.le_max_left k n) hk
      · exact hmono _ _ _ (Nat.le_max_right k n) (hn b hb)

variable {P : Nat → Json → Data → Prop}
variable (hmono : ∀ k n schema data, k ≤ n → P k schema data → P n schema data)

include hmono

/-- An object has finitely many properties and members, so there is a bound for all that
is asked of them. The three kinds of question have bounds of their own first. -/
theorem Conforms.exists_height {properties : List (Property Json)} {additional : Additional Json}
    {members : Members}
    (h : Conforms (fun schema data => ∃ k, P k schema data) properties additional members) :
    ∃ k, Conforms (P k) properties additional members := by
  -- members that properties declare
  obtain ⟨i, hpresent⟩ : ∃ k, ∀ p ∈ properties, ∀ x, Members.get? members p.name = some x →
      P k p.validator (some x) := by
    refine exists_forall_of_forall_exists
      (fun _ _ _ hle hk x hx => hmono _ _ _ _ hle (hk x hx)) fun p hp => ?_
    cases hfound : Members.get? members p.name with
    | none => exact ⟨0, fun x hx => nomatch hx⟩
    | some x =>
        obtain ⟨k, hk⟩ := h.present p hp x hfound
        exact ⟨k, fun y hy => Option.some.inj hy ▸ hk⟩
  -- required members that are missing
  obtain ⟨j, habsent⟩ : ∃ k, ∀ p ∈ properties, Members.get? members p.name = none →
      p.required = true → P k p.validator none := by
    refine exists_forall_of_forall_exists
      (fun _ _ _ hle hk hnone hr => hmono _ _ _ _ hle (hk hnone hr)) fun p hp => ?_
    by_cases hneeded : Members.get? members p.name = none ∧ p.required = true
    · obtain ⟨k, hk⟩ := h.absent p hp hneeded.1 hneeded.2
      exact ⟨k, fun _ _ => hk⟩
    · exact ⟨0, fun hnone hrequired => absurd ⟨hnone, hrequired⟩ hneeded⟩
  -- members that are left for the schema of the others
  obtain ⟨n, hothers⟩ : ∃ k, ∀ m ∈ members, ∀ catchAll, additional = .schema catchAll →
      (∀ p ∈ properties, p.name ≠ m.1) → P k catchAll (some m.2) := by
    refine exists_forall_of_forall_exists
      (fun _ _ _ hle hk catchAll ha hnone => hmono _ _ _ _ hle (hk catchAll ha hnone))
      fun m hm => ?_
    by_cases hneeded : (∃ catchAll, additional = .schema catchAll) ∧ ∀ p ∈ properties, p.name ≠ m.1
    · obtain ⟨⟨catchAll, rfl⟩, hnone⟩ := hneeded
      obtain ⟨k, hk⟩ := h.others catchAll rfl m hm hnone
      exact ⟨k, fun _ ha _ => Additional.schema.inj ha ▸ hk⟩
    · exact ⟨0, fun catchAll ha hnone => absurd ⟨⟨catchAll, ha⟩, hnone⟩ hneeded⟩
  refine ⟨max i (max j n), fun p hp x hx => ?_, fun p hp hnone hrequired => ?_, h.declared,
    fun catchAll ha m hm hnone => ?_⟩
  · exact hmono _ _ _ _ (by omega) (hpresent p hp x hx)
  · exact hmono _ _ _ _ (by omega) (habsent p hp hnone hrequired)
  · exact hmono _ _ _ _ (by omega) (hothers m hm catchAll ha hnone)

/-- So there is a bound wherever the data meet a shape. -/
theorem Meets.exists_height {shape : Shape} {data : Data}
    (h : Meets pool (fun schema data => ∃ k, P k schema data) shape data) :
    ∃ k, Meets pool (P k) shape data := by
  cases h with
  | anything => exact ⟨0, .anything data⟩
  | reference hresolve h =>
      obtain ⟨k, hk⟩ := h
      exact ⟨k, .reference hresolve hk⟩
  | absent inner => exact ⟨0, .absent inner⟩
  | null inner => exact ⟨0, .null inner⟩
  | inner h =>
      obtain ⟨k, hk⟩ := h
      exact ⟨k, .inner hk⟩
  | alternative hschema h =>
      obtain ⟨k, hk⟩ := h
      exact ⟨k, .alternative hschema hk⟩
  | value hy h => exact ⟨0, .value hy h⟩
  | string h => exact ⟨0, .string h⟩
  | number h => exact ⟨0, .number h⟩
  | boolean b => exact ⟨0, .boolean b⟩
  | nullType => exact ⟨0, .nullType⟩
  | @array items _ values hbounds hitems =>
      obtain ⟨k, hk⟩ : ∃ k, ∀ x ∈ values, P k items (some x) :=
        exists_forall_of_forall_exists (fun _ _ _ => hmono _ _ _ _) hitems
      exact ⟨k, .array hbounds hk⟩
  | object h =>
      obtain ⟨k, hk⟩ := Conforms.exists_height hmono h
      exact ⟨k, .object hk⟩

end

/-- Whatever satisfies a schema does so in some number of steps. -/
theorem exists_satisfiesIn {schema : Json} {data : Data} (h : Satisfies formats pool schema data) :
    ∃ k, SatisfiesIn formats k pool schema data := by
  induction h with
  | free hschema data => exact ⟨0, satisfiesIn_free hschema 0 data⟩
  | @shaped pool members _ _ _ hshape hmeets _ ih =>
      have hmono : ∀ k n schema data, k ≤ n →
          SatisfiesIn formats k (pool.inForce members) schema data →
          SatisfiesIn formats n (pool.inForce members) schema data :=
        fun _ _ _ _ hle h => satisfiesIn_mono hle h
      obtain ⟨k, hk⟩ := Meets.exists_height hmono (hmeets.imp ih)
      exact ⟨k + 1, _, hshape, hk⟩

end Conformance
