/-
Declarations that do not count.

While definitions are in force, no schema's own declarations are read. So a bare
schema is the same schema told otherwise (`Retelling.bare`), and bare definitions go
with the definitions that they come from, as long as there are any. What the two
compile to cannot be told apart by any answer (`SameAnswers`), for the two validators
are alike at every step (`Told.alike`).

Two schemas that differ in declarations only have the same bare schema, so each is
compared with that. A schema that declares its definitions itself is among them: it
brings them into force before anything else is read.
-/
import Conformance.Proofs.Compiler.Retold
import Conformance.Proofs.Json.Declarations
import Conformance.Proofs.Validation.Comparison

namespace Conformance

open Json Members

-- ========================================================= bare schemas

section

variable (x : Json)

/-- What becomes of the schemas under the four keywords that hold some. -/
theorem bareUnder_anyOf : bareUnder "anyOf" x = x.mapItems bare := by
  cases x with
  | array items => rw [bareUnder, if_pos rfl, bareItems_eq, mapItems]
  | object members => rfl
  | _ => rfl

theorem bareUnder_properties : bareUnder "properties" x = x.mapMembers bare := by
  cases x with
  | object members => rw [bareUnder, if_pos rfl, bareProperties_eq, mapMembers]
  | _ => rfl

theorem bareUnder_items : bareUnder "items" x = x.bare := by
  cases x <;> rfl

theorem bareUnder_additional : bareUnder "additionalProperties" x = x.bare := by
  cases x <;> rfl

end

/-- Schemas without their declarations. -/
def Retelling.bare : Retelling where
  schema := Json.bare
  members := bareMembers
  schema_object _ := rfl
  schema_other := by
    intro x hx
    cases x with
    | object members => exact absurd rfl (hx members)
    | _ => rfl
  agree := by
    intro ms name hname
    -- the plain keywords declare nothing and hold no schemas
    have hplain : ∀ name ∈ plainKeywords, declares name = false ∧
        name ∉ ["anyOf", "properties", "items", "additionalProperties"] := by decide
    obtain ⟨hdeclares, hholds⟩ := hplain name hname
    have hsame : bareUnder name = id := funext fun x => bareUnder_of_plain x hholds
    rw [get?_bareMembers hdeclares, hsame, Option.map_id, id]
  anyOf ms := by rw [get?_bareMembers rfl, funext bareUnder_anyOf]
  items ms := by rw [get?_bareMembers rfl, funext bareUnder_items]
  properties ms := by rw [get?_bareMembers rfl, funext bareUnder_properties]
  additional ms := by rw [get?_bareMembers rfl, funext bareUnder_additional]
  merged := by
    intro ms x
    have hfields : ∀ fields : Members,
        Json.object (erase (merge (bareMembers ms) (bareMembers fields)) "anyOf")
          = .object (bareMembers (erase (merge ms fields) "anyOf")) := fun fields => by
      rw [bareMembers_erase, bareMembers_merge]
    cases x with
    | object fields => exact hfields fields
    | _ => exact hfields []
  withType := by
    intro ms type
    have htype : bareUnder "type" type = type := bareUnder_of_plain type (by decide)
    show Json.object _ = .object _
    rw [bareMembers_insert rfl, htype]

/-- The second pool is the first with bare definitions, and there are some. -/
def Definitions.Bared (pool pool' : Definitions) : Prop :=
  pool' = pool.bare ∧ pool.isEmpty = false

/-- Pools of bare definitions go with their own. -/
theorem Retelling.pools_bare : Retelling.bare.Pools Definitions.Bared where
  resolve? := by
    intro pool pool' target h
    rw [h.1]
    exact pool.resolve?_bare target
  inForce := by
    intro pool pool' members h
    obtain ⟨rfl, hsome⟩ := h
    have hbare : pool.bare.isEmpty = false := by rw [Definitions.isEmpty_bare, hsome]
    rw [Definitions.inForce_of_nonempty hsome, Definitions.inForce_of_nonempty hbare]
    exact ⟨rfl, hsome⟩

-- ============================================================== answers

namespace Validator

/-- The validators make the same of every value and of none, with the same issues. -/
structure SameAnswers (v w : Validator) : Prop where
  parse : ∀ x, v.parse x = w.parse x
  matchedVariant : ∀ x, v.matchedVariant x = w.matchedVariant x
  acceptsAbsent : v.acceptsAbsent = w.acceptsAbsent

namespace SameAnswers

variable {u v w : Validator}

/-- If one gives the answers of the other, the other gives those of the one. -/
theorem symm (h : v.SameAnswers w) : w.SameAnswers v :=
  ⟨fun x => (h.parse x).symm, fun x => (h.matchedVariant x).symm, h.acceptsAbsent.symm⟩

/-- Answers can be compared by way of a third validator. -/
theorem trans (h : u.SameAnswers v) (h' : v.SameAnswers w) : u.SameAnswers w where
  parse x := (h.parse x).trans (h'.parse x)
  matchedVariant x := (h.matchedVariant x).trans (h'.matchedVariant x)
  acceptsAbsent := h.acceptsAbsent.trans h'.acceptsAbsent

/-- A schema told otherwise answers alike. -/
theorem of_told {r : Retelling} {options : CompileOptions}
    {P : Definitions → Definitions → Prop} (hpools : r.Pools P) (h : Told r options P v w) :
    v.SameAnswers w := by
  have halike : ∀ t u, Told r options P t u → t.Alike .same (Told r options P) u :=
    fun _ _ => Told.alike hpools
  have hparse : ∀ t u, Told r options P t u → ∀ x, t.parse x = u.parse x := by
    intro t u htu x
    rw [parse_eq, parse_eq, parseAt_eq_of_alike halike t x htu]
  have hcheck : ∀ x t u, Told r options P t u → t.check x = u.check x :=
    fun x t u htu => by rw [check, check, hparse t u htu]
  exact ⟨hparse v w h, fun x => matchedVariant_eq_of_alike halike (hcheck x) Iff.rfl h,
    acceptsAbsent_eq_of_alike halike h⟩

end SameAnswers

end Validator

-- ================================================================ pools

open Compiler Validator

variable {pool pool' : Definitions} {schema schema' : Json}

/-- A schema compiles like the bare schema, with the definitions that are in force. -/
theorem matches_bare (hsome : pool.isEmpty = false) {options : CompileOptions}
    {visited : VisitedPath} {x : Except CompileError Validator}
    (hx : x.map Validator.anonymous = unfoldNode schema pool visited options) :
    Matches SameAnswers x (compileNode schema.bare pool.bare visited options).result := by
  have hsite : Site.Along (Pool.Linked Definitions.Bared) ⟨⟨pool, 0⟩, visited, "#"⟩
      ⟨⟨pool.bare, 0⟩, visited, "#"⟩ := ⟨⟨rfl, hsome⟩, rfl, rfl⟩
  have hmatch := Told.matches_of_unfold Retelling.pools_bare hsite hx
    (result_compileNode schema.bare pool.bare visited options)
  exact hmatch.imp fun _ _ => SameAnswers.of_told Retelling.pools_bare

/-- Schemas that come to the same when bare compile alike. -/
theorem matches_of_bare_eq (hschema : schema.bare = schema'.bare) (hpool : pool.bare = pool'.bare)
    (hsome : pool.isEmpty = false) {options : CompileOptions} {visited : VisitedPath}
    {x y : Except CompileError Validator}
    (hx : x.map Validator.anonymous = unfoldNode schema pool visited options)
    (hy : y.map Validator.anonymous = unfoldNode schema' pool' visited options) :
    Matches SameAnswers x y := by
  have hsome' : pool'.isEmpty = false := by
    rw [← Definitions.isEmpty_bare, ← hpool, Definitions.isEmpty_bare, hsome]
  have hbare := matches_bare hsome hx
  have hbare' := matches_bare hsome' hy
  rw [← hschema, ← hpool] at hbare'
  -- both are compared with the compilation of what is bare, which is the same one
  generalize (compileNode schema.bare pool.bare visited options).result = z at hbare hbare'
  cases hbare with
  | error e =>
      cases hbare' with
      | error e => exact .error e
  | ok h =>
      cases hbare' with
      | ok h' => exact .ok (h.trans h'.symm)

/-- The definitions that a schema declares in `$defs` come into force at once. -/
theorem unfoldNode_insert_defs (members : Members) (pool : Definitions)
    (visited : VisitedPath) (options : CompileOptions) :
    unfoldNode (.object (members.insert "$defs" (.object pool.members))) {} visited options
      = unfoldNode (.object (members.insert "$defs" (.object pool.members))) pool visited
          options := by
  generalize hdefs : members.insert "$defs" (.object pool.members) = declaring
  have hdeclared : Definitions.declaredBy declaring = pool := by
    rw [Definitions.declaredBy, ← hdefs, get?_insert_self]
  have hnone : ({} : Definitions).inForce declaring = pool := hdeclared
  have hsome : pool.inForce declaring = pool := by
    rw [Definitions.inForce, hdeclared, ite_self]
  unfold unfoldNode levels unfold Site.inForce
  rw [hnone, hsome]

/-- Only the first definitions that are not empty count. A schema object compiles
against such definitions as it does with them for its own `$defs`. And while they are
in force, declarations may be added, changed and removed at every schema that the
compiler comes to, the definitions' bodies among them: what a schema compiles to
answers in the same way, or it fails to compile with the same error. -/
theorem only_first_definitions_count (pool : Definitions) (hsome : pool.isEmpty = false)
    (options : CompileOptions) :
    (∀ members : Members, Matches SameAnswers
      (compileNode (.object members) pool .empty options).result
      (compile (.object (members.insert "$defs" (.object pool.members))) options).result) ∧
    ∀ (schema schema' : Json) (pool' : Definitions) (visited : VisitedPath),
      schema.bare = schema'.bare → pool.bare = pool'.bare →
      Matches SameAnswers (compileNode schema pool visited options).result
        (compileNode schema' pool' visited options).result := by
  constructor
  · intro members
    have hbare : (Json.object members).bare
        = (Json.object (members.insert "$defs" (.object pool.members))).bare :=
      congrArg Json.object (bareMembers_insert_of_declares rfl members _).symm
    refine matches_of_bare_eq hbare rfl hsome (result_compileNode ..) ?_
    rw [← unfoldNode_insert_defs]
    exact result_compileNode ..
  · intro schema schema' pool' visited hschema hpool
    exact matches_of_bare_eq hschema hpool hsome (result_compileNode ..) (result_compileNode ..)

/-- Chains: arrays of chains. -/
def chains : Definitions :=
  ⟨[("Chain", .object [("type", .string "array"),
      ("items", .object [("$ref", .string "#/$defs/Chain")])])]⟩

/-- The same, with a declaration inside that says otherwise. -/
def chainsDeclaring : Definitions :=
  ⟨[("Chain", .object [("type", .string "array"),
      ("items", .object [("$ref", .string "#/$defs/Chain"),
        ("definitions", .object [("Chain", .object [("type", .string "null")])])])])]⟩

/-- A definition that declares others in its own turn may lose them, while the pool is not
empty. -/
theorem only_first_definitions_count_chains :
    ∃ v w, (compileNode (.object [("$ref", .string "Chain")]) chains .empty {}).result = .ok v ∧
      (compileNode (.object [("$ref", .string "Chain"), ("$defs", .null)]) chainsDeclaring
        .empty {}).result = .ok w ∧ ∀ x, v.parse x = w.parse x := by
  have hv : (compileNode (.object [("$ref", .string "Chain")]) chains .empty {}).result
      = .ok _ := rfl
  have hw : (compileNode (.object [("$ref", .string "Chain"), ("$defs", .null)]) chainsDeclaring
      .empty {}).result = .ok _ := rfl
  obtain ⟨-, hbare⟩ := only_first_definitions_count chains rfl {}
  have hmatch := hbare (.object [("$ref", .string "Chain")])
    (.object [("$ref", .string "Chain"), ("$defs", .null)]) chainsDeclaring .empty rfl rfl
  rw [hv, hw] at hmatch
  cases hmatch with
  | ok h => exact ⟨_, _, hv, hw, h.parse⟩

end Conformance
