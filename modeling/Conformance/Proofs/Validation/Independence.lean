/-
What answers do not depend on.

A schema that compiles with some limit on depth compiles with a higher one to a
validator that answers in the same way, down to each issue, also where a
deferred reference is compiled under its own limit later. And a schema whose
members are put in another order compiles just if it did before, to a validator
that accepts the same values in any order of theirs.

Both compare two compilations as counterparts. For the first nothing differs but
the options, and for the second nothing but the order of members.
-/
import Conformance.Proofs.Validation.Reordered
import Conformance.Proofs.Validation.Resolved

namespace Conformance

open Validator

-- ================================================================= depth

/-- The limit on depth decides whether a schema compiles and nothing else. -/
theorem depth_limit_unobservable {schema : Json} {options options' : CompileOptions}
    {v : Validator} (hformats : options.formats = options'.formats)
    (hdepth : options.maxDepth ≤ options'.maxDepth)
    (h : (compile schema options).result = .ok v) :
    ∃ w, (compile schema options').result = .ok w ∧ w.acceptsAbsent = v.acceptsAbsent ∧
      (∀ x, w.parse x = v.parse x ∧ w.matchedVariant x = v.matchedVariant x) ∧
      ∀ data, w.parseOptional data = v.parseOptional data := by
  have hlike : Likeness.same.Values schema schema := rfl
  obtain ⟨w, hw⟩ := exists_compile_of_like hformats hdepth hlike h
  have hcounterparts := Counterparts.of_compile hlike h hw
  have halike : ∀ t u, Counterparts .same options options' t u →
      t.Alike .same (Counterparts .same options options') u :=
    fun _ _ => Counterparts.alike hformats
  have hparse : ∀ t u, Counterparts .same options options' t u → ∀ x, t.parse x = u.parse x := by
    intro t u htu x
    rw [parse_eq, parse_eq, parseAt_eq_of_alike halike t x htu]
  have habsent := acceptsAbsent_eq_of_alike halike hcounterparts
  refine ⟨w, hw, habsent.symm, fun x => ⟨(hparse v w hcounterparts x).symm, ?_⟩, fun data => ?_⟩
  · have hcheck : ∀ t u, Counterparts .same options options' t u → t.check x = u.check x :=
      fun t u htu => by rw [check, check, hparse t u htu]
    exact (matchedVariant_eq_of_alike halike hcheck Iff.rfl hcounterparts).symm
  · cases data with
    | none => rw [parseOptional_none, parseOptional_none, habsent]
    | some x => rw [parseOptional_some, parseOptional_some, hparse v w hcounterparts]

theorem depth_limit_unobservable_node :
    ∃ v w, (compile nodeSchema { maxDepth := 2 }).result = .ok v ∧
      (compile nodeSchema { maxDepth := 9 }).result = .ok w ∧ ∀ x, w.parse x = v.parse x := by
  have hformats : (⟨2, .enforce⟩ : CompileOptions).formats
      = (⟨9, .enforce⟩ : CompileOptions).formats := rfl
  have hdepth : (⟨2, .enforce⟩ : CompileOptions).maxDepth ≤ 9 := by decide
  have hcompile : (compile nodeSchema { maxDepth := 2 }).result = .ok _ := rfl
  obtain ⟨w, hw, -, hparse, -⟩ := depth_limit_unobservable hformats hdepth hcompile
  exact ⟨_, w, hcompile, hw, fun x => (hparse x).1⟩

-- ====================================================== order of members

/-- The order of members is seen nowhere, neither in schemas nor in data: what is
accepted stays accepted, and what is made of it is the same up to an order. -/
theorem member_order_unobservable {schema schema' : Json} (options : CompileOptions)
    (hschema : schema.Reorders schema') :
    ((∃ v, (compile schema options).result = .ok v) ↔
      ∃ w, (compile schema' options).result = .ok w) ∧
    ∀ v w, (compile schema options).result = .ok v → (compile schema' options).result = .ok w →
      v.acceptsAbsent = w.acceptsAbsent ∧
      ∀ x x', x.Reorders x' →
        Option.Rel Json.Reorders (v.parse x).toOption (w.parse x').toOption ∧
        v.matchedVariant x = w.matchedVariant x' := by
  have hlike : Likeness.reordered.Values schema schema' := hschema
  have hlike' : Likeness.reordered.Values schema' schema := hschema.symm
  refine ⟨⟨fun ⟨_, h⟩ => ?_, fun ⟨_, h⟩ => ?_⟩, fun v w hv hw => ?_⟩
  · exact exists_compile_of_like rfl (Nat.le_refl _) hlike h
  · exact exists_compile_of_like rfl (Nat.le_refl _) hlike' h
  · have hcounterparts := Counterparts.of_compile hlike hv hw
    have halike : ∀ t u, Counterparts .reordered options options t u →
        t.Alike .reordered (Counterparts .reordered options options) u :=
      fun _ _ => Counterparts.alike rfl
    refine ⟨acceptsAbsent_eq_of_alike halike hcounterparts, fun x x' hx =>
      ⟨form?_rel_of_alike halike v x hcounterparts hx, ?_⟩⟩
    have hcheck : ∀ t u, Counterparts .reordered options options t u → t.check x = u.check x' :=
      fun t u htu => check_eq_of_form?_rel (form?_rel_of_alike halike t x htu hx)
    have hnull : x = .null ↔ x' = .null := by
      cases hx <;> simp
    exact matchedVariant_eq_of_alike halike hcheck hnull hcounterparts

/-- A book has a title. -/
def bookSchema : Json :=
  .object
    [("type", .string "object"), ("required", .array [.string "title"]),
     ("properties", .object
       [("title", .object [("type", .string "string")]),
        ("year", .object [("type", .string "integer")])])]

/-- The same, with its members and its properties read backwards. -/
def bookSchemaReordered : Json :=
  .object
    [("properties", .object
       [("year", .object [("type", .string "integer")]),
        ("title", .object [("type", .string "string")])]),
     ("required", .array [.string "title"]), ("type", .string "object")]

/-- The loan of a book, which is defined apart. -/
def loanSchema : Json :=
  .object
    [("type", .string "object"), ("required", .array [.string "book"]),
     ("properties", .object
       [("book", .object [("$ref", .string "#/$defs/book")]),
        ("days", .object [("type", .string "integer")])]),
     ("$defs", .object [("book", bookSchema)])]

/-- The same, read backwards throughout. -/
def loanSchemaReordered : Json :=
  .object
    [("$defs", .object [("book", bookSchemaReordered)]),
     ("properties", .object
       [("days", .object [("type", .string "integer")]),
        ("book", .object [("$ref", .string "#/$defs/book")])]),
     ("required", .array [.string "book"]), ("type", .string "object")]

/-- A loan, with a member that is not declared. -/
def loan : Json :=
  .object
    [("book", .object [("title", .string "Emma"), ("year", .number (.whole 1815))]),
     ("note", .string "late"), ("days", .number (.whole 14))]

def loanReordered : Json :=
  .object
    [("days", .number (.whole 14)), ("note", .string "late"),
     ("book", .object [("year", .number (.whole 1815)), ("title", .string "Emma")])]

/-- Two members with distinct names may change places. -/
theorem reorders_pair {m n : String × Json} (h : Members.Distinct [m, n]) :
    (Json.object [m, n]).Reorders (.object [n, m]) :=
  Json.reorders_of_perm h (.swap ..)

theorem reorders_bookSchema : bookSchema.Reorders bookSchemaReordered := by
  have hrequired : (Json.array [.string "title"]).Distinct := by simp
  refine Json.reorders_of_mem (by decide) (by decide) ?_
  simp only [List.forall_mem_cons, List.not_mem_nil, false_implies, implies_true, and_true]
  refine ⟨⟨_, by simp, .string _⟩, ⟨_, by simp, hrequired.reorders⟩, ⟨_, by simp, reorders_pair ?_⟩⟩
  simp [Members.Distinct, Members.names]

theorem reorders_loanSchema : loanSchema.Reorders loanSchemaReordered := by
  have hrequired : (Json.array [.string "book"]).Distinct := by simp
  have hdefs : Json.Reorders (.object [("book", bookSchema)])
      (.object [("book", bookSchemaReordered)]) :=
    Json.reorders_of_mem (by decide) (.refl _) (by simpa using reorders_bookSchema)
  refine Json.reorders_of_mem (by decide) (by decide) ?_
  simp only [List.forall_mem_cons, List.not_mem_nil, false_implies, implies_true, and_true]
  refine ⟨⟨_, by simp, .string _⟩, ⟨_, by simp, hrequired.reorders⟩,
    ⟨_, by simp, reorders_pair ?_⟩, ⟨_, by simp, hdefs⟩⟩
  simp [Members.Distinct, Members.names]

theorem reorders_loan : loan.Reorders loanReordered := by
  refine Json.reorders_of_mem (by decide) (by decide) ?_
  simp only [List.forall_mem_cons, List.not_mem_nil, false_implies, implies_true, and_true]
  refine ⟨⟨_, by simp, reorders_pair ?_⟩, ⟨_, by simp, .string _⟩, ⟨_, by simp, .number _⟩⟩
  simp [Members.Distinct, Members.names]

/-- What is left of the loan is put in the order of the schema, so it comes in two orders. -/
theorem member_order_unobservable_loan :
    ∃ v w, (compile loanSchema).result = .ok v ∧ (compile loanSchemaReordered).result = .ok w ∧
      v.parse loan = .ok (.object
        [("book", .object [("title", .string "Emma"), ("year", .number (.whole 1815))]),
         ("days", .number (.whole 14))]) ∧
      w.parse loanReordered = .ok (.object
        [("days", .number (.whole 14)),
         ("book", .object [("year", .number (.whole 1815)), ("title", .string "Emma")])]) ∧
      Option.Rel Json.Reorders (v.parse loan).toOption (w.parse loanReordered).toOption ∧
      v.acceptsAbsent = w.acceptsAbsent := by
  have hv : (compile loanSchema).result = .ok _ := rfl
  have hw : (compile loanSchemaReordered).result = .ok _ := rfl
  obtain ⟨-, hanswers⟩ := member_order_unobservable {} reorders_loanSchema
  obtain ⟨habsent, hparse⟩ := hanswers _ _ hv hw
  exact ⟨_, _, hv, hw, rfl, rfl, (hparse _ _ reorders_loan).1, habsent⟩

end Conformance
