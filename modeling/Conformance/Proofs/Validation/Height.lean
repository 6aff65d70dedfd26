/-
No validator is taller than the levels it was compiled with.

A path goes down from a node to one of its parts, and a deferred reference has
none. Each part was compiled with one level less, so a path has at most one node
for each level. One more may stand below the last: where no level is left, what
is no schema object still comes to something, and the values of an enumeration
are nodes that no schema was compiled for. What a deferred reference stands for
is compiled with all levels again, and so it is no taller.
-/
import Conformance.Proofs.Validation.Resolved

namespace Conformance

-- ================================================================ height

namespace Validator

variable {v w : Validator} {n : Nat}

/-- No path from the validator down through its parts has more nodes. -/
def HeightLe (v : Validator) (n : Nat) : Prop :=
  ∀ nodes : List Validator, (v :: nodes).IsChain Part → (v :: nodes).length ≤ n

theorem HeightLe.of_parts (h : ∀ w, v.Part w → w.HeightLe n) : v.HeightLe (n + 1) := by
  intro nodes hchain
  cases nodes with
  | nil => simp
  | cons w rest =>
      rw [List.isChain_cons_cons] at hchain
      obtain ⟨hpart, hrest⟩ := hchain
      have hle := h w hpart rest hrest
      rw [List.length_cons]
      omega

/-- What has no parts is a path by itself. -/
theorem HeightLe.of_leaf (h : ∀ w, ¬ v.Part w) : v.HeightLe (n + 1) :=
  .of_parts fun w hpart => absurd hpart (h w)

end Validator

-- ============================================================ expansions

/-- A path through what a schema comes to has a node for each level left, and at
most one more. -/
theorem Expands.heightLe {options : CompileOptions} {levels : Nat} :
    ∀ {pool : Definitions} {visited : VisitedPath} {schema : Json} {v : Validator},
      Expands options levels pool visited schema v → v.HeightLe (levels + 1) := by
  induction levels with
  | zero =>
      intro pool visited schema v h
      rcases h.any_or_layer with ⟨-, rfl⟩ | ⟨_, _, _, hlevels, -⟩
      · apply Validator.HeightLe.of_leaf
        intro w hpart
        cases hpart
      · cases hlevels
  | succ levels ih =>
      intro pool visited schema v h
      apply Validator.HeightLe.of_parts
      intro w hpart
      rcases h.part hpart with ⟨_, _, _, _, hlevels, hw⟩ | ⟨x, rfl⟩
      · cases hlevels
        exact ih hw
      · -- a value of an enumeration stands below the last level
        apply Validator.HeightLe.of_leaf
        intro w hpart
        cases hpart

-- ===================================================== deferred references

/-- What can be reached from an expansion was deferred with its options. -/
theorem Expands.options_eq_of_reaches {options : CompileOptions} {levels : Nat}
    {pool : Definitions} {visited : VisitedPath} {schema : Json} {v : Validator} {d : Deferred}
    (h : Expands options levels pool visited schema v) (hreach : v.Reaches d) :
    d.options = options := by
  induction hreach with
  | held hholds => exact Expands.options_eq_of_holds hholds h
  | behind _ ht hholds ih =>
      obtain ⟨_, -, hexpands⟩ := Deferred.expands_of_compile (Deferred.target_eq_ok.mp ht)
      rw [← ih]
      exact Expands.options_eq_of_holds hholds hexpands

namespace Validator

/-- Where compilation succeeds, no path down through the validator has more than
two nodes over the depth allowed. The same holds of what the deferred references
stand for that can be reached from it, each compiled for itself. -/
theorem height_bounded {schema : Json} {pool : Definitions} {visited : VisitedPath}
    {options : CompileOptions} {v : Validator}
    (h : (compileNode schema pool visited options).result = .ok v) :
    v.HeightLe (options.maxDepth + 2) ∧
      ∀ d t, v.Reaches d → d.target = .ok t → t.HeightLe (options.maxDepth + 2) := by
  have hexpands := expands_of_compileNode h
  refine ⟨hexpands.heightLe, ?_⟩
  intro d t hreach ht
  obtain ⟨_, -, htarget⟩ := Deferred.expands_of_compile (Deferred.target_eq_ok.mp ht)
  rw [← hexpands.options_eq_of_reaches hreach]
  exact htarget.heightLe

/-- A list of labelled nodes. -/
def labelledSchema : Json :=
  .object
    [("$ref", .string "#/$defs/Node"),
     ("$defs", .object [("Node", .object
        [("properties", .object
           [("label", .object [("enum", .array [.string "a", .null])]),
            ("next", .object [("$ref", .string "#/$defs/Node")])])])])]

/-- With a depth of two allowed, the labels stand at the full height. -/
theorem height_bounded_labelled : ∃ v,
    (compileNode labelledSchema {} .empty { maxDepth := 2 }).result = .ok v ∧
      (∃ nodes, (v :: nodes).IsChain Part ∧ (v :: nodes).length = 4) ∧ v.HeightLe 4 ∧
      (∃ d, v.Reaches d) ∧ ∀ d t, v.Reaches d → d.target = .ok t → t.HeightLe 4 := by
  have hcompile : (compileNode labelledSchema {} .empty { maxDepth := 2 }).result = .ok _ := rfl
  obtain ⟨hheight, htargets⟩ := height_bounded hcompile
  refine ⟨_, hcompile, ?path, hheight, ⟨?deferred, .held ?next⟩, htargets⟩
  case path =>
    exact ⟨[_, _, _], .cons_cons .target (.cons_cons (.property (List.mem_cons_self ..))
      (.cons_cons (.variant (List.mem_cons_self ..)) (.singleton _))), rfl⟩
  case next =>
    refine .beneath .target
      (.beneath (.property (List.mem_cons_of_mem _ (List.mem_cons_self ..))) ?_)
    exact .here _

end Validator

end Conformance
