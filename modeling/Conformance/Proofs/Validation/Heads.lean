/-
The deferred references that a validator comes to before it looks into the data.

Between a node and such a reference there are only unions, optional nodes and
shared nodes, so while the compiler was on the way from the one to the other it
never descended. All it did to its path was to enter references, and entering a
reference can only take marks away. So the heads of what a deferred reference
stands for have strictly fewer marks than the reference itself: all of theirs
are its own, and the mark it is deferred for is gone.

`marks_lt_of_heads` says this in numbers, and it is what validation comes to an
end by.
-/
import Conformance.Proofs.Compiler.Expansion
import Conformance.Session

namespace Conformance

-- ================================================================ paths

namespace VisitedPath

/-- The second path comes from the first by entering references. -/
inductive Enters : VisitedPath → VisitedPath → Prop
  | refl (path : VisitedPath) : Enters path path
  | enter {path other : VisitedPath} {r : String} (h : Enters (path.enter r) other) :
      Enters path other

/-- Where references are only entered, nothing is marked. -/
theorem Enters.isNested {path other : VisitedPath} (h : path.Enters other) {q : String}
    (hq : other.isNested q = true) : path.isNested q = true := by
  induction h with
  | refl path => exact hq
  | enter _ ih => exact (isNested_enter.mp (ih hq)).2

theorem Enters.nestedCount_le {path other : VisitedPath} (h : path.Enters other) :
    other.nestedCount ≤ path.nestedCount := by
  induction h with
  | refl path => exact Nat.le_refl _
  | @enter path _ r _ ih => exact Nat.le_trans ih (nestedCount_enter_le path r)

end VisitedPath

-- ================================================================ heads

namespace Validator

/-- The deferred reference is at the head of the validator: nothing that looks
into the data stands between them. -/
inductive Heads : Validator → Deferred → Prop
  | deferred (d : Deferred) : Heads (.deferred d) d
  | union {variants : List Validator} {v : Validator} {d : Deferred} (hv : v ∈ variants)
      (h : Heads v d) : Heads (.union variants) d
  | optional {inner : Validator} {d : Deferred} (h : Heads inner d) : Heads (.optional inner) d
  | shared {number : Nat} {target : Validator} {d : Deferred} (h : Heads target d) :
      Heads (.shared number target) d

theorem Heads.part {v : Validator} {d : Deferred} (h : v.Heads d) :
    v = .deferred d ∨ ∃ w, v.Part w ∧ w.Heads d := by
  cases h with
  | deferred => exact .inl rfl
  | union hv h => exact .inr ⟨_, .variant hv, h⟩
  | optional h => exact .inr ⟨_, .inner, h⟩
  | shared h => exact .inr ⟨_, .target, h⟩

/-- No reference is at the head of a leaf. -/
theorem not_heads_of_leaf {shape : Shape} {v : Validator} (hleaf : shape.leaf? = some v)
    {e : Deferred} : ¬ v.Heads e := by
  intro h
  rcases h.part with rfl | ⟨w, hpart, hw⟩
  · exact leaf_ne_deferred hleaf
  · obtain ⟨x, rfl⟩ := part_of_leaf hleaf hpart
    cases hw

end Validator

/-- On the way to the head of an expansion, references are only entered. -/
theorem enters_of_expands {options : CompileOptions} {levels : Nat} :
    ∀ {pool : Definitions} {visited : VisitedPath} {schema : Json} {v : Validator} {e : Deferred},
      Expands options levels pool visited schema v → v.Heads e → visited.Enters e.visited := by
  induction levels with
  | zero =>
      intro pool visited schema v e h hhead
      cases schema with
      | object members => cases h
      | _ =>
          cases (show v = .any from h)
          cases hhead
  | succ levels ih =>
      intro pool visited schema v e h hhead
      cases schema with
      | object members =>
          obtain ⟨shape, -, hlayer⟩ := h
          cases hlayer with
          | leaf hleaf => exact absurd hhead (Validator.not_heads_of_leaf hleaf)
          | cut =>
              cases hhead with
              | union hv => exact absurd hv List.not_mem_nil
          | deferred _ hvisited =>
              cases hhead
              rw [hvisited]
              exact .refl visited
          | followed _ _ h =>
              cases hhead with
              | shared hhead => exact .enter (ih h hhead)
          | optional h =>
              cases hhead with
              | optional hhead => exact ih h hhead
          | union hs =>
              cases hhead with
              | union hv hhead =>
                  obtain ⟨_, _, h⟩ := exists_left_of_forall₂ hs _ hv
                  exact ih h hhead
          | array | object => cases hhead
      | _ =>
          cases (show v = .any from h)
          cases hhead

namespace Deferred

variable {d e : Deferred} {t : Validator}

/-- What a reference stands for is compiled with that reference entered, so up
to its heads references are only entered. -/
theorem enters_of_heads (h : d.target = .ok t) (hhead : t.Heads e) :
    (d.visited.enter d.reference).Enters e.visited := by
  obtain ⟨definition, -, hexpands⟩ := expands_of_compile (target_eq_ok.mp h)
  exact enters_of_expands hexpands hhead

/-- A head of what a reference stands for has only marks that the reference has. -/
theorem isNested_of_heads (h : d.target = .ok t) (hhead : t.Heads e) {q : String}
    (hq : e.visited.isNested q = true) : q ≠ d.reference ∧ d.visited.isNested q = true :=
  VisitedPath.isNested_enter.mp ((enters_of_heads h hhead).isNested hq)

/-- And it has fewer of them. -/
theorem marks_lt_of_heads (h : d.target = .ok t) (hhead : t.Heads e) :
    e.visited.nestedCount < d.visited.nestedCount :=
  calc e.visited.nestedCount
      ≤ (d.visited.enter d.reference).nestedCount := (enters_of_heads h hhead).nestedCount_le
    _ < d.visited.nestedCount := VisitedPath.nestedCount_enter_lt d.nested

end Deferred

end Conformance
