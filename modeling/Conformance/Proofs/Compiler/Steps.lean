/-
What a visited path says about the branch it belongs to.

A branch enters references and descends into the data, in any order and any number of
times, and its path changes with every step. Entering a reference writes over what the
path had of it, and a descent rewrites everything. Yet what the path says can be read
off the steps: it has the references that were entered, and marks those after whose last
entry there was a descent (`contains_ofSteps`, `isNested_ofSteps`).

A path says nothing else. Its entries are sorted, so paths that give the same answers
about every reference are one and the same (`eq_iff_answers`), and branches whose steps
differ share what was compiled for a reference just if their answers do not.
-/
import Conformance.Visited
import Mathlib.Data.Finset.Card
import Mathlib.Data.List.Sort

namespace Conformance

namespace VisitedPath

-- ============================================================== equality

/-- Every reference stands in the path once. -/
theorem nodup_references (path : VisitedPath) : (path.marks.map Prod.fst).Nodup := by
  have hsorted : (path.marks.map Prod.fst).Pairwise (· < ·) := List.pairwise_map.mpr path.sorted
  apply hsorted.imp
  rintro q _ hlt rfl
  exact String.lt_irrefl q hlt

/-- The mark of an entered reference is the answer to whether it is nested. -/
theorem mem_marks_iff {path : VisitedPath} {q : String} {mark : Bool} :
    (q, mark) ∈ path.marks ↔ path.contains q = true ∧ path.isNested q = mark := by
  rw [contains_iff]
  cases mark with
  | true =>
      rw [isNested_iff]
      constructor
      · intro h
        exact ⟨⟨true, h⟩, h⟩
      · intro h
        exact h.2
  | false =>
      rw [← Bool.not_eq_true, isNested_iff]
      constructor
      · intro h
        refine ⟨⟨false, h⟩, fun hmarked => ?_⟩
        -- no reference stands in the path with both marks
        have heq := List.inj_on_of_nodup_map path.nodup_references h hmarked rfl
        cases heq
      · intro h
        obtain ⟨⟨mark, hmark⟩, hnot⟩ := h
        cases mark with
        | true => exact absurd hmark hnot
        | false => exact hmark

/-- Paths that answer alike about every reference are the same. -/
theorem eq_iff_answers {path other : VisitedPath} :
    path = other ↔
      ∀ q, path.contains q = other.contains q ∧ path.isNested q = other.isNested q := by
  constructor
  · intro h q
    rw [h]
    exact ⟨rfl, rfl⟩
  · intro h
    have hmem : ∀ e, e ∈ path.marks ↔ e ∈ other.marks := by
      intro e
      obtain ⟨q, mark⟩ := e
      rw [mem_marks_iff, mem_marks_iff, (h q).1, (h q).2]
    let before (e f : String × Bool) : Prop := e.1 < f.1
    have hirrefl : Std.Irrefl before := ⟨fun e => String.lt_irrefl e.1⟩
    have hantisymm : Std.Antisymm before :=
      ⟨fun _ _ hlt hgt => absurd (String.lt_trans hlt hgt) (String.lt_irrefl _)⟩
    have hmarks : path.marks = other.marks :=
      List.Pairwise.eq_of_mem_iff (r := before) path.sorted other.sorted hmem
    cases path
    cases other
    cases hmarks
    rfl

-- ================================================================= steps

/-- What a branch does that its path takes note of. -/
inductive Step where
  | enter (reference : String)
  | descend
  deriving DecidableEq

/-- The path after a step. -/
def after (path : VisitedPath) : Step → VisitedPath
  | .enter reference => path.enter reference
  | .descend => path.descend

/-- The path of a branch, from its steps. -/
def ofSteps (steps : List Step) : VisitedPath := steps.foldl after empty

/-- The references that a branch enters, one for each time. -/
def entered (steps : List Step) : List String :=
  steps.filterMap fun step =>
    match step with
    | .enter reference => some reference
    | .descend => none

/-- The branch descends after it has entered the reference for the last time. -/
def DescendsSince (steps : List Step) (q : String) : Prop :=
  ∃ front back, steps = front ++ .enter q :: back ∧ Step.enter q ∉ back ∧ Step.descend ∈ back

variable {steps : List Step} {q r : String}

theorem ofSteps_concat (steps : List Step) (step : Step) :
    ofSteps (steps ++ [step]) = (ofSteps steps).after step := by
  rw [ofSteps, List.foldl_append]
  rfl

theorem mem_entered : q ∈ entered steps ↔ Step.enter q ∈ steps := by
  rw [entered, List.mem_filterMap]
  constructor
  · intro h
    obtain ⟨step, hstep, heq⟩ := h
    cases step with
    | enter r =>
        cases heq
        exact hstep
    | descend => cases heq
  · intro h
    exact ⟨_, h, rfl⟩

/-- What has been entered has been entered for the last time somewhere. -/
theorem exists_last_enter (h : Step.enter q ∈ steps) :
    ∃ front back, steps = front ++ .enter q :: back ∧ Step.enter q ∉ back := by
  obtain ⟨back, front, hsteps, hback⟩ := List.eq_append_cons_of_mem (List.mem_reverse.mpr h)
  refine ⟨front.reverse, back.reverse, ?_, fun hmem => hback (List.mem_reverse.mp hmem)⟩
  rw [← List.reverse_reverse steps, hsteps]
  simp

theorem not_descendsSince_nil : ¬ DescendsSince [] q := by
  rintro ⟨front, back, hsteps, -⟩
  simp at hsteps

/-- With another reference entered there is a descent since the last entry just if there
was one before, and there is none since a reference has been entered again. -/
theorem descendsSince_enter :
    DescendsSince (steps ++ [.enter r]) q ↔ q ≠ r ∧ DescendsSince steps q := by
  constructor
  · rintro ⟨front, back, hsteps, hlast, hdescend⟩
    rcases List.eq_nil_or_concat back with rfl | ⟨rest, step, rfl⟩
    · cases hdescend
    · rw [List.concat_eq_append] at hsteps hlast hdescend
      rw [← List.cons_append, ← List.append_assoc, List.append_singleton_inj] at hsteps
      obtain ⟨rfl, rfl⟩ := hsteps
      rw [List.mem_append, List.mem_singleton, not_or] at hlast
      refine ⟨fun heq => hlast.2 (by rw [heq]), front, rest, rfl, hlast.1, ?_⟩
      simpa using hdescend
  · rintro ⟨hne, front, back, rfl, hlast, hdescend⟩
    refine ⟨front, back ++ [.enter r], by simp, ?_, List.mem_append_left _ hdescend⟩
    rw [List.mem_append, List.mem_singleton, not_or, Step.enter.injEq]
    exact ⟨hlast, hne⟩

/-- A descent comes after the last entry of everything entered so far. -/
theorem descendsSince_descend : DescendsSince (steps ++ [.descend]) q ↔ Step.enter q ∈ steps := by
  constructor
  · rintro ⟨front, back, hsteps, -, -⟩
    have hmem : Step.enter q ∈ steps ++ [.descend] := by
      rw [hsteps]
      exact List.mem_append_right _ (List.mem_cons_self ..)
    simpa using hmem
  · intro h
    obtain ⟨front, back, rfl, hlast⟩ := exists_last_enter h
    refine ⟨front, back ++ [.descend], by simp, ?_, by simp⟩
    simpa using hlast

-- ======================================================= what a path says

/-- The references that the path has are those that were entered. -/
theorem contains_ofSteps : (ofSteps steps).contains q = true ↔ Step.enter q ∈ steps := by
  induction steps using List.reverseRecOn with
  | nil => simp [ofSteps]
  | append_singleton front step ih =>
      rw [ofSteps_concat, List.mem_append, List.mem_singleton]
      cases step with
      | enter r => rw [after, contains_enter, ih, Step.enter.injEq, or_comm]
      | descend => rw [after, contains_descend, ih]; simp

/-- The marked ones are those after whose last entry there was a descent. -/
theorem isNested_ofSteps : (ofSteps steps).isNested q = true ↔ DescendsSince steps q := by
  induction steps using List.reverseRecOn with
  | nil =>
      constructor
      · intro h
        cases h
      · intro h
        exact absurd h not_descendsSince_nil
  | append_singleton front step ih =>
      rw [ofSteps_concat]
      cases step with
      | enter r => rw [after, isNested_enter, ih, descendsSince_enter]
      | descend => rw [after, isNested_descend, contains_ofSteps, descendsSince_descend]

/-- The path is as long as there are different references entered. -/
theorem size_ofSteps (steps : List Step) :
    (ofSteps steps).size = (entered steps).toFinset.card := by
  have hreferences : ((ofSteps steps).marks.map Prod.fst).toFinset = (entered steps).toFinset := by
    ext q
    rw [List.mem_toFinset, List.mem_toFinset, mem_entered, ← contains_ofSteps, contains_iff]
    simp
  rw [← hreferences, List.toFinset_card_of_nodup (nodup_references _), List.length_map]
  rfl

/-- Whatever steps a branch takes, its path has the references that it has entered, marks
those after whose last entry it has descended, and counts the different ones. It says
nothing else: the paths of two branches are equal just if they answer alike about every
reference. -/
theorem path_records_steps (steps : List Step) :
    (∀ q, (ofSteps steps).contains q = true ↔ Step.enter q ∈ steps) ∧
    (∀ q, (ofSteps steps).isNested q = true ↔ DescendsSince steps q) ∧
    (ofSteps steps).size = (entered steps).toFinset.card ∧
    ∀ others, (ofSteps steps == ofSteps others) = true ↔
      ∀ q, (ofSteps steps).contains q = (ofSteps others).contains q ∧
        (ofSteps steps).isNested q = (ofSteps others).isNested q := by
  refine ⟨fun q => contains_ofSteps, fun q => isNested_ofSteps, size_ofSteps steps,
    fun others => ?_⟩
  rw [beq_iff_eq]
  exact eq_iff_answers

/-- Entering a reference again takes its mark away, and the order in which references are
entered does not show. -/
example : ofSteps [.enter "a", .enter "b", .descend, .enter "a"]
    = ofSteps [.enter "b", .descend, .enter "a"] := by decide

end VisitedPath

end Conformance
