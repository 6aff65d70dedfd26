/-
Visited paths.

While a schema is compiled, the references entered on the current branch are
remembered, each with a mark that says whether the branch has since descended
into an item or a member of the data. Re-entering a marked reference is
ordinary recursion; re-entering an unmarked one is a cycle that consumes no
data.

A path is kept sorted by reference. So two paths that agree on every reference
are the same path, however they came about.
-/

namespace Conformance

/-- The entries of a visited path: references with their marks. -/
abbrev Marks := List (String × Bool)

namespace Marks

/-- Each reference stands before all that follow it. -/
def Sorted (marks : Marks) : Prop := marks.Pairwise (·.1 < ·.1)

/-- Puts an unmarked reference into its place, over any earlier entry. -/
def enter (reference : String) : Marks → Marks
  | [] => [(reference, false)]
  | (r, mark) :: rest =>
    if reference < r then (reference, false) :: (r, mark) :: rest
    else if reference = r then (reference, false) :: rest
    else (r, mark) :: enter reference rest

/-- Marks every reference. -/
def descend (marks : Marks) : Marks := marks.map fun e => (e.1, true)

/-- What has been entered before stays, and the reference is there. -/
theorem fst_mem_enter {reference r : String} {marks : Marks} :
    r ∈ (enter reference marks).map (·.1) ↔ r = reference ∨ r ∈ marks.map (·.1) := by
  induction marks with
  | nil => simp [enter]
  | cons e rest ih => grind [enter]

/-- The reference is put in its place, so the list stays sorted and has no reference
twice. -/
theorem sorted_enter (reference : String) {marks : Marks} (h : marks.Sorted) :
    (enter reference marks).Sorted := by
  induction marks with
  | nil => simp [enter, Sorted]
  | cons e rest ih =>
    obtain ⟨r, mark⟩ := e
    obtain ⟨hr, hrest⟩ := List.pairwise_cons.mp h
    unfold enter
    split
    -- the reference comes first
    · next hlt =>
      refine List.pairwise_cons.mpr ⟨?_, h⟩
      intro e he
      rcases List.mem_cons.mp he with rfl | he
      · exact hlt
      · exact String.lt_trans hlt (hr e he)
    · next hnlt =>
      split
      · next heq => subst heq; exact List.pairwise_cons.mpr ⟨hr, hrest⟩
      · next hne =>
        refine List.pairwise_cons.mpr ⟨?_, ih hrest⟩
        intro e he
        -- it comes later, and what it is put among is behind the first one
        have hmem : e.1 ∈ (enter reference rest).map (·.1) := List.mem_map_of_mem he
        rcases fst_mem_enter.mp hmem with heq | hmem
        · rw [heq]
          have hle : r ≤ reference := String.not_lt.mp hnlt
          exact Std.lt_of_le_of_ne hle fun h => hne h.symm
        · obtain ⟨e', he', heq⟩ := List.mem_map.mp hmem
          exact heq ▸ hr e' he'

/-- The references stay what they are where only marks are set. -/
theorem sorted_descend {marks : Marks} (h : marks.Sorted) : marks.descend.Sorted :=
  List.pairwise_map.mpr h

/-- Of an entered reference the only entry is the new one; other entries stay. -/
theorem mem_enter {reference : String} {e : String × Bool} {marks : Marks} (h : marks.Sorted) :
    e ∈ enter reference marks ↔ e = (reference, false) ∨ e.1 ≠ reference ∧ e ∈ marks := by
  induction marks with
  | nil => simp [enter]
  | cons head rest ih =>
      obtain ⟨r, mark⟩ := head
      obtain ⟨hr, hrest⟩ := List.pairwise_cons.mp h
      have hne : ∀ e ∈ rest, e.1 ≠ r := fun e he heq =>
        String.lt_irrefl r (by simpa [heq] using hr e he)
      unfold enter
      split
      · next hlt =>
        -- the reference stands before all entries, so it is none of them
        have hhead : r ≠ reference := fun heq => String.lt_irrefl r (by simp [heq] at hlt)
        have htail : ∀ e ∈ rest, e.1 ≠ reference := fun e he heq =>
          String.lt_irrefl reference (String.lt_trans hlt (by simpa [heq] using hr e he))
        simp only [List.mem_cons]
        grind
      · split
        · next heq =>
          subst heq
          simp only [List.mem_cons]
          grind
        · next hne' =>
          rw [List.mem_cons, List.mem_cons, ih hrest]
          grind

/-- Entering a reference takes the mark from it, and leaves all other marks. -/
theorem countP_enter (reference : String) {marks : Marks} (h : marks.Sorted) :
    (enter reference marks).countP (·.2) + (if (reference, true) ∈ marks then 1 else 0)
      = marks.countP (·.2) := by
  induction marks with
  | nil => simp [enter]
  | cons head rest ih =>
      obtain ⟨r, mark⟩ := head
      obtain ⟨hr, hrest⟩ := List.pairwise_cons.mp h
      unfold enter
      split
      · next hlt =>
        -- all references of the list are greater, so it had no mark
        have hnot : (reference, true) ∉ (r, mark) :: rest := by
          intro hmem
          rcases List.mem_cons.mp hmem with heq | hmem
          · cases heq; exact String.lt_irrefl _ hlt
          · exact String.lt_irrefl _ (String.lt_trans hlt (hr _ hmem))
        simp [hnot]
      · split
        · next heq =>
          subst heq
          have hnot : (reference, true) ∉ rest := fun hmem =>
            String.lt_irrefl reference (hr (reference, true) hmem)
          cases mark <;> simp [hnot]
        · next hne =>
          -- the first one is another and keeps its mark
          have hiff : (reference, true) ∈ (r, mark) :: rest ↔ (reference, true) ∈ rest := by
            simp [hne]
          have := ih hrest
          simp only [hiff, List.countP_cons] at this ⊢
          omega

end Marks

/-- The references entered on one branch, sorted, with their marks. -/
structure VisitedPath where
  marks : Marks := []
  sorted : marks.Sorted := by exact List.Pairwise.nil
  deriving DecidableEq

namespace VisitedPath

instance : Inhabited VisitedPath := ⟨{}⟩

/-- The path of a branch that has entered nothing. -/
def empty : VisitedPath := {}

/-- Nothing has been entered. -/
def isEmpty (path : VisitedPath) : Bool := path.marks.isEmpty

/-- How many references have been entered. -/
def size (path : VisitedPath) : Nat := path.marks.length

/-- Whether a reference has been entered. -/
def contains (path : VisitedPath) (reference : String) : Bool :=
  path.marks.any (·.1 == reference)

/-- Whether the branch has descended into the data since it entered the
reference. -/
def isNested (path : VisitedPath) (reference : String) : Bool :=
  path.marks.any fun e => e.1 == reference && e.2

/-- How many references the branch has entered and descended from since. -/
def nestedCount (path : VisitedPath) : Nat := path.marks.countP (·.2)

/-- The path after entering a reference, which is thereby unmarked. -/
def enter (path : VisitedPath) (reference : String) : VisitedPath :=
  ⟨path.marks.enter reference, Marks.sorted_enter reference path.sorted⟩

/-- The path after descending into an item or a member. -/
def descend (path : VisitedPath) : VisitedPath :=
  ⟨path.marks.descend, Marks.sorted_descend path.sorted⟩

/-- The questions about a path are about its marks. -/
theorem contains_iff {path : VisitedPath} {q : String} :
    path.contains q = true ↔ ∃ mark, (q, mark) ∈ path.marks := by
  simp [contains]

/-- A reference is nested just if it has its mark. -/
theorem isNested_iff {path : VisitedPath} {q : String} :
    path.isNested q = true ↔ (q, true) ∈ path.marks := by
  simp [isNested]

/-- A marked reference has been entered. -/
theorem contains_of_isNested {path : VisitedPath} {q : String} (h : path.isNested q = true) :
    path.contains q = true :=
  contains_iff.mpr ⟨true, isNested_iff.mp h⟩

@[simp] theorem contains_empty (q : String) : empty.contains q = false := rfl

@[simp] theorem isNested_empty (q : String) : empty.isNested q = false := rfl

/-- What a path contains and what of it is nested, after each of the steps. -/
@[simp] theorem contains_enter {path : VisitedPath} {r q : String} :
    (path.enter r).contains q = true ↔ q = r ∨ path.contains q = true := by
  rw [contains_iff, contains_iff]
  simp only [enter, Marks.mem_enter path.sorted, Prod.mk.injEq]
  by_cases h : q = r <;> simp [h]

/-- Entering takes the mark, so that a reference is nested only if data is passed
afterwards. -/
@[simp] theorem isNested_enter {path : VisitedPath} {r q : String} :
    (path.enter r).isNested q = true ↔ q ≠ r ∧ path.isNested q = true := by
  rw [isNested_iff, isNested_iff]
  simp only [enter, Marks.mem_enter path.sorted]
  grind

@[simp] theorem contains_descend {path : VisitedPath} {q : String} :
    path.descend.contains q = true ↔ path.contains q = true := by
  rw [contains_iff, contains_iff]
  simp [descend, Marks.descend]

/-- Passing data marks all that has been entered. -/
@[simp] theorem isNested_descend {path : VisitedPath} {q : String} :
    path.descend.isNested q = true ↔ path.contains q = true := by
  rw [isNested_iff, contains_iff]
  simp [descend, Marks.descend]

/-- The second path has entered all that the first has. -/
def Within (path other : VisitedPath) : Prop :=
  ∀ q, path.contains q = true → other.contains q = true

/-- To be within another path goes by containment and says nothing of marks. -/
theorem Within.refl (path : VisitedPath) : path.Within path := fun _ hq => hq

theorem Within.trans {path other third : VisitedPath} (h : path.Within other)
    (h' : other.Within third) : path.Within third := fun q hq => h' q (h q hq)

/-- Paths only grow, whichever step is made. -/
theorem within_enter (path : VisitedPath) (r : String) : path.Within (path.enter r) :=
  fun _ hq => contains_enter.mpr (.inr hq)

theorem within_descend (path : VisitedPath) : path.Within path.descend :=
  fun _ hq => contains_descend.mpr hq

/-- The same step on both sides keeps one path within the other. -/
theorem Within.enter {path other : VisitedPath} (h : path.Within other) (r : String) :
    (path.enter r).Within (other.enter r) := by
  intro q hq
  rcases contains_enter.mp hq with rfl | hq
  · exact contains_enter.mpr (.inl rfl)
  · exact contains_enter.mpr (.inr (h q hq))

theorem Within.descend {path other : VisitedPath} (h : path.Within other) :
    path.descend.Within other.descend :=
  fun q hq => contains_descend.mpr (h q (contains_descend.mp hq))

/-- Entering a marked reference leaves one marked reference less. -/
theorem nestedCount_enter_lt {path : VisitedPath} {r : String} (h : path.isNested r = true) :
    (path.enter r).nestedCount < path.nestedCount := by
  have hcount : (path.enter r).nestedCount + _ = path.nestedCount :=
    Marks.countP_enter r path.sorted
  rw [if_pos (isNested_iff.mp h)] at hcount
  omega

/-- Entering a reference marks none. -/
theorem nestedCount_enter_le (path : VisitedPath) (r : String) :
    (path.enter r).nestedCount ≤ path.nestedCount := by
  have hcount : (path.enter r).nestedCount + _ = path.nestedCount :=
    Marks.countP_enter r path.sorted
  omega

end VisitedPath

end Conformance
