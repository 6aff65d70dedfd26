/-
How deep the compiler goes: never so deep that cycles alone use up the levels.

# The measure

A branch goes down into schemas and now and then jumps to a definition. Going
down makes the schema at hand smaller, also where that schema is put together
anew. A jump may make it larger again, but never larger than the document, and
it takes place only at a reference that the branch has not entered. So

  `rank = |document| * (references of the document not entered) + |schema|`

falls with every call (`rank_lt_of_calls`), and a branch is never longer than
the rank it starts with.

# The invariant

For this the branch must not come to schemas or references that the document
does not have: a schema at hand and those in the pool are `Drawn` from the
document. Pools come from the document too, and whatever is put together is put
together from members that are there.
-/
import Conformance.Proofs.Compiler.Descent
import Conformance.Proofs.Json.Parts

namespace Conformance

namespace Compiler

variable {whole : Json}

-- ========================================================= the invariant

/-- The schema is no larger than the document, and has no other references. -/
structure Within (whole schema : Json) : Prop where
  size_le : schema.size ≤ whole.size
  references : schema.references ⊆ whole.references

/-- The schema at hand and the definitions in force are drawn from the
document. -/
structure Drawn (whole : Json) (place : Json × Site) : Prop where
  schema : Within whole place.1
  pool : ∀ m ∈ place.2.pool.definitions.members, Within whole m.2

/-- The references of the document that a branch has not entered. -/
def pending (whole : Json) (visited : VisitedPath) : List String :=
  whole.references.dedup.filter fun r => !visited.contains r

/-- How much a branch has before it. -/
def rank (whole : Json) (place : Json × Site) : Nat :=
  whole.size * (pending whole place.2.visited).length + place.1.size

namespace Within

theorem refl (whole : Json) : Within whole whole := ⟨Nat.le_refl _, List.Subset.refl _⟩

theorem part {schema child : Json} (h : Within whole schema) (hsize : child.size < schema.size)
    (hreferences : child.references ⊆ schema.references) : Within whole child :=
  ⟨Nat.le_trans (Nat.le_of_lt hsize) h.size_le, fun _ hr => h.references (hreferences hr)⟩

theorem member {members : Members} (h : Within whole (.object members)) {m : String × Json}
    (hm : m ∈ members) : Within whole m.2 :=
  h.part (Json.size_lt_of_member hm) (Json.references_subset_of_member hm)

/-- The definitions that a schema declares are parts of it. -/
theorem declaredBy {members : Members} (h : Within whole (.object members)) :
    ∀ m ∈ (Definitions.declaredBy members).members, Within whole m.2 := by
  have hdefs : ∀ {name : String} {defs : Members}, members.get? name = some (.object defs) →
      ∀ m ∈ defs, Within whole m.2 :=
    fun hget _ hm => (h.member (Members.mem_of_get? hget)).member hm
  intro m hm
  unfold Definitions.declaredBy at hm
  split at hm
  · next defs hget => exact hdefs hget m hm
  · next defs hget _ => exact hdefs hget m hm
  · cases hm

end Within

-- ========================================================== what is called

/-- What lies beneath a schema is smaller, and has no other references. -/
theorem Beneath.part {members : Members} {site place : Site} {child : Json}
    (h : Beneath members site child place) :
    child.size < (Json.object members).size ∧
      child.references ⊆ (Json.object members).references := by
  have hmember : ∀ {name v}, members.get? name = some v →
      v.size < (Json.object members).size ∧ v.references ⊆ (Json.object members).references :=
    fun hget => ⟨Json.size_lt_of_member (Members.mem_of_get? hget),
      Json.references_subset_of_member (Members.mem_of_get? hget)⟩
  cases h with
  | sole hkind hfound =>
      have hget := SchemaKind.get?_of_union hkind
      have hmem := mem_of_soleAlternative? hfound
      exact ⟨size_merged_lt hget hmem, references_merged_subset hget hmem⟩
  | variant hkind _ hv =>
      obtain ⟨hsize, hreferences⟩ := hmember (SchemaKind.get?_of_union hkind)
      have hmem := List.fst_mem_of_mem_zipIdx hv
      exact ⟨Nat.lt_trans (Json.size_lt_of_item hmem) hsize,
        List.Subset.trans (Json.references_subset_of_item hmem) hreferences⟩
  | soleType hkind hfound =>
      have hget := (SchemaKind.get?_of_typeList hkind).1
      have hmem := mem_of_soleAlternative? hfound
      exact ⟨size_withType_lt hget hmem, references_withType_subset hget hmem⟩
  | type hkind _ hn =>
      have hget := (SchemaKind.get?_of_typeList hkind).1
      have hmem := List.fst_mem_of_mem_zipIdx hn
      exact ⟨size_withType_lt hget hmem, references_withType_subset hget hmem⟩
  | items _ hget => exact hmember hget
  | property _ hget he =>
      obtain ⟨hsize, hreferences⟩ := hmember hget
      exact ⟨Nat.lt_trans (Json.size_lt_of_member he) hsize,
        List.Subset.trans (Json.references_subset_of_member he) hreferences⟩
  | other _ hget => exact hmember hget

-- ============================================================ the measure

theorem length_pending_le (whole : Json) (visited : VisitedPath) :
    (pending whole visited).length ≤ whole.referenceCount :=
  List.length_filter_le _ _

/-- Entering a reference of the document leaves one less to enter. -/
theorem length_pending_enter_lt {visited : VisitedPath} {target : String}
    (hmem : target ∈ whole.references) (hnew : visited.contains target = false) :
    (pending whole (visited.enter target)).length < (pending whole visited).length := by
  have hfilter : pending whole (visited.enter target)
      = (pending whole visited).filter fun r => r ≠ target := by
    rw [pending, pending, List.filter_filter]
    refine List.filter_congr fun r _ => ?_
    rw [Bool.eq_iff_iff]
    simp [← Bool.not_eq_true]
  have hpending : target ∈ pending whole visited := by
    rw [pending, List.mem_filter, List.mem_dedup, hnew]
    exact ⟨hmem, rfl⟩
  rw [hfilter, List.length_filter_lt_length_iff_exists]
  exact ⟨target, hpending, by simp⟩

namespace Drawn

variable {members : Members} {site : Site}

theorem root (schema : Json) : Drawn schema (schema, .root) :=
  ⟨.refl schema, fun _ hm => absurd hm List.not_mem_nil⟩

/-- The definitions that come into force at a schema are drawn as it is. -/
theorem inForce (h : Drawn whole (.object members, site)) :
    Drawn whole (.object members, site.inForce members) := by
  refine ⟨h.schema, ?_⟩
  show ∀ m ∈ (site.pool.definitions.inForce members).members, Within whole m.2
  unfold Definitions.inForce
  split
  · exact h.schema.declaredBy
  · exact h.pool

theorem beneath (h : Drawn whole (.object members, site)) {place : Site} {child : Json}
    (hbeneath : Beneath members site child place) : Drawn whole (child, place) := by
  obtain ⟨hsize, hreferences⟩ := hbeneath.part
  refine ⟨h.schema.part hsize hreferences, ?_⟩
  rw [hbeneath.same.1]
  exact h.pool

theorem entered {schema : Json} (h : Drawn whole (schema, site)) {target : String}
    {definition : Json} (hresolve : site.pool.definitions.resolve? target = some definition) :
    Drawn whole (definition, site.entered target) :=
  ⟨h.pool _ (Members.mem_of_get? hresolve), h.pool⟩

theorem calls {caller callee : Json × Site} (h : Drawn whole caller) (hcall : Calls caller callee) :
    Drawn whole callee := by
  cases hcall with
  | beneath hbeneath => exact h.inForce.beneath hbeneath
  | definition _ _ hresolve => exact h.inForce.entered hresolve

end Drawn

/-- Every call makes the rank smaller. -/
theorem rank_lt_of_calls {caller callee : Json × Site} (h : Drawn whole caller)
    (hcall : Calls caller callee) : rank whole callee < rank whole caller := by
  cases hcall with
  | @beneath members site place child hbeneath =>
      -- no reference is entered
      have hpending : pending whole place.visited = pending whole site.visited :=
        List.filter_congr fun r _ => congrArg Bool.not (hbeneath.same.2 r)
      have hsize := hbeneath.part.1
      calc rank whole (child, place)
          = whole.size * (pending whole site.visited).length + child.size := by
            rw [rank, hpending]
        _ < rank whole (.object members, site) := Nat.add_lt_add_left hsize _
  | @definition members site target definition hkind hnew hresolve =>
      -- the definition may be larger than the schema, but one reference is entered
      have hget := (SchemaKind.of_eq_reference_iff.mp hkind).1
      have hlt := length_pending_enter_lt
        (h.schema.references (Json.mem_references_of_get? hget)) hnew
      have hsize := (h.inForce.entered hresolve).schema.size_le
      have hpos := Json.size_pos (.object members)
      calc rank whole (definition, (site.inForce members).entered target)
          ≤ whole.size * (pending whole (site.visited.enter target)).length + whole.size :=
            Nat.add_le_add_left hsize _
        _ = whole.size * ((pending whole (site.visited.enter target)).length + 1) := rfl
        _ ≤ whole.size * (pending whole site.visited).length := Nat.mul_le_mul_left _ hlt
        _ < rank whole (.object members, site) := Nat.lt_add_of_pos_right hpos

/-- Along a branch the rank pays for the depth. -/
theorem depth_add_rank_le {start last : Json × Site} {depth : Nat} (hdrawn : Drawn whole start)
    (h : Branch start depth last) :
    Drawn whole last ∧ depth + rank whole last ≤ rank whole start := by
  induction h with
  | root => exact ⟨hdrawn, Nat.le_of_eq (Nat.zero_add _)⟩
  | step _ hcall ih =>
      obtain ⟨hcaller, hle⟩ := ih
      have hlt := rank_lt_of_calls hcaller hcall
      exact ⟨hcaller.calls hcall, by omega⟩

/-- A branch of a document is shorter than its size times one more than its
references. -/
theorem depth_lt {schema : Json} {last : Json × Site} {depth : Nat}
    (h : Branch (schema, .root) depth last) :
    depth < (schema.referenceCount + 1) * schema.size := by
  have hle := (depth_add_rank_le (Drawn.root schema) h).2
  have hpos : 0 < rank schema last := Nat.add_pos_right _ (Json.size_pos last.1)
  have hpending := length_pending_le schema .empty
  calc depth
      < rank schema (schema, .root) := by omega
    _ ≤ schema.size * schema.referenceCount + schema.size :=
        Nat.add_le_add_right (Nat.mul_le_mul_left _ hpending) _
    _ = (schema.referenceCount + 1) * schema.size := by rw [Nat.mul_comm, Nat.succ_mul]

end Compiler

-- ======================================================= the depth allowed

/-- Cycles alone never use up the levels. No branch is deeper than the size of
the schema times one more than the references in it, so where that many levels
are allowed there are always enough. -/
theorem depth_bounded (schema : Json) :
    (∀ depth last, Compiler.Branch (schema, .root) depth last →
      depth ≤ (schema.referenceCount + 1) * schema.size) ∧
    ∀ options : CompileOptions, (schema.referenceCount + 1) * schema.size ≤ options.maxDepth →
      ∀ path limit, (compile schema options).result ≠ .error (.depthExceeded path limit) := by
  refine ⟨fun depth last h => Nat.le_of_lt (Compiler.depth_lt h), ?_⟩
  intro options hallowed path limit herror
  obtain ⟨depth, left, last, hlevels, hbranch, hfails⟩ := Compiler.arises_of_compile herror
  have hlt := Compiler.depth_lt hbranch
  cases hfails with
  | depth =>
      -- the branch has come to the level below the last
      rw [Compiler.levels] at hlevels
      omega

/-- Lists of even length, which are empty or have an odd rest, and of odd length,
which have an even one. -/
def evenSchema : Json :=
  .object [("$ref", .string "#/$defs/even"),
    ("$defs", .object
      [("even", .object [("anyOf", .array
        [.object [("const", .null)], .object [("$ref", .string "#/$defs/odd")]])]),
       ("odd", .object [("properties", .object
        [("rest", .object [("$ref", .string "#/$defs/even")])])])])]

/-- With just the levels that the bound asks for, the two definitions compile. -/
theorem depth_bounded_even : (evenSchema.referenceCount + 1) * evenSchema.size = 39 ∧
    ∀ path limit, (compile evenSchema { maxDepth := 39 }).result
      ≠ .error (.depthExceeded path limit) := by
  have hbound : (evenSchema.referenceCount + 1) * evenSchema.size = 39 := by decide
  exact ⟨hbound, (depth_bounded evenSchema).2 { maxDepth := 39 } (Nat.le_of_eq hbound)⟩

end Conformance
