/-
Validation never meets a reference that it cannot resolve.

Whatever a validator asks on the way, it asks of its own nodes and of what its
deferred references stand for. So if every reference that can be reached from
it stands for something, parsing reports none as unresolved. That premise holds
of everything the compiler makes: `resolution_succeeds`.
-/
import Conformance.Proofs.Compiler.Resolution
import Conformance.Proofs.Validation.Origins
import Conformance.Proofs.Validation.Rules

namespace Conformance

-- ============================================================= reaching

namespace Validator

/-- The deferred reference is a node of the validator, or of what a reference
stands for that the validator reaches. -/
inductive Reaches (v : Validator) : Deferred → Prop
  | held {d : Deferred} (h : v.Holds d) : Reaches v d
  | behind {e d : Deferred} {t : Validator} (he : Reaches v e) (ht : e.target = .ok t)
      (h : t.Holds d) : Reaches v d

variable {v w : Validator} {d : Deferred}

/-- What a part reaches is reached. -/
theorem Reaches.of_part (hpart : v.Part w) (h : w.Reaches d) : v.Reaches d := by
  induction h with
  | held h => exact .held (.beneath hpart h)
  | behind _ ht h ih => exact .behind ih ht h

/-- What the target of a deferred reference reaches is reached by the reference. -/
theorem Reaches.of_target {e : Deferred} (ht : e.target = .ok w) (h : w.Reaches d) :
    (deferred e).Reaches d := by
  induction h with
  | held h => exact .behind (.held (.here e)) ht h
  | behind _ ht h ih => exact .behind ih ht h

/-- Who is asked reaches nothing that the asking validator does not reach. -/
theorem Asks.reaches {data inside : Data} (hask : Asks (v, data) (w, inside))
    (h : w.Reaches d) : v.Reaches d := by
  rcases hask.part_or_target with hpart | ⟨e, rfl, ht⟩
  · exact h.of_part hpart
  · exact h.of_target ht

/-- Every reference that the validator reaches stands for something. -/
def Resolves (v : Validator) : Prop := ∀ d, v.Reaches d → ∃ t, d.target = .ok t

/-- What is asked in turn reaches no more, so its references resolve if all do. -/
theorem Resolves.of_asks {data inside : Data} (h : v.Resolves)
    (hask : Asks (v, data) (w, inside)) : w.Resolves :=
  fun d hd => h d (hask.reaches hd)

end Validator

/-- What is reached from a compiled validator was deferred where it can be
compiled later. -/
theorem Stands.settled_of_reaches {options : CompileOptions} {pool : Definitions}
    {visited : VisitedPath} {schema : Json} {v : Validator} {d : Deferred}
    (h : Stands options pool visited schema v) (hreach : v.Reaches d) : d.Settled options := by
  induction hreach with
  | held hholds => exact settled_of_holds hholds h
  | behind _ ht hholds ih =>
      obtain ⟨_, _, ht⟩ := ih.stands_target ht
      exact settled_of_holds hholds ht

/-- What is compiled resolves, wherever it stands. -/
theorem Stands.resolves {options : CompileOptions} {pool : Definitions} {visited : VisitedPath}
    {schema : Json} {v : Validator} (h : Stands options pool visited schema v) : v.Resolves :=
  fun _ hreach => (h.settled_of_reaches hreach).exists_target

-- =============================================================== issues

/-- The issue says that a reference could not be compiled. -/
def Issue.IsUnresolved (issue : Issue) : Prop :=
  ∃ reference, issue.kind = .unresolvedReference reference

/-- It is the kind that tells whether an issue is about a reference. -/
theorem Issue.not_isUnresolved_of_kind {issue : Issue} {kind : IssueKind}
    (h : issue.kind = kind) (hkind : ∀ r, kind ≠ .unresolvedReference r) :
    ¬ issue.IsUnresolved := by
  intro h
  obtain ⟨r, hr⟩ := h
  exact hkind r (h.symm.trans hr)

/-- Rules that name no reference report none. -/
theorem not_isUnresolved_of_kinds {issues : List Issue} {breaks : IssueKind → Prop}
    (h : ∀ kind, (∃ issue ∈ issues, issue.kind = kind) ↔ breaks kind)
    (hbreaks : ∀ r, ¬ breaks (.unresolvedReference r)) :
    ∀ issue ∈ issues, ¬ issue.IsUnresolved := by
  intro issue hissue h
  obtain ⟨r, hr⟩ := h
  exact hbreaks r ((h _).mp ⟨issue, hissue, hr⟩)

namespace Validator

/-- Where all references resolve, no issue that is raised says that one does not. Such an
issue is said only by a reference that stands for nothing, and what is asked on the way
resolves as well. -/
theorem Raises.not_isUnresolved {v : Validator} {value : Json} {location : Location} {issue : Issue}
    (h : v.Raises value location issue) : v.Resolves → ¬ issue.IsUnresolved := by
  induction h with
  | own h =>
      intro hresolves
      cases h with
      | wrongType | literal | stringEnum | missing | unknown =>
          exact Issue.not_isUnresolved_of_kind rfl nofun
      | string h => exact not_isUnresolved_of_kinds StringRules.kinds_check nofun _ h
      | number h => exact not_isUnresolved_of_kinds NumberRules.kinds_check nofun _ h
      | length h => exact not_isUnresolved_of_kinds ItemBounds.kinds_check nofun _ h
      | @unresolved d _ _ _ ht =>
          -- the reference is reached, so it stands for something
          obtain ⟨t, ht'⟩ := hresolves d (.held (.here d))
          rw [ht] at ht'
          cases ht'
  | passed h _ ih => exact fun hresolves => ih (hresolves.of_asks h.asks)
  | inside h _ ih => exact fun hresolves => ih (hresolves.of_asks h.asks)
  | noVariant => exact fun _ => Issue.not_isUnresolved_of_kind rfl nofun

/-- So no failure of such a validator has an issue of this kind. -/
theorem not_isUnresolved_of_parse {v : Validator} (h : v.Resolves) {value : Json}
    {failure : Failure} (hfailure : v.parse value = .error failure) :
    ∀ issue ∈ failure.issues, ¬ issue.IsUnresolved := by
  intro issue hissue
  exact (raises_of_parse hfailure issue hissue).not_isUnresolved h

/-- Nor has one about absence, which says that something is missing and nothing else. -/
theorem not_isUnresolved_of_parseOptional {v : Validator} (h : v.Resolves) {data : Data}
    {failure : Failure} (hfailure : v.parseOptional data = .error failure) :
    ∀ issue ∈ failure.issues, ¬ issue.IsUnresolved := by
  cases data with
  | none =>
      rw [parseOptional_none] at hfailure
      split at hfailure
      · cases hfailure
      · cases hfailure
        intro issue hissue
        rw [List.mem_singleton.mp hissue]
        exact Issue.not_isUnresolved_of_kind rfl nofun
  | some value =>
      rw [parseOptional_some] at hfailure
      cases hparsed : v.parse value with
      | ok y => rw [hparsed] at hfailure; cases hfailure
      | error other =>
          rw [hparsed] at hfailure
          cases hfailure
          exact not_isUnresolved_of_parse h hparsed

/-- A schema that compiled never fails to resolve later. Every reference that
can be reached from its validator, also through what other references stand
for, stands for something, and answers as that does. No value, and no absence
of one, is rejected because a reference could not be compiled. -/
theorem resolution_succeeds {schema : Json} {options : CompileOptions} {v : Validator}
    (h : (compile schema options).result = .ok v) :
    (∀ d, v.Reaches d → ∃ t, d.target = .ok t ∧
      (deferred d).acceptsAbsent = t.acceptsAbsent ∧
      ∀ value location, (deferred d).parseAt value location = t.parseAt value location) ∧
    (∀ value failure, v.parse value = .error failure →
      ∀ issue ∈ failure.issues, ¬ issue.IsUnresolved) ∧
    ∀ data failure, v.parseOptional data = .error failure →
      ∀ issue ∈ failure.issues, ¬ issue.IsUnresolved := by
  have hresolves : v.Resolves := (Stands.of_compile h).resolves
  refine ⟨fun d hreach => ?_, fun _ _ => not_isUnresolved_of_parse hresolves,
    fun _ _ => not_isUnresolved_of_parseOptional hresolves⟩
  obtain ⟨t, ht⟩ := hresolves d hreach
  exact ⟨t, ht, acceptsAbsent_deferred ht, fun value location => parseAt_deferred value location ht⟩

/-- A list of nodes, each of which refers to the next. -/
def nodeSchema : Json :=
  .object
    [("$ref", .string "#/$defs/Node"),
     ("$defs", .object [("Node", .object
        [("type", .string "object"),
         ("properties", .object
           [("next", .object [("$ref", .string "#/$defs/Node")])])])])]

theorem resolution_succeeds_node : ∃ v, (compile nodeSchema).result = .ok v ∧
    (∃ d, v.Reaches d) ∧ ∀ d, v.Reaches d → ∃ t, d.target = .ok t := by
  have hcompile : (compile nodeSchema).result = .ok _ := rfl
  refine ⟨_, hcompile, ⟨?next, .held ?holds⟩, fun d hreach => ?_⟩
  case holds =>
    refine .beneath .target (.beneath (.property (List.mem_cons_self ..)) ?_)
    exact .here _
  obtain ⟨t, ht, -⟩ := (resolution_succeeds hcompile).1 d hreach
  exact ⟨t, ht⟩

end Validator

end Conformance
