/-
How often the compiler follows references.

A followed reference is remembered by its key: the pool, the reference, the
references entered and the levels left. No key is ever compiled twice. A
reference is compiled only after it was not found, and what is compiled
meanwhile has fewer levels left, so it is not found afterwards either
(`Adds`, `adds_compile`).

This does not make the number of compilations a number of references. Where the
definitions of a document refer only to those one step below, a definition is
met in one way, however often it is met. Where they also skip steps, a
definition is met by as many keys as there are ways to it, and these can be more
than the document has values (`skipping`).
-/
import Conformance.Proofs.Compiler.Depth
import Mathlib.Data.List.Perm.Subperm

namespace Conformance

namespace Compiler

-- ================================================================= keys

/-- What a followed reference is remembered by. -/
def Followed.key (f : Followed) : Nat × String × VisitedPath × Nat :=
  (f.pool.number, f.reference, f.visited, f.levels)

/-- No two are remembered by the same key. -/
def Distinct (followed : List Followed) : Prop := (followed.map Followed.key).Nodup

/-- The step leaves keys distinct, and remembers nothing but what is such. -/
def Adds (P : Followed → Prop) {α : Type} (step : Compile α) : Prop :=
  ∀ p : Progress, Distinct p.followed →
    Distinct (outcome step p).2.followed ∧
      ∀ f ∈ (outcome step p).2.followed, f ∈ p.followed ∨ P f

section

variable {P : Followed → Prop} {α : Type}

/-- A step that remembers nothing. -/
theorem adds_of_same {step : Compile α}
    (h : ∀ p, (outcome step p).2.followed = p.followed) : Adds P step := by
  intro p hdistinct
  rw [h p]
  exact ⟨hdistinct, fun _ hf => .inl hf⟩

theorem kept_adds (P : Followed → Prop) : Kept (m := Compile) fun _ step => Adds P step where
  pure _ := adds_of_same fun _ => rfl
  note _ := adds_of_same fun _ => rfl
  bind {_ _ step f} hstep hf p hdistinct := by
    obtain ⟨hmiddle, hadded⟩ := hstep p hdistinct
    rw [outcome_bind]
    cases hout : outcome step p with
    | mk result q =>
        rw [hout] at hmiddle hadded
        cases result with
        | error e => exact ⟨hmiddle, hadded⟩
        | ok a =>
            obtain ⟨hlast, hadded'⟩ := hf a q hmiddle
            refine ⟨hlast, fun f hf => ?_⟩
            rcases hadded' f hf with hf | hP
            · exact hadded f hf
            · exact .inr hP

theorem Adds.mono {Q : Followed → Prop} {step : Compile α} (h : Adds P step)
    (hPQ : ∀ f, P f → Q f) : Adds Q step := by
  intro p hdistinct
  obtain ⟨hlast, hadded⟩ := h p hdistinct
  exact ⟨hlast, fun f hf => (hadded f hf).imp_right (hPQ f)⟩

end

-- ========================================================== compilations

section

variable {whole : Json}

/-- Followed with fewer than so many levels left, and a reference of the
document. -/
def Below (whole : Json) (levels : Nat) (f : Followed) : Prop :=
  f.levels < levels ∧ f.reference ∈ whole.references

theorem Below.succ {levels : Nat} {f : Followed} (h : Below whole levels f) :
    Below whole (levels + 1) f :=
  ⟨Nat.lt_succ_of_lt h.1, h.2⟩

/-- A reference that is not remembered is remembered by no key. -/
theorem not_mem_of_not_remembered {p q : Progress} {site : Site} {target : String} {levels : Nat}
    (h : outcome (remembered? target site levels) p = (.ok none, q)) :
    ∀ f ∈ p.followed,
      f.key ≠ (site.pool.number, target, site.visited.enter target, levels) := by
  have hfind : (p.followed.find? fun f =>
      f.pool.number == site.pool.number && f.levels == levels && f.reference == target &&
        f.visited == site.visited.enter target).map (fun f => Validator.shared f.number f.target)
      = none := by injection congrArg Prod.fst h
  intro f hf hkey
  have hmiss := List.find?_eq_none.mp (Option.map_eq_none_iff.mp hfind) f hf
  simp only [Followed.key, Prod.mk.injEq] at hkey
  obtain ⟨hnumber, hreference, hvisited, hlevels⟩ := hkey
  simp [hnumber, hreference, hvisited, hlevels] at hmiss

/-- What is compiled for a reference that is not remembered can be remembered:
what was added meanwhile has fewer levels left, so the key is still new. -/
theorem adds_remember {p : Progress} {site : Site} {target : String} {levels : Nat}
    {step : Compile Validator} (htarget : target ∈ whole.references)
    (hnew : ∀ f ∈ p.followed,
      f.key ≠ (site.pool.number, target, site.visited.enter target, levels))
    (hstep : Distinct (outcome step p).2.followed ∧
      ∀ f ∈ (outcome step p).2.followed, f ∈ p.followed ∨ Below whole levels f) :
    Distinct (outcome (step >>= remember target site levels) p).2.followed ∧
      ∀ f ∈ (outcome (step >>= remember target site levels) p).2.followed,
        f ∈ p.followed ∨ Below whole (levels + 1) f := by
  obtain ⟨hdistinct, hadded⟩ := hstep
  rw [outcome_bind]
  cases hout : outcome step p with
  | mk result q =>
      rw [hout] at hdistinct hadded
      cases result with
      | error e => exact ⟨hdistinct, fun f hf => (hadded f hf).imp_right Below.succ⟩
      | ok v =>
          refine ⟨List.nodup_cons.mpr ⟨?_, hdistinct⟩, ?_⟩
          · intro hmem
            obtain ⟨f, hf, hkey⟩ := List.mem_map.mp hmem
            rcases hadded f hf with hf | hf
            · exact hnew f hf hkey
            · have hlevels : f.levels = levels := congrArg (·.2.2.2) hkey
              have hlt := hf.1
              omega
          · intro f hf
            rcases List.mem_cons.mp hf with rfl | hf
            · exact .inr ⟨Nat.lt_succ_self _, htarget⟩
            · exact (hadded f hf).imp_right Below.succ

theorem adds_reference {setting : Setting} {levels : Nat} {next : Json → Site → Compile Validator}
    {target : String} {site : Site} (htarget : target ∈ whole.references)
    (hnext : ∀ definition, site.pool.definitions.resolve? target = some definition →
      Adds (Below whole levels) (next definition (site.entered target))) :
    Adds (Below whole (levels + 1)) (reference setting levels next target site) := by
  unfold reference
  split
  · split
    · exact adds_of_same fun _ => rfl
    · exact adds_of_same fun _ => rfl
  · intro p hdistinct
    rw [outcome_bind]
    have hsame : p = (outcome (remembered? target site levels) p).2 := rfl
    cases hremembered : outcome (remembered? target site levels) p with
    | mk found q =>
        rw [hremembered] at hsame
        subst hsame
        cases found with
        | error e => cases hremembered
        | ok found =>
            cases found with
            | some shared => exact ⟨hdistinct, fun _ hf => .inl hf⟩
            | none =>
                cases hresolve : site.pool.definitions.resolve? target with
                | none => exact ⟨hdistinct, fun _ hf => .inl hf⟩
                | some definition =>
                    have hnew := not_mem_of_not_remembered hremembered
                    have hcompiled := hnext definition hresolve p hdistinct
                    exact adds_remember htarget hnew hcompiled

/-- To establish a pool is to give it a number. Nothing is remembered by it. -/
theorem outcome_establish (members : Members) (site : Site) (p : Progress) :
    ∃ site' q, outcome (establish members site) p = (.ok site', q) ∧
      site'.plain = site.inForce members ∧ q.followed = p.followed := by
  unfold establish Site.inForce Definitions.inForce
  cases site.pool.definitions.isEmpty with
  | true => exact ⟨_, _, rfl, rfl, rfl⟩
  | false => exact ⟨_, _, rfl, rfl, rfl⟩

theorem adds_establish {P : Followed → Prop} {α : Type} {members : Members} {site : Site}
    {step : Site → Compile α}
    (h : ∀ site', site'.plain = site.inForce members → Adds P (step site')) :
    Adds P (establish members site >>= step) := by
  intro p hdistinct
  obtain ⟨site', q, hestablish, hsite, hsame⟩ := outcome_establish members site p
  rw [outcome_bind, hestablish, ← hsame]
  rw [← hsame] at hdistinct
  exact h site' hsite q hdistinct

/-- No key is compiled twice, and what is compiled is a reference of the
document. -/
theorem adds_compile (setting : Setting) {levels : Nat} : ∀ {schema : Json} {site : Site},
    Drawn whole (schema, site) →
      Adds (Below whole levels) (compile setting levels schema site) := by
  induction levels with
  | zero =>
      intro schema site _
      cases schema with
      | object members => exact adds_of_same fun _ => rfl
      | _ => exact adds_of_same fun _ => rfl
  | succ levels ih =>
      intro schema site hdrawn
      cases schema with
      | object members =>
          refine adds_establish fun site' hsite => ?_
          have hdefinitions : site'.pool.definitions = site.pool.definitions.inForce members :=
            congrArg (fun s : Site => s.pool.definitions) hsite
          have hhere : Drawn whole (.object members, site') :=
            ⟨hdrawn.schema, by rw [hdefinitions]; exact hdrawn.inForce.pool⟩
          refine (kept_adds _).schema ?_ ?_ ?_
          · exact fun _ _ _ _ _ => adds_of_same fun _ => rfl
          · intro child place hbeneath
            exact (ih (hhere.beneath hbeneath)).mono fun _ => Below.succ
          · intro target hkind
            have hget := (SchemaKind.of_eq_reference_iff.mp hkind).1
            have htarget := hdrawn.schema.references (Json.mem_references_of_get? hget)
            exact adds_reference htarget fun _ hresolve => ih (hhere.entered hresolve)
      | _ => exact adds_of_same fun _ => rfl

end

/-- The references that are followed in the run of the compiler on a document,
each once for every way in which it is met. -/
def compilations (whole : Json) (options : CompileOptions) : List Followed :=
  (outcome (compile { options } (levels options) whole .root) {}).2.followed

theorem length_le_of_determined {whole : Json} {followed : List Followed}
    (hdistinct : Distinct followed) (hreferences : ∀ f ∈ followed, f.reference ∈ whole.references)
    (hdetermined : ∀ f ∈ followed, ∀ g ∈ followed, f.reference = g.reference → f.key = g.key) :
    followed.length ≤ whole.referenceCount := by
  have hnodup : (followed.map Followed.reference).Nodup := by
    refine List.pairwise_map.mpr ?_
    refine (List.pairwise_map.mp hdistinct).imp_of_mem ?_
    intro f g hf hg hkey hreference
    exact hkey (hdetermined f hf g hg hreference)
  have hsubset : followed.map Followed.reference ⊆ whole.references.dedup := by
    intro r hr
    obtain ⟨f, hf, rfl⟩ := List.mem_map.mp hr
    exact List.mem_dedup.mpr (hreferences f hf)
  calc followed.length
      = (followed.map Followed.reference).length := (List.length_map _).symm
    _ ≤ whole.referenceCount := (List.subperm_of_subset hnodup hsubset).length_le

end Compiler

open Compiler

/-- Every reference is compiled once for each pool, history and depth it is met
with. So where these follow from the reference, there are no more compilations
than values in the document. -/
theorem compilations_bounded (whole : Json) (options : CompileOptions) :
    Distinct (compilations whole options) ∧
    ((∀ f ∈ compilations whole options, ∀ g ∈ compilations whole options,
        f.reference = g.reference → f.key = g.key) →
      (compilations whole options).length ≤ whole.size) := by
  have hadds : Adds (Below whole (levels options))
      (Compiler.compile { options } (levels options) whole .root) :=
    adds_compile { options } (Drawn.root whole)
  obtain ⟨hdistinct, hadded⟩ := hadds {} List.nodup_nil
  refine ⟨hdistinct, fun hdetermined => ?_⟩
  have hreferences : ∀ f ∈ compilations whole options, f.reference ∈ whole.references := by
    intro f hf
    rcases hadded f hf with hf | hf
    · cases hf
    · exact hf.2
  exact Nat.le_trans (length_le_of_determined hdistinct hreferences hdetermined)
    whole.referenceCount_le_size

/-- A definition that refers to some others, in a document of such. -/
def alternativesOf (names : List String) : Json :=
  .object [("anyOf", .array (names.map fun name =>
    .object [("$ref", .string ("#/$defs/" ++ name))]))]

/-- Steps that each refer twice to the one below. -/
def stairs : Json :=
  .object [("$ref", .string "#/$defs/c"), ("$defs", .object
    [("a", .bool true), ("b", alternativesOf ["a", "a"]), ("c", alternativesOf ["b", "b"])])]

theorem compilations_bounded_stairs :
    (compilations stairs {}).length = 3 ∧ (compilations stairs {}).length ≤ stairs.size := by
  have hdetermined : ∀ f ∈ compilations stairs {}, ∀ g ∈ compilations stairs {},
      f.reference = g.reference → f.key = g.key := by decide +kernel
  exact ⟨by decide +kernel, (compilations_bounded stairs {}).2 hdetermined⟩

/-- Steps that each refer to all below. -/
def skipping : Json :=
  .object [("$ref", .string "#/$defs/h"), ("$defs", .object
    [("a", .bool true), ("b", alternativesOf ["a"]), ("c", alternativesOf ["a", "b"]),
     ("d", alternativesOf ["a", "b", "c"]), ("e", alternativesOf ["a", "b", "c", "d"]),
     ("f", alternativesOf ["a", "b", "c", "d", "e"]),
     ("g", alternativesOf ["a", "b", "c", "d", "e", "f"]),
     ("h", alternativesOf ["a", "b", "c", "d", "e", "f", "g"])])]

/-- The eight steps compile, with a compilation for each of the 128 ways down, and
the document has only 74 values. -/
theorem skipping_compilations : (Conformance.compile skipping).result.isOk = true ∧
    (compilations skipping {}).length = 128 ∧ skipping.size = 74 := by
  exact ⟨by decide +kernel, by decide +kernel, by decide +kernel⟩

end Conformance
