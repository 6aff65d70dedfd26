/-
Where the compiler goes, and where it fails.

`Beneath` lists the schemas that a rule hands on, each with the site it is
compiled at, and `Calls` adds the definition of a reference that is followed. A
`Branch` is a chain of calls with its length, which is the depth.

The rules for schemas do not care what kind of computation they are carried out
in. So what holds of such computations and is kept by sequencing (`Kept`) holds
of a whole rule if it holds of what the rule hands on: `Kept.schema` is the one
walk through the rules that facts of this kind need. The first of them is that
errors have a place: a compilation that fails has come down a branch to a schema
that is itself the reason (`arises_of_unfold`).
-/
import Conformance.Proofs.Compiler.Sharing
import Conformance.Proofs.Compiler.Kinds

namespace Conformance

namespace Compiler

-- ================================================================ calls

section

variable {isNull : Json → Bool} {alternatives : List Json} {found : Json × Nat}

/-- Of the alternatives with their places, those that are not null are the sole
one. -/
theorem filter_of_soleAlternative? (h : soleAlternative? isNull alternatives = some found) :
    (alternatives.zipIdx.filter fun a => !isNull a.1) = [found] := by
  unfold soleAlternative? at h
  split at h
  · next sole hfilter =>
    split at h
    · cases h
      exact hfilter
    · cases h
  · cases h

/-- The sole alternative stands at its place, and is not null. -/
theorem place_of_soleAlternative? (h : soleAlternative? isNull alternatives = some found) :
    found ∈ alternatives.zipIdx ∧ isNull found.1 = false := by
  have hmem : found ∈ alternatives.zipIdx.filter fun a => !isNull a.1 := by
    rw [filter_of_soleAlternative? h]
    exact List.mem_singleton_self found
  rwa [List.mem_filter, Bool.not_eq_true'] at hmem

/-- The sole alternative is one of the list. -/
theorem mem_of_soleAlternative? (h : soleAlternative? isNull alternatives = some found) :
    found.1 ∈ alternatives :=
  List.fst_mem_of_mem_zipIdx (place_of_soleAlternative? h).1

/-- There is another one beside it. -/
theorem one_lt_of_soleAlternative? (h : soleAlternative? isNull alternatives = some found) :
    1 < alternatives.length := by
  unfold soleAlternative? at h
  split at h
  · split at h
    · next hlength => exact hlength
    · cases h
  · cases h

/-- There is a sole alternative just if one is not null and some other is. -/
theorem soleAlternative?_isSome_iff :
    (soleAlternative? isNull alternatives).isSome ↔
      alternatives.countP (fun a => !isNull a) = 1 ∧ 1 < alternatives.length := by
  -- the places do not matter for the count
  have hcount : alternatives.countP (fun a => !isNull a)
      = (alternatives.zipIdx.filter fun a => !isNull a.1).length := by
    rw [← List.countP_eq_length_filter]
    conv_lhs => rw [← List.zipIdx_map_fst 0 alternatives, List.countP_map]
    rfl
  rw [hcount, List.length_eq_one_iff]
  unfold soleAlternative?
  constructor
  · intro h
    split at h
    · next sole hfilter =>
      split at h
      · next hlength => exact ⟨⟨sole, hfilter⟩, hlength⟩
      · cases h
    · cases h
  · intro h
    obtain ⟨⟨sole, hfilter⟩, hlength⟩ := h
    rw [hfilter]
    simp only [if_pos hlength]
    rfl

/-- Beside the sole alternative there is one that is null. -/
theorem exists_isNull_of_soleAlternative? (h : soleAlternative? isNull alternatives = some found) :
    ∃ alternative ∈ alternatives, isNull alternative = true := by
  by_contra hnone
  have hall : (alternatives.zipIdx.filter fun a => !isNull a.1) = alternatives.zipIdx := by
    refine List.filter_eq_self.mpr fun a ha => ?_
    rw [Bool.not_eq_true', Bool.eq_false_iff]
    exact fun hnull => hnone ⟨a.1, List.fst_mem_of_mem_zipIdx ha, hnull⟩
  have hlength : alternatives.length = 1 := by
    rw [← List.length_zipIdx, ← hall, filter_of_soleAlternative? h, List.length_singleton]
  have hlt := one_lt_of_soleAlternative? h
  omega

/-- All alternatives but the sole one are null. -/
theorem eq_or_isNull_of_soleAlternative? (h : soleAlternative? isNull alternatives = some found)
    {alternative : Json} (hmem : alternative ∈ alternatives) :
    alternative = found.1 ∨ isNull alternative = true := by
  cases hnull : isNull alternative with
  | true => exact .inr rfl
  | false =>
      obtain ⟨i, hi, rfl⟩ := List.mem_iff_getElem.mp hmem
      have hplace : (alternatives[i], i) ∈ alternatives.zipIdx.filter fun a => !isNull a.1 := by
        rw [List.mem_filter, List.mk_mem_zipIdx_iff_getElem?, hnull]
        exact ⟨List.getElem?_eq_getElem hi, rfl⟩
      rw [filter_of_soleAlternative? h, List.mem_singleton] at hplace
      exact .inl (congrArg Prod.fst hplace)

end

/-- The schemas that a schema object hands on to be compiled in the same pool,
each at its site. -/
inductive Beneath (members : Members) (site : Site) : Json → Site → Prop
  | sole {variants : List Json} {found : Json × Nat}
      (hkind : (SchemaKind.of members).1 = .union variants)
      (hfound : soleAlternative? isNullSchema variants = some found) :
      Beneath members site (merged members found.1) (site.below ["anyOf", toString found.2])
  | variant {variants : List Json} {v : Json × Nat}
      (hkind : (SchemaKind.of members).1 = .union variants)
      (hnone : soleAlternative? isNullSchema variants = none) (hv : v ∈ variants.zipIdx) :
      Beneath members site v.1 (site.below ["anyOf", toString v.2])
  | soleType {names : List Json} {found : Json × Nat}
      (hkind : (SchemaKind.of members).1 = .typeList names)
      (hfound : soleAlternative? isNullName names = some found) :
      Beneath members site (withType members found.1) site
  | type {names : List Json} {n : Json × Nat}
      (hkind : (SchemaKind.of members).1 = .typeList names)
      (hnone : soleAlternative? isNullName names = none) (hn : n ∈ names.zipIdx) :
      Beneath members site (withType members n.1) (site.below ["type", toString n.2])
  | items {fields : Members} (hkind : (SchemaKind.of members).1 = .primitive .array)
      (hget : members.get? "items" = some (.object fields)) :
      Beneath members site (.object fields) (site.nested ["items"])
  | property {declared : Members} {e : String × Json}
      (hkind : (SchemaKind.of members).1.IsObject)
      (hget : members.get? "properties" = some (.object declared)) (he : e ∈ declared) :
      Beneath members site e.2 (site.nested ["properties", e.1])
  | other {schema : Json} (hkind : (SchemaKind.of members).1.IsObject)
      (hget : members.get? "additionalProperties" = some schema)
      (hschema : (∃ fields, schema = .object fields) ∨ schema = .null) :
      Beneath members site schema (site.nested ["additionalProperties"])

/-- The pool stays the same, and so do the references entered. -/
theorem Beneath.same {members : Members} {site place : Site} {child : Json}
    (h : Beneath members site child place) :
    place.pool = site.pool ∧ ∀ r, place.visited.contains r = site.visited.contains r := by
  have hbelow : ∀ segments, (site.below segments).pool = site.pool ∧
      ∀ r, (site.below segments).visited.contains r = site.visited.contains r :=
    fun _ => ⟨rfl, fun _ => rfl⟩
  have hnested : ∀ segments, (site.nested segments).pool = site.pool ∧
      ∀ r, (site.nested segments).visited.contains r = site.visited.contains r :=
    fun _ => ⟨rfl, fun _ => Bool.eq_iff_iff.mpr VisitedPath.contains_descend⟩
  cases h with
  | sole => exact hbelow _
  | variant => exact hbelow _
  | soleType => exact ⟨rfl, fun _ => rfl⟩
  | type => exact hbelow _
  | items => exact hnested _
  | property => exact hnested _
  | other => exact hnested _

/-- To compile the first schema at its site the compiler compiles the second at
its own: a schema beneath it, or the definition of a reference that the branch
has not entered. -/
inductive Calls : Json × Site → Json × Site → Prop
  | beneath {members : Members} {site place : Site} {child : Json}
      (h : Beneath members (site.inForce members) child place) :
      Calls (.object members, site) (child, place)
  | definition {members : Members} {site : Site} {target : String} {definition : Json}
      (hkind : (SchemaKind.of members).1 = .reference target)
      (hnew : site.visited.contains target = false)
      (hresolve : (site.pool.definitions.inForce members).resolve? target = some definition) :
      Calls (.object members, site) (definition, (site.inForce members).entered target)

/-- Where the compilation of a schema with its own definitions begins. -/
def Site.root : Site := ⟨⟨{}, 0⟩, .empty, "#"⟩

/-- A chain of calls from the start, with its length. -/
inductive Branch (start : Json × Site) : Nat → Json × Site → Prop
  | root : Branch start 0 start
  | step {depth : Nat} {caller callee : Json × Site} (h : Branch start depth caller)
      (hcall : Calls caller callee) : Branch start (depth + 1) callee

-- ======================================================= the rules, at large

/-- The property of computations holds of those that only return or note
something, and is kept by sequencing. -/
structure Kept {m : Type → Type} [Monad m] [Noting m] (Q : (α : Type) → m α → Prop) : Prop where
  pure : ∀ {α : Type} (a : α), Q α (pure a)
  note : ∀ warnings : List Warning, Q Unit (note warnings)
  bind : ∀ {α β : Type} {step : m α} {f : α → m β}, Q α step → (∀ a, Q β (f a)) →
    Q β (step >>= f)

namespace Kept

variable {m : Type → Type} [Monad m] [Noting m] {Q : (α : Type) → m α → Prop} (hQ : Kept Q)

section

include hQ

/-- What was read with warnings is known to what follows. -/
theorem noting [LawfulMonad m] {α β : Type} {read : α × List Warning} {f : α → m β}
    (h : Q β (f read.1)) :
    Q β (Compiler.noting read >>= f) := by
  have heq : Compiler.noting read >>= f = Compiler.note read.2 >>= fun _ => f read.1 := by
    rw [Compiler.noting, bind_assoc]
    simp only [pure_bind]
  rw [heq]
  exact hQ.bind (hQ.note read.2) fun _ => h

variable {next : Json → Site → m Validator}

/-- Schemas compiled in turn keep what each of them keeps. -/
theorem each {schemas : List (Json × Site)} (h : ∀ e ∈ schemas, Q _ (next e.1 e.2)) :
    Q _ (Compiler.each next schemas) := by
  induction schemas with
  | nil => exact hQ.pure []
  | cons e rest ih =>
      refine hQ.bind (h e (List.mem_cons_self ..)) fun v => ?_
      exact hQ.bind (ih fun e he => h e (List.mem_cons_of_mem _ he)) fun vs => hQ.pure (v :: vs)

/-- So do the properties of an object. -/
theorem properties (required : List String) {site : Site} {schemas : List (String × Json)}
    (h : ∀ e ∈ schemas, Q _ (next e.2 (site.nested ["properties", e.1]))) :
    Q _ (Compiler.properties next required site schemas) := by
  induction schemas with
  | nil => exact hQ.pure []
  | cons e rest ih =>
      refine hQ.bind (h e (List.mem_cons_self ..)) fun v => ?_
      exact hQ.bind (ih fun e he => h e (List.mem_cons_of_mem _ he)) fun _ => hQ.pure _

variable {members : Members} {site : Site}
variable (hnext : ∀ (child : Json) (place : Site), Beneath members site child place →
  Q _ (next child place))

include hnext

/-- An `anyOf` compiles the alternative beside null or all of them, and all of these lie
beneath the node. -/
theorem union {variants : List Json} (hkind : (SchemaKind.of members).1 = .union variants) :
    Q _ (Compiler.union next members variants site) := by
  unfold Compiler.union
  cases hfound : soleAlternative? isNullSchema variants with
  | some found => exact hQ.bind (hnext _ _ (.sole hkind hfound)) fun _ => hQ.pure _
  | none =>
      refine hQ.bind (hQ.each fun e he => ?_) fun _ => hQ.pure _
      obtain ⟨v, hv, rfl⟩ := List.mem_map.mp he
      exact hnext _ _ (.variant hkind hfound hv)

/-- A list of types compiles the node itself, with a type put in. -/
theorem typeList {names : List Json} (hkind : (SchemaKind.of members).1 = .typeList names) :
    Q _ (Compiler.typeList next members names site) := by
  unfold Compiler.typeList
  cases hfound : soleAlternative? isNullName names with
  | some found => exact hQ.bind (hnext _ _ (.soleType hkind hfound)) fun _ => hQ.pure _
  | none =>
      refine hQ.bind (hQ.each fun e he => ?_) fun _ => hQ.pure _
      obtain ⟨n, hn, rfl⟩ := List.mem_map.mp he
      exact hnext _ _ (.type hkind hfound hn)

variable [LawfulMonad m]

/-- An array compiles the schema of its items, if there is one. -/
theorem array (hkind : (SchemaKind.of members).1 = .primitive .array) :
    Q _ (Compiler.array next members site) := by
  have hitems : Q _ (items next members site) := by
    unfold items
    split
    · next fields hget => exact hnext _ _ (.items hkind hget)
    · exact hQ.bind (hQ.note _) fun _ => hQ.pure _
    · exact hQ.pure _
  exact hQ.bind hitems fun _ => hQ.noting (hQ.pure _)

/-- An object compiles its properties first, then the schema of other members. -/
theorem object (hkind : (SchemaKind.of members).1.IsObject) :
    Q _ (Compiler.object next members site) := by
  -- `properties`, where it is an object
  have hdeclared : ∀ required : List String, Q _ (declared next members required site) := by
    intro required
    unfold declared
    split
    · next schemas hget =>
      exact hQ.properties required fun e he => hnext _ _ (.property hkind hget he)
    · exact hQ.bind (hQ.note _) fun _ => hQ.pure _
    · exact hQ.pure _
  -- `additionalProperties`, where it is a schema
  have hadditional : Q _ (additional next members site) := by
    unfold additional
    split
    · exact hQ.pure _
    · next fields hget =>
      exact hQ.bind (hnext _ _ (.other hkind hget (.inl ⟨fields, rfl⟩))) fun _ => hQ.pure _
    · next hget => exact hQ.bind (hnext _ _ (.other hkind hget (.inr rfl))) fun _ => hQ.pure _
    · exact hQ.pure _
  refine hQ.noting (hQ.bind (hdeclared _) fun _ => ?_)
  exact hQ.bind hadditional fun _ => hQ.pure _

end

variable [LawfulMonad m] [MonadExceptOf CompileError m] {members : Members} {site : Site}
variable (hpattern : ∀ (source : String) (error : PatternError),
  (SchemaKind.of members).1 = .primitive .string →
  (Constraint.pattern members site.path).1 = some source → Pattern.ofText source = .error error →
  Q (Option Pattern) (throw (.invalidPattern (site.below ["pattern"]).path source error)))

include hQ hpattern

/-- The rules for strings have a step that can fail. -/
theorem string (options : CompileOptions)
    (hkind : (SchemaKind.of members).1 = .primitive .string) :
    Q _ (Compiler.string options members site) := by
  have hread : Q _ (pattern members site) := by
    refine hQ.noting ?_
    split
    · exact hQ.pure _
    · next source hsource =>
      split
      · exact hQ.pure _
      · next error herror => exact hpattern source error hkind hsource herror
  exact hQ.noting (hQ.bind hread fun _ => hQ.pure _)

variable {options : CompileOptions} {follow : String → Site → m Validator}
variable {next : Json → Site → m Validator}
variable (hnext : ∀ (child : Json) (place : Site), Beneath members site child place →
  Q _ (next child place))

include hnext

/-- A node of one type takes the rule of the type. -/
theorem typed {type : PrimitiveType} (hkind : (SchemaKind.of members).1 = .primitive type) :
    Q _ (Compiler.typed options next members type site) := by
  cases type with
  | string => exact hQ.string hpattern options hkind
  | number => exact hQ.noting (hQ.pure _)
  | integer => exact hQ.noting (hQ.pure _)
  | boolean => exact hQ.pure _
  | null => exact hQ.pure _
  | array => exact hQ.array hnext hkind
  | object => exact hQ.object hnext (.inl hkind)

/-- What holds of the schemas beneath a schema object, of its reference and of
the failure to read its pattern holds of its rule. -/
theorem schema
    (hfollow : ∀ target : String, (SchemaKind.of members).1 = .reference target →
      Q _ (follow target site)) :
    Q _ (Compiler.schema options follow next members site) := by
  refine hQ.noting ?_
  cases hkind : (SchemaKind.of members).1 with
  | reference target => exact hfollow target hkind
  | union variants => exact hQ.union hnext hkind
  | typeList names => exact hQ.typeList hnext hkind
  | enum values => exact hQ.pure _
  | const value => exact hQ.pure _
  | primitive type => exact hQ.typed hpattern hnext hkind
  | implicitObject => exact hQ.object hnext (.inr hkind)
  | unconstrained => exact hQ.pure _

end Kept

-- ============================================================== failures

/-- With some levels left the schema at its site is itself the reason for the
error: there is no level for it, its reference points at nothing, or its pattern
cannot be read. -/
inductive Fails (options : CompileOptions) : Nat → Json × Site → CompileError → Prop
  | depth {members : Members} {site : Site} :
      Fails options 0 (.object members, site) (.depthExceeded site.path options.maxDepth)
  | reference {levels : Nat} {members : Members} {site : Site} {target : String}
      (hkind : (SchemaKind.of members).1 = .reference target)
      (hresolve : (site.pool.definitions.inForce members).resolve? target = none) :
      Fails options levels (.object members, site)
        (.unresolvedReference target (Definitions.targetName target))
  | pattern {levels : Nat} {members : Members} {site : Site} {source : String}
      {error : PatternError} (hkind : (SchemaKind.of members).1 = .primitive .string)
      (hsource : (Constraint.pattern members site.path).1 = some source)
      (herror : Pattern.ofText source = .error error) :
      Fails options levels (.object members, site)
        (.invalidPattern (site.below ["pattern"]).path source error)

/-- The error has arisen at the end of a branch from the start. -/
def Arises (options : CompileOptions) (levels : Nat) (start : Json × Site) (e : CompileError) :
    Prop :=
  ∃ depth left last, depth + left = levels ∧ Branch start depth last ∧ Fails options left last e

section

variable {options : CompileOptions} {levels : Nat} {e : CompileError}

/-- A schema that fails by itself is at the end of a branch that has no step. -/
theorem Fails.arises {start : Json × Site} (h : Fails options levels start e) :
    Arises options levels start e :=
  ⟨0, levels, start, Nat.zero_add levels, .root, h⟩

/-- A branch may be extended at its start. -/
theorem Branch.prepend {caller callee last : Json × Site} {depth : Nat}
    (hcall : Calls caller callee) (h : Branch callee depth last) :
    Branch caller (depth + 1) last := by
  induction h with
  | root => exact .step .root hcall
  | step _ hlast ih => exact .step ih hlast

/-- What arises in a call arises in the caller. -/
theorem Arises.of_call {caller callee : Json × Site} (hcall : Calls caller callee)
    (h : Arises options levels callee e) : Arises options (levels + 1) caller e := by
  obtain ⟨depth, left, last, hlevels, hbranch, hfails⟩ := h
  exact ⟨depth + 1, left, last, by omega, hbranch.prepend hcall, hfails⟩

/-- That every error is one of some errors is kept by sequencing. -/
theorem kept_errors (P : CompileError → Prop) :
    Kept (m := Except CompileError) fun _ step => ∀ e, step = .error e → P e where
  pure _ _ h := nomatch h
  note _ _ h := nomatch h
  bind {_ _ step _} hstep hf e h := by
    cases step with
    | ok a => exact hf a e h
    | error _ =>
        cases h
        exact hstep e rfl

/-- A reference fails if it points at nothing, or as its definition does. -/
theorem referenceAfresh_eq_error {next : Json → Site → Except CompileError Validator}
    {target : String} {site : Site} (h : referenceAfresh options next target site = .error e) :
    site.visited.contains target = false ∧
      (site.pool.definitions.resolve? target = none ∧
        e = .unresolvedReference target (Definitions.targetName target) ∨
      ∃ definition, site.pool.definitions.resolve? target = some definition ∧
        next definition (site.entered target) = .error e) := by
  unfold referenceAfresh at h
  split at h
  · split at h <;> cases h
  · next hnew =>
    refine ⟨by simpa using hnew, ?_⟩
    split at h
    · next hresolve =>
      cases h
      exact .inl ⟨hresolve, rfl⟩
    · next definition hresolve =>
      refine .inr ⟨definition, hresolve, ?_⟩
      cases hnext : next definition (site.entered target) with
      | ok v => rw [hnext] at h; cases h
      | error inner =>
          rw [hnext] at h
          cases h
          rfl

/-- A compilation that fails has come down a branch to a schema that is itself
the reason. -/
theorem arises_of_unfold {schema : Json} {site : Site}
    (h : unfold options levels schema site = .error e) :
    Arises options levels (schema, site) e := by
  induction levels generalizing schema site e with
  | zero =>
      cases schema with
      | object members =>
          cases h
          exact Fails.depth.arises
      | _ => cases h
  | succ levels ih =>
      -- each rule fails by itself or on a schema beneath, where the hypothesis takes over
      cases schema with
      | object members =>
          refine (kept_errors (Arises options (levels + 1) (.object members, site))).schema
            ?_ ?_ ?_ e h
          · intro source error hkind hsource herror _ h
            cases h
            have hpath : (Constraint.pattern members site.path).1 = some source := hsource
            exact (Fails.pattern hkind hpath herror).arises
          · intro child place hbeneath _ h
            exact (ih h).of_call (.beneath hbeneath)
          · intro target hkind _ h
            obtain ⟨hnew, ⟨hnone, rfl⟩ | ⟨definition, hresolve, h⟩⟩ := referenceAfresh_eq_error h
            · exact (Fails.reference hkind hnone).arises
            · exact (ih h).of_call (.definition hkind hnew hresolve)
      | _ => cases h

/-- So what fails at the root arises somewhere below it. -/
theorem arises_of_compile {schema : Json}
    (h : (Conformance.compile schema options).result = .error e) :
    Arises options (Compiler.levels options) (schema, .root) e := by
  have hfresh := result_compileNode schema {} .empty options
  have herror : (compileNode schema {} .empty options).result = .error e := h
  rw [herror] at hfresh
  exact arises_of_unfold hfresh.symm

end

end Compiler

end Conformance
