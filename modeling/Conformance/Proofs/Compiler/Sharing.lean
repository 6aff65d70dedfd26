/-
What is remembered does not show: compiling with the followed references kept
comes to the same as compiling every reference afresh.

# The invariant

A remembered reference is faithful when its target is what `unfold` makes of
its definition, in the pool, with the history and with the levels it is
remembered for (`Followed.Faithful`). A progress is sound when all that it
remembers is faithful and lies in pools that have been numbered
(`Progress.Sound`). A hit compares pools by number alone, so soundness is not
enough for it: the pool at hand must be the only one of its number
(`Pool.Alone`).

# The step

`Agrees` relates a step of the compiler to its counterpart: from a sound
progress both come to the same, and what has been remembered since is faithful
and lies in the pool at hand or in pools numbered since. So a pool that was
alone stays alone, whatever was compiled in between. So the two compilations
are in lockstep (`agreement`), which takes care of every rule. What is left are
the two places where they meet the cache: a reference, where a hit is faithful and
a miss adds a faithful entry, and a schema that brings a pool of its own, whose
number is new.
-/
import Conformance.Proofs.Compiler.Lockstep
import Conformance.Proofs.Compiler.Unfolding

namespace Conformance

namespace Compiler

variable (options : CompileOptions)

-- ======================================================= the invariant

/-- The target is what the definition compiles to without remembering. -/
def Followed.Faithful (f : Followed) : Prop :=
  ∃ definition, f.pool.definitions.resolve? f.reference = some definition ∧
    unfold options f.levels definition
      { pool := ⟨f.pool.definitions, 0⟩, visited := f.visited, path := f.reference }
        = .ok f.target.anonymous

/-- All that is remembered is faithful, in pools that have been numbered. -/
structure Progress.Sound (p : Progress) : Prop where
  faithful : ∀ f ∈ p.followed, f.Faithful options
  numbered : ∀ f ∈ p.followed, f.pool.number < p.poolCount

/-- The pool has been numbered, and nothing is remembered in another pool of its
number. -/
structure Pool.Alone (pool : Pool) (p : Progress) : Prop where
  numbered : pool.number < p.poolCount
  alone : ∀ f ∈ p.followed, f.pool.number = pool.number → f.pool = pool

/-- What has been remembered since lies in the pool or in pools numbered
since. -/
structure Pool.Grows (pool : Pool) (p q : Progress) : Prop where
  counted : p.poolCount ≤ q.poolCount
  added : ∀ f ∈ q.followed, f ∈ p.followed ∨ f.pool = pool ∨ p.poolCount ≤ f.pool.number

variable {options} {pool : Pool}

theorem Progress.sound_init : Progress.Sound options {} :=
  ⟨fun _ h => absurd h List.not_mem_nil, fun _ h => absurd h List.not_mem_nil⟩

theorem Pool.alone_init (definitions : Definitions) : Pool.Alone ⟨definitions, 0⟩ {} :=
  ⟨Nat.zero_lt_one, fun _ h => absurd h List.not_mem_nil⟩

theorem Pool.Grows.refl (pool : Pool) (p : Progress) : pool.Grows p p :=
  ⟨Nat.le_refl _, fun _ h => Or.inl h⟩

theorem Pool.Grows.trans {p q r : Progress} (hpq : pool.Grows p q) (hqr : pool.Grows q r) :
    pool.Grows p r := by
  refine ⟨Nat.le_trans hpq.counted hqr.counted, ?_⟩
  intro f hf
  rcases hqr.added f hf with hf | hpool | hnew
  · exact hpq.added f hf
  · exact Or.inr (Or.inl hpool)
  · exact Or.inr (Or.inr (Nat.le_trans hpq.counted hnew))

/-- A pool stays alone while it grows. -/
theorem Pool.Alone.grows {p q : Progress} (h : pool.Alone p) (hpq : pool.Grows p q) :
    pool.Alone q := by
  refine ⟨Nat.lt_of_lt_of_le h.numbered hpq.counted, ?_⟩
  intro f hf hnumber
  rcases hpq.added f hf with hf | hpool | hnew
  · exact h.alone f hf hnumber
  · exact hpool
  · have := h.numbered
    omega

-- =========================================================== agreement

/-- Both fail with the same error, or both succeed with related results. -/
inductive Matches {α β : Type} (R : α → β → Prop) :
    Except CompileError α → Except CompileError β → Prop
  | ok {a : α} {b : β} (h : R a b) : Matches R (.ok a) (.ok b)
  | error (e : CompileError) : Matches R (.error e) (.error e)

theorem Matches.imp {α β : Type} {R S : α → β → Prop} {x : Except CompileError α}
    {y : Except CompileError β} (himp : ∀ a b, R a b → S a b) (h : Matches R x y) :
    Matches S x y := by
  cases h with
  | ok h => exact .ok (himp _ _ h)
  | error e => exact .error e

/-- What a step of the compiler comes to, and the progress after it. -/
def outcome {α : Type} (step : Compile α) (p : Progress) : Except CompileError α × Progress :=
  step.run.run p

/-- From a sound progress in which the pool is alone, a step comes to the same
as its counterpart, and leaves a sound progress in which only the pool and
pools of later numbers have grown. -/
def Agrees (options : CompileOptions) (pool : Pool) {α β : Type} (R : α → β → Prop)
    (step : Compile α) (plain : Except CompileError β) : Prop :=
  ∀ p : Progress, p.Sound options → pool.Alone p →
    Matches R (outcome step p).1 plain ∧ (outcome step p).2.Sound options ∧
      pool.Grows p (outcome step p).2

section

variable {α β γ δ : Type} {R : α → β → Prop} {S : γ → δ → Prop}

theorem agrees_pure {a : α} {b : β} (h : R a b) :
    Agrees options pool R (pure a) (pure b) :=
  fun p hsound _ => ⟨.ok h, hsound, .refl pool p⟩

theorem agrees_throw (e : CompileError) :
    Agrees options pool R (throw e) (throw e) :=
  fun p hsound _ => ⟨.error e, hsound, .refl pool p⟩

theorem outcome_bind (step : Compile α) (f : α → Compile γ) (p : Progress) :
    outcome (step >>= f) p =
      match outcome step p with
      | (.ok a, q) => outcome (f a) q
      | (.error e, q) => (.error e, q) := by
  have hcont : outcome (step >>= f) p
      = StateT.run (ExceptT.bindCont f (outcome step p).1) (outcome step p).2 := rfl
  rw [hcont]
  cases outcome step p with
  | mk result q => cases result <;> rfl

/-- Steps that agree may be sequenced. -/
theorem agrees_bind {step : Compile α} {plain : Except CompileError β}
    {f : α → Compile γ} {g : β → Except CompileError δ}
    (hstep : Agrees options pool R step plain)
    (hnext : ∀ a b, R a b → Agrees options pool S (f a) (g b)) :
    Agrees options pool S (step >>= f) (plain >>= g) := by
  intro p hsound halone
  obtain ⟨hmatch, hsound', hgrows⟩ := hstep p hsound halone
  rw [outcome_bind]
  cases hout : outcome step p with
  | mk result q =>
      rw [hout] at hmatch hsound' hgrows
      cases hmatch with
      | error e => exact ⟨.error e, hsound', hgrows⟩
      | ok h =>
          obtain ⟨hmatch, hsound'', hgrows'⟩ := hnext _ _ h q hsound' (halone.grows hgrows)
          exact ⟨hmatch, hsound'', hgrows.trans hgrows'⟩

end

/-- Warnings are not looked at again. -/
theorem agrees_note (warnings warnings' : List Warning) :
    Agrees options pool (fun _ _ => True) (note warnings) (note warnings') := by
  intro p hsound _
  exact ⟨.ok trivial, ⟨hsound.faithful, hsound.numbered⟩, Nat.le_refl _, fun _ hf => Or.inl hf⟩

/-- Compiling with the followed references kept, and every one afresh. -/
def agreement (options : CompileOptions) (pool : Pool) :
    Lockstep Compile (Except CompileError) where
  Steps := Agrees options pool
  pure := agrees_pure
  throw _ := agrees_throw
  note := agrees_note
  bind := agrees_bind

-- =============================================================== rules

/-- The second validator is the first without names. -/
def Unnamed (v w : Validator) : Prop := v.anonymous = w

/-- Names are forgotten node by node. -/
theorem congruence_unnamed (options : CompileOptions) :
    Congruence options options Unnamed Unnamed where
  unasked := rfl
  any := rfl
  null := rfl
  boolean := rfl
  string _ _ := rfl
  number _ := rfl
  literal _ := rfl
  enumeration values := by
    unfold Unnamed enumeration
    split
    · rfl
    · rfl
    · rw [Validator.anonymous_union, List.map_map]
      rfl
  array bounds h := by rw [Unnamed, Validator.anonymous_array, h]
  object hproperties hadditional := by
    rw [Unnamed, Validator.anonymous_object, Property.map_eq_of_forall₂ hproperties,
      Additional.map_eq_of_rel hadditional]
  union h := by rw [Unnamed, Validator.anonymous_union, map_eq_of_forall₂_eq h]
  optional h := by rw [Unnamed, Validator.anonymous_optional, h]

/-- The first pool is the given one, and the second is that without its number. -/
def Pool.Plain (pool p p' : Pool) : Prop := p = pool ∧ p' = ⟨pool.definitions, 0⟩

theorem Site.along_plain {site : Site} (h : site.pool = pool) :
    site.Along pool.Plain site.plain :=
  ⟨⟨h, h ▸ rfl⟩, rfl, rfl⟩

theorem Site.Along.eq_plain {site site' : Site} (h : site.Along pool.Plain site') :
    site.pool = pool ∧ site' = site.plain := by
  obtain ⟨⟨hpool, hplain⟩, hvisited, hpath⟩ := h
  refine ⟨hpool, ?_⟩
  rw [Site.plain, hpool, ← hplain, ← hvisited, ← hpath]

/-- A schema object agrees if what lies beneath it and its references do. -/
theorem agrees_schema {next : Json → Site → Compile Validator}
    {plain : Json → Site → Except CompileError Validator}
    {follow : String → Site → Compile Validator}
    {plainFollow : String → Site → Except CompileError Validator}
    (hnext : ∀ (schema : Json) (site : Site), site.pool = pool →
      Agrees options pool Unnamed (next schema site) (plain schema site.plain))
    (hfollow : ∀ (target : String) (site : Site), site.pool = pool →
      Agrees options pool Unnamed (follow target site) (plainFollow target site.plain))
    (members : Members) {site : Site} (hpool : site.pool = pool) :
    Agrees options pool Unnamed (schema options follow next members site)
      (schema options plainFollow plain members site.plain) := by
  refine (agreement options pool).steps_schema .same (congruence_unnamed options) ?_ ?_ members
    (Site.along_plain hpool)
  · intro schema site site' hsite
    obtain ⟨hpool, rfl⟩ := hsite.eq_plain
    exact hnext schema site hpool
  · intro target site site' hsite
    obtain ⟨hpool, rfl⟩ := hsite.eq_plain
    exact hfollow target site hpool

-- ========================================================== references

/-- A remembered reference is what compiling it afresh comes to. -/
theorem agrees_remembered {p : Progress} (hsound : p.Sound options) {site : Site}
    (halone : site.pool.Alone p) {target : String} {levels : Nat} {shared : Validator}
    (hfound : (outcome (remembered? target site levels) p).1 = .ok (some shared)) :
    ∃ definition w, site.pool.definitions.resolve? target = some definition ∧
      unfold options levels definition (site.plain.entered target) = .ok w ∧
      shared.anonymous = .shared 0 w := by
  have hfound : (p.followed.find? fun f =>
      f.pool.number == site.pool.number && f.levels == levels && f.reference == target &&
        f.visited == site.visited.enter target).map (fun f => Validator.shared f.number f.target)
      = some shared := by injection hfound
  obtain ⟨f, hf, rfl⟩ := Option.map_eq_some_iff.mp hfound
  have hkey := List.find?_some hf
  simp only [Bool.and_eq_true, beq_iff_eq] at hkey
  obtain ⟨⟨⟨hnumber, hlevels⟩, hreference⟩, hvisited⟩ := hkey
  have hmem : f ∈ p.followed := List.mem_of_find?_eq_some hf
  have hpool : f.pool = site.pool := halone.alone f hmem hnumber
  obtain ⟨definition, hresolve, hunfold⟩ := hsound.faithful f hmem
  rw [hpool, hreference] at hresolve
  rw [hpool, hlevels, hvisited, hreference] at hunfold
  exact ⟨definition, _, hresolve, hunfold, rfl⟩

/-- Remembering a faithful target keeps the progress sound. -/
theorem agrees_remember {site : Site} {target : String} {levels : Nat} {definition : Json}
    (hresolve : site.pool.definitions.resolve? target = some definition) {v : Validator}
    (hunfold : unfold options levels definition (site.plain.entered target) = .ok v.anonymous) :
    Agrees options site.pool Unnamed (remember target site levels v)
      (.ok (.shared 0 v.anonymous)) := by
  intro p hsound halone
  refine ⟨.ok rfl, ⟨?_, ?_⟩, Nat.le_refl _, ?_⟩
  · intro f hf
    rcases List.mem_cons.mp hf with rfl | hf
    · exact ⟨definition, hresolve, hunfold⟩
    · exact hsound.faithful f hf
  · intro f hf
    rcases List.mem_cons.mp hf with rfl | hf
    · exact halone.numbered
    · exact hsound.numbered f hf
  · intro f hf
    rcases List.mem_cons.mp hf with rfl | hf
    · exact Or.inr (Or.inl rfl)
    · exact Or.inl hf

/-- Agreement, with the counterpart's result at hand. -/
theorem agrees_result {α β : Type} {R : α → β → Prop} {step : Compile α}
    {plain : Except CompileError β} (h : Agrees options pool R step plain) :
    Agrees options pool (fun a b => R a b ∧ plain = .ok b) step plain := by
  intro p hsound halone
  obtain ⟨hmatch, hrest⟩ := h p hsound halone
  refine ⟨?_, hrest⟩
  generalize (outcome step p).1 = result at hmatch
  cases hmatch with
  | ok hR => exact .ok ⟨hR, rfl⟩
  | error e => exact .error e

/-- A reference agrees if the definitions do. -/
theorem agrees_reference {setting : Setting} {levels : Nat}
    {next : Json → Site → Compile Validator}
    (hnext : ∀ (schema : Json) (site : Site), Agrees setting.options site.pool Unnamed
      (next schema site) (unfold setting.options levels schema site.plain))
    (target : String) (site : Site) :
    Agrees setting.options site.pool Unnamed (reference setting levels next target site)
      (referenceAfresh setting.options (unfold setting.options levels) target site.plain) := by
  unfold reference referenceAfresh
  by_cases hcontains : site.visited.contains target = true
  · rw [if_pos hcontains, if_pos (show site.plain.visited.contains target = true from hcontains)]
    by_cases hnested : site.visited.isNested target = true
    · rw [dif_pos hnested, dif_pos (show site.plain.visited.isNested target = true from hnested)]
      intro p hsound _
      exact ⟨.ok rfl, ⟨hsound.faithful, hsound.numbered⟩, Nat.le_refl _, fun _ hf => Or.inl hf⟩
    · rw [dif_neg hnested, dif_neg (show ¬ site.plain.visited.isNested target = true from hnested)]
      show Agrees _ _ _ _ (note [] >>= fun _ => pure (Validator.union []))
      exact agrees_bind (agrees_note _ _) fun _ _ _ => agrees_pure rfl
  · rw [if_neg hcontains, if_neg (show ¬ site.plain.visited.contains target = true from hcontains)]
    intro p hsound halone
    rw [outcome_bind]
    have hsame : p = (outcome (remembered? target site levels) p).2 := rfl
    cases hremembered : outcome (remembered? target site levels) p with
    | mk found q =>
        rw [hremembered] at hsame
        subst hsame
        cases found with
        | error e => cases hremembered
        | ok found =>
            cases found with
            | some shared =>
                -- a hit: the remembered target is the one that is due
                obtain ⟨definition, w, hresolve, hunfold, hshared⟩ :=
                  agrees_remembered hsound halone (by rw [hremembered])
                refine ⟨?_, hsound, .refl _ _⟩
                have hplain : site.plain.pool.definitions.resolve? target = some definition :=
                  hresolve
                rw [hplain]
                simp only [hunfold, Except.map]
                exact .ok hshared
            | none =>
                -- a miss: the definition is compiled, and remembered
                cases hresolve : site.pool.definitions.resolve? target with
                | none =>
                    rw [show site.plain.pool.definitions.resolve? target = none from hresolve]
                    exact ⟨.error _, hsound, .refl _ _⟩
                | some definition =>
                    rw [show site.plain.pool.definitions.resolve? target = some definition
                      from hresolve]
                    have hdefinition := agrees_result (hnext definition (site.entered target))
                    refine agrees_bind hdefinition ?_ p hsound halone
                    intro v _ h
                    obtain ⟨rfl, hunfold⟩ := h
                    exact agrees_remember hresolve hunfold

-- ============================================================= schemas

/-- A pool that is established is alone, and to other pools it is new. -/
theorem agrees_establish {β γ : Type} {R : β → γ → Prop} {step : Site → Compile β}
    (plain : Site → Except CompileError γ)
    (h : ∀ site' : Site, Agrees options site'.pool R (step site') (plain site'.plain))
    (members : Members) (site : Site) :
    Agrees options site.pool R (establish members site >>= step)
      (plain (site.plain.inForce members)) := by
  intro p hsound halone
  cases hempty : site.pool.definitions.isEmpty with
  | true =>
      let declared : Site :=
        { site with pool := ⟨Definitions.declaredBy members, p.poolCount⟩ }
      let counted : Progress := { p with poolCount := p.poolCount + 1 }
      have hestablish : outcome (establish members site) p = (.ok declared, counted) := by
        unfold establish
        rw [if_pos hempty]
        rfl
      have hplain : site.plain.inForce members = declared.plain := by
        simp only [Site.inForce, Site.plain, Definitions.inForce, hempty, if_true, declared]
      have hsound' : counted.Sound options :=
        ⟨hsound.faithful, fun f hf => Nat.lt_succ_of_lt (hsound.numbered f hf)⟩
      have halone' : declared.pool.Alone counted := by
        refine ⟨Nat.lt_succ_self _, fun f hf hnumber => ?_⟩
        have hlt : f.pool.number < p.poolCount := hsound.numbered f hf
        have heq : f.pool.number = p.poolCount := hnumber
        omega
      obtain ⟨hmatch, hsound'', hgrows⟩ := h declared counted hsound' halone'
      rw [outcome_bind, hestablish, hplain]
      refine ⟨hmatch, hsound'', Nat.le_trans (Nat.le_succ _) hgrows.counted, ?_⟩
      intro f hf
      rcases hgrows.added f hf with hf | hpool | hnew
      · exact Or.inl hf
      · rw [hpool]
        exact Or.inr (Or.inr (Nat.le_refl _))
      · exact Or.inr (Or.inr (Nat.le_trans (Nat.le_succ _) hnew))
  | false =>
      have hestablish : establish members site = pure site := by
        unfold establish
        rw [hempty]
        rfl
      have hplain : site.plain.inForce members = site.plain := by
        unfold Site.inForce
        rw [show site.plain.pool.definitions.inForce members = site.plain.pool.definitions from
          Definitions.inForce_of_nonempty hempty members]
        rfl
      rw [hestablish, pure_bind, hplain]
      exact h site p hsound halone

/-- Compiling comes to the same as compiling every reference afresh. -/
theorem agrees_compile (setting : Setting) : ∀ (levels : Nat) (schema : Json) (site : Site),
    Agrees setting.options site.pool Unnamed (compile setting levels schema site)
      (unfold setting.options levels schema site.plain) := by
  intro levels
  induction levels with
  | zero =>
      intro schema site
      cases schema with
      | object members => exact agrees_throw _
      | _ => exact agrees_pure rfl
  | succ levels ih =>
      intro schema site
      cases schema with
      | object members =>
          refine agrees_establish (Compiler.schema setting.options
            (referenceAfresh setting.options (unfold setting.options levels))
            (unfold setting.options levels) members) ?_ members site
          intro site'
          refine agrees_schema (fun schema site hpool => hpool ▸ ih schema site) ?_ members rfl
          intro target site hpool
          exact hpool ▸ agrees_reference ih target site
      | _ => exact agrees_pure rfl

-- ==================================================== whole compilations

theorem Matches.map_anonymous {r : Except CompileError Validator}
    {e : Except CompileError Validator} (h : Matches Unnamed r e) :
    r.map Validator.anonymous = e := by
  cases h with
  | ok h => exact congrArg Except.ok h
  | error e => rfl

/-- Begun with nothing remembered, a compilation comes to what `unfold` does. -/
theorem result_start_compile (setting : Setting) (levels : Nat) (schema : Json)
    (definitions : Definitions) (visited : VisitedPath) (path : String) :
    (start (compile setting levels schema ⟨⟨definitions, 0⟩, visited, path⟩)).result.map
        Validator.anonymous
      = unfold setting.options levels schema ⟨⟨definitions, 0⟩, visited, path⟩ :=
  (agrees_compile setting levels schema ⟨⟨definitions, 0⟩, visited, path⟩ {}
    Progress.sound_init (Pool.alone_init definitions)).1.map_anonymous

end Compiler

open Compiler

/-- Up to names, a schema compiles to what it does with every reference compiled
afresh, shared nodes in the same places. -/
theorem result_compileNode (schema : Json) (pool : Definitions) (visited : VisitedPath)
    (options : CompileOptions) :
    (compileNode schema pool visited options).result.map Validator.anonymous
      = unfoldNode schema pool visited options :=
  result_start_compile { options } _ schema pool visited "#"

/-- Up to names, a deferred reference stands for what its definition comes to
with every reference compiled afresh. -/
theorem Deferred.result_compile {d : Deferred} {definition : Json}
    (h : d.pool.resolve? d.reference = some definition) :
    d.compile.result.map Validator.anonymous
      = unfold d.options (levels d.options) definition
          ⟨⟨d.pool, 0⟩, d.visited.enter d.reference, d.reference⟩ := by
  unfold Deferred.compile
  rw [h]
  exact result_start_compile _ _ definition d.pool _ d.reference

/-- What is remembered does not show. For every schema, pool, visited path and
options, a compilation fails with the same error as one that compiles every
reference afresh, or succeeds with the same validator once every shared node is
replaced by its target. And all that was remembered on the way is what would
have been due: each target is what its definition compiles to afresh in the
pool, with the history and at the depth that it is remembered for. -/
theorem sharing_unobservable (schema : Json) (pool : Definitions) (visited : VisitedPath)
    (options : CompileOptions) :
    (compileNode schema pool visited options).result.map Validator.unshared
        = (unfoldNode schema pool visited options).map Validator.unshared ∧
      ∀ f ∈ (outcome (Compiler.compile { options } (levels options) schema
          ⟨⟨pool, 0⟩, visited, "#"⟩) {}).2.followed, f.Faithful options := by
  constructor
  · rw [← result_compileNode]
    cases (compileNode schema pool visited options).result with
    | error e => rfl
    | ok v => exact congrArg Except.ok (Validator.unshared_anonymous v).symm
  · exact (agrees_compile { options } (levels options) schema ⟨⟨pool, 0⟩, visited, "#"⟩ {}
      Progress.sound_init (Pool.alone_init pool)).2.1.faithful

end Conformance
