/-
A schema told otherwise compiles alike.

`unfold` keeps nothing from one step to the next, so two runs of it are in lockstep
wherever a step of the one fails as the step of the other does (`matching`). What is
added to the rules are the two ends of a branch. A reference is decided by the
branch's history, which the two runs have in common, and by its definition, which
both pools have or neither has, told otherwise like every schema (`Retelling.Pools`).
And a branch runs out of levels at the same depth on both sides. So both fail with
the same error, if they fail (`matches_unfold`).

`Told` relates the validators where they do not. It leads from each pair to a step
of `Alike`: the parts of the two are what the schemas beneath come to, and behind two
deferred references are what the same definition comes to, told in two ways.
-/
import Conformance.Proofs.Compiler.Counterparts

namespace Conformance

namespace Compiler

/-- Two compilations without memory that fail with the same errors. -/
def matching : Lockstep (Except CompileError) (Except CompileError) where
  Steps := Matches
  pure := .ok
  throw _ := .error
  note _ _ := .ok trivial
  bind := by
    intro α β γ δ R S x y f g h hnext
    cases h with
    | error e => exact .error e
    | ok h => exact hnext _ _ h

section

variable {α β γ δ : Type} {R : α → β → Prop}

/-- The two results are those of the compilations, which is what is known of them besides. -/
theorem Matches.results {x : Except CompileError α} {y : Except CompileError β}
    (h : Matches R x y) : Matches (fun a b => x = .ok a ∧ y = .ok b) x y := by
  cases h with
  | ok _ => exact .ok ⟨rfl, rfl⟩
  | error e => exact .error e

/-- What matches after a function has been applied has matched before. -/
theorem Matches.of_map {f : γ → α} {g : δ → β} {x : Except CompileError γ}
    {y : Except CompileError δ} (h : Matches R (x.map f) (y.map g)) :
    Matches (fun c d => R (f c) (g d)) x y := by
  cases x with
  | error e =>
      cases y with
      | error e' =>
          cases h
          exact .error e
      | ok d => cases h
  | ok c =>
      cases y with
      | error e => cases h
      | ok d =>
          cases h with
          | ok h => exact .ok h

end

end Compiler

/-- Pools that go together resolve references to definitions that do, and stay
together when definitions come into force. -/
structure Retelling.Pools (r : Retelling) (P : Definitions → Definitions → Prop) : Prop where
  resolve? : ∀ {pool pool' : Definitions} (target : String), P pool pool' →
    pool'.resolve? target = (pool.resolve? target).map r.schema
  inForce : ∀ {pool pool' : Definitions} (members : Members), P pool pool' →
    P (pool.inForce members) (pool'.inForce (r.members members))

/-- Every pool goes with itself where nothing is told otherwise. -/
theorem Retelling.pools_same : Retelling.same.Pools (· = ·) where
  resolve? := by
    intro pool pool' target h
    subst h
    show _ = Option.map id _
    rw [Option.map_id, id]
  inForce := by
    intro pool pool' members h
    subst h
    rfl

/-- The second relation holds as well of what stands for references that go
together. -/
structure Compiler.Referring (options options' : CompileOptions)
    (P : Definitions → Definitions → Prop) (V W : Validator → Validator → Prop) : Prop
    extends Congruence options options' V W where
  shared : ∀ {v w : Validator}, V v w → W (.shared 0 v) (.shared 0 w)
  deferred : ∀ {pool pool' : Definitions} {target : String} {visited : VisitedPath}
    (nested : visited.isNested target = true), P pool pool' →
      W (.deferred { key := [], reference := target, pool, visited, options, nested })
        (.deferred { key := [], reference := target, pool := pool', visited,
                     options := options', nested })

namespace Compiler

/-- The pools' definitions go together. -/
def Pool.Linked (P : Definitions → Definitions → Prop) (pool pool' : Pool) : Prop :=
  P pool.definitions pool'.definitions

/-- What a node declares is told in the same way as the node. -/
theorem Site.Along.inForce {r : Retelling} {P : Definitions → Definitions → Prop}
    (hpools : r.Pools P) {site site' : Site}
    (hsite : site.Along (Pool.Linked P) site') (members : Members) :
    (site.inForce members).Along (Pool.Linked P)
      (site'.inForce (r.members members)) :=
  ⟨hpools.inForce members hsite.pool, hsite.visited, hsite.path⟩

variable {r : Retelling} {options options' : CompileOptions}
variable {P : Definitions → Definitions → Prop} {V W : Validator → Validator → Prop}
variable (hpools : r.Pools P)

include hpools

/-- What a reference comes to is decided by the branch's history and by its
definition. -/
theorem matches_referenceAfresh (hV : Referring options options' P V W)
    {next next' : Json → Site → Except CompileError Validator}
    (hnext : ∀ (schema : Json) {site site' : Site},
      site.Along (Pool.Linked P) site' →
      Matches V (next schema site) (next' (r.schema schema) site'))
    (target : String) {site site' : Site}
    (hsite : site.Along (Pool.Linked P) site') :
    Matches W (referenceAfresh options next target site)
      (referenceAfresh options' next' target site') := by
  -- the sites share path and history, so both sides take the same branch
  obtain ⟨⟨pool', number'⟩, visited', path'⟩ := site'
  obtain ⟨hpool, hvisited, hpath⟩ := id hsite
  cases hvisited
  cases hpath
  unfold referenceAfresh
  by_cases hentered : site.visited.contains target = true
  · rw [if_pos hentered, if_pos hentered]
    by_cases hnested : site.visited.isNested target = true
    · rw [dif_pos hnested, dif_pos hnested]
      exact .ok (hV.deferred hnested hpool)
    · rw [dif_neg hnested, dif_neg hnested]
      exact .ok (hV.union .nil)
  · rw [if_neg hentered, if_neg hentered, hpools.resolve? target hpool]
    cases site.pool.definitions.resolve? target with
    | none => exact .error _
    | some definition =>
        -- the definition on the other side is this one told otherwise
        have hdefinition := hnext definition (hsite.entered target)
        show Matches W ((next definition _).map _) ((next' (r.schema definition) _).map _)
        generalize next definition _ = result at hdefinition ⊢
        generalize next' (r.schema definition) _ = result' at hdefinition ⊢
        cases hdefinition with
        | ok hv => exact .ok (hV.shared hv)
        | error e => exact .error e

omit hpools in
/-- Any two validators. -/
theorem referring_any : Referring options options' P (fun _ _ => True) fun _ _ => True := by
  constructor
  · constructor <;> intros <;> trivial
  · intros
    trivial
  · intros
    trivial

/-- A schema and the same schema told otherwise compile with the same error. -/
theorem matches_unfold (hdepth : options.maxDepth = options'.maxDepth) :
    ∀ (levels : Nat) (schema : Json) {site site' : Site},
      site.Along (Pool.Linked P) site' →
      Matches (fun _ _ => True) (unfold options levels schema site)
        (unfold options' levels (r.schema schema) site') := by
  -- what is no object is not told otherwise and comes to the same
  have hother : ∀ (levels : Nat) {schema : Json} (site site' : Site),
      (∀ members, schema ≠ .object members) →
      Matches (fun _ _ => True) (unfold options levels schema site)
        (unfold options' levels (r.schema schema) site') := by
    intro levels schema site site' hschema
    rw [r.schema_other hschema]
    cases schema with
    | object members => exact absurd rfl (hschema members)
    | _ => cases levels <;> exact .ok trivial
  intro levels
  induction levels with
  | zero =>
      intro schema site site' hsite
      cases schema with
      | object members =>
          rw [r.schema_object]
          show Matches _ (.error _) (.error _)
          rw [hsite.path, hdepth]
          exact .error _
      | _ => exact hother 0 site site' fun _ => nofun
  | succ levels ih =>
      intro schema site site' hsite
      cases schema with
      | object members =>
          rw [r.schema_object]
          have hany : Referring options options' P (fun _ _ => True) fun _ _ => True :=
            referring_any
          exact matching.steps_schema r hany.toCongruence ih
            (matches_referenceAfresh hpools hany ih) members (hsite.inForce hpools members)
      | _ => exact hother (levels + 1) site site' fun _ => nofun

-- ==================================================== whole compilations

/-- A schema fails to compile with an error just if the same schema told otherwise
does. -/
theorem matches_compileNode (hdepth : options.maxDepth = options'.maxDepth) (schema : Json)
    {pool pool' : Definitions} (hpool : P pool pool') (visited : VisitedPath) :
    Matches (fun v w => (compileNode schema pool visited options).result = .ok v ∧
        (compileNode (r.schema schema) pool' visited options').result = .ok w)
      (compileNode schema pool visited options).result
      (compileNode (r.schema schema) pool' visited options').result := by
  have hlevels : levels options' = levels options := by rw [levels, levels, hdepth]
  have hsite : Site.Along (Pool.Linked P) ⟨⟨pool, 0⟩, visited, "#"⟩ ⟨⟨pool', 0⟩, visited, "#"⟩ :=
    ⟨hpool, rfl, rfl⟩
  have hmatch := matches_unfold hpools hdepth (levels options) schema hsite
  have hx := result_compileNode schema pool visited options
  have hy := result_compileNode (r.schema schema) pool' visited options'
  rw [unfoldNode] at hx hy
  rw [hlevels] at hy
  rw [← hx, ← hy] at hmatch
  exact hmatch.of_map.results

end Compiler

-- ================================================================ results

open Compiler

variable {r : Retelling} {options : CompileOptions} {P : Definitions → Definitions → Prop}

/-- Up to names, the validators are what a schema comes to and what the same schema
told otherwise comes to, in pools that go together. -/
def Told (r : Retelling) (options : CompileOptions) (P : Definitions → Definitions → Prop)
    (v w : Validator) : Prop :=
  ∃ levels schema site site', site.Along (Pool.Linked P) site' ∧
    unfold options levels schema site = .ok v.anonymous ∧
    unfold options levels (r.schema schema) site' = .ok w.anonymous

namespace Told

variable {v w : Validator}

variable (hpools : r.Pools P)

include hpools

/-- Both schemas come to validators that are `Told`, or to the same error. -/
theorem matches_of_unfold {levels : Nat} {schema : Json} {site site' : Site}
    (hsite : site.Along (Pool.Linked P) site')
    {x y : Except CompileError Validator}
    (hx : x.map Validator.anonymous = unfold options levels schema site)
    (hy : y.map Validator.anonymous = unfold options levels (r.schema schema) site') :
    Matches (Told r options P) x y := by
  have hmatch := matches_unfold hpools (rfl : options.maxDepth = _) levels schema hsite
  rw [← hx, ← hy] at hmatch
  refine hmatch.of_map.results.imp fun v w h => ?_
  obtain ⟨rfl, rfl⟩ := h
  exact ⟨levels, schema, site, site', hsite, hx.symm, hy.symm⟩

/-- Two deferred references of one name and history are alike, where their pools go
together. -/
theorem alike_deferred {d e : Deferred} (hpool : P d.pool e.pool)
    (hreference : d.reference = e.reference) (hvisited : d.visited = e.visited)
    (hd : d.options = options) (he : e.options = options) :
    (Validator.deferred d).Alike .same (Told r options P) (.deferred e) := by
  have hresolve := hpools.resolve? d.reference hpool
  -- both references compile to what is told alike, or fail with one error
  have hcompile : Matches (Told r options P) d.compile.result e.compile.result := by
    cases hdefinition : d.pool.resolve? d.reference with
    | none =>
        rw [hdefinition, hreference] at hresolve
        unfold Deferred.compile
        rw [hdefinition, hresolve, hreference]
        exact .error _
    | some definition =>
        have hx := Deferred.result_compile hdefinition
        rw [hdefinition, hreference] at hresolve
        have hy := Deferred.result_compile hresolve
        rw [hd] at hx
        rw [he, ← hvisited, ← hreference] at hy
        have hsite : Site.Along (Pool.Linked P)
            ⟨⟨d.pool, 0⟩, d.visited.enter d.reference, d.reference⟩
            ⟨⟨e.pool, 0⟩, d.visited.enter d.reference, d.reference⟩ := ⟨hpool, rfl, rfl⟩
        exact matches_of_unfold hpools hsite hx hy
  -- what they stand for is read off the results
  generalize hx : d.compile.result = x at hcompile
  generalize hy : e.compile.result = y at hcompile
  cases hcompile with
  | ok h => exact .deferred (Deferred.target_eq_ok.mpr hx) (Deferred.target_eq_ok.mpr hy) h
  | error error =>
      have htarget : ∀ {f : Deferred}, f.compile.result = .error error →
          f.target = .error error.message := fun h => by rw [Deferred.target, h]; rfl
      exact .unresolved hreference (htarget hx) (htarget hy)

omit hpools in
/-- Where nothing is asked for, nothing is told otherwise. -/
theorem any {site site' : Site} (hsite : site.Along (Pool.Linked P) site') :
    Told r options P .any .any := by
  have hnull : r.schema .null = .null := r.schema_other fun _ h => nomatch h
  refine ⟨0, .null, site, site', hsite, rfl, ?_⟩
  rw [hnull]
  rfl

omit hpools in
/-- Values are not told otherwise. -/
theorem literal {site site' : Site} (hsite : site.Along (Pool.Linked P) site') (x : Json) :
    Told r options P (.literal x) (.literal x) := by
  refine ⟨1, .object [("const", x)], site, site', hsite, rfl, ?_⟩
  have hkind : (SchemaKind.of (r.members [("const", x)])).1 = .const x := by
    rw [r.kind]
    rfl
  rw [r.schema_object]
  show Compiler.schema _ _ _ (r.members [("const", x)]) _ = _
  unfold Compiler.schema noting
  rw [hkind]
  rfl

/-- Of the validators without names, any two that they may have been are related. -/
def Named (R : Validator → Validator → Prop) (a b : Validator) : Prop :=
  ∀ v w : Validator, v.anonymous = a → w.anonymous = b → R v w

omit hpools in
/-- A leaf is the only one that it may have been. -/
theorem named_leaf {R : Validator → Validator → Prop} {a : Validator} (shape : Shape)
    (hleaf : shape.leaf? = some a) (h : R a a) : Named R a a := by
  intro v w hv hw
  rw [(Validator.anonymous_eq_leaf hleaf).mp hv, (Validator.anonymous_eq_leaf hleaf).mp hw]
  exact h

omit hpools in
/-- Where all names are forgotten on both sides, lists are related as they were before. -/
theorem forall₂_of_named {R : Validator → Validator → Prop} {vs ws : List Validator}
    (h : List.Forall₂ (Named R) (vs.map Validator.anonymous) (ws.map Validator.anonymous)) :
    List.Forall₂ R vs ws := by
  rw [List.forall₂_map_left_iff, List.forall₂_map_right_iff] at h
  exact h.imp fun v w h => h v w rfl rfl

omit hpools in
theorem properties_of_named {R : Validator → Validator → Prop} {ps qs : List (Property Validator)}
    (h : List.Forall₂ (Property.Rel (Named R)) (ps.map (Property.map Validator.anonymous))
      (qs.map (Property.map Validator.anonymous))) :
    List.Forall₂ (Property.Rel R) ps qs := by
  rw [List.forall₂_map_left_iff, List.forall₂_map_right_iff] at h
  exact h.imp fun p q h => ⟨h.1, h.2.1, h.2.2 _ _ rfl rfl⟩

omit hpools in
theorem additional_of_named {R : Validator → Validator → Prop} {a b : Additional Validator}
    (h : Additional.Rel (Named R) (a.map Validator.anonymous) (b.map Validator.anonymous)) :
    Additional.Rel R a b := by
  cases a with
  | ignore => cases b <;> cases h; exact .ignore
  | reject => cases b <;> cases h; exact .reject
  | schema v =>
      cases b with
      | schema w =>
          cases h with
          | schema h => exact .schema (h v w rfl rfl)
      | _ => cases h

/-- What is built in the same way from validators that are `Told` is alike. -/
theorem referring {site site' : Site} (hsite : site.Along (Pool.Linked P) site') :
    Referring options options P (Named (Told r options P))
      (Named fun v w => v.Alike .same (Told r options P) w) where
  unasked := named_leaf .anything rfl (any hsite)
  any := named_leaf .anything rfl .any
  null := named_leaf .null rfl .null
  boolean := named_leaf .boolean rfl .boolean
  string rules schema := named_leaf (.string _) rfl (.string _)
  number rules := named_leaf (.number rules) rfl (.number rules)
  literal value := named_leaf (.values [value]) rfl (.literal rfl)
  enumeration values := by
    refine named_leaf (.values values) rfl (alike_enumeration ?_ ?_)
    · exact List.forall₂_same.mpr fun _ _ => rfl
    · intro x y heq
      cases heq
      exact literal hsite x
  array bounds h := by
    intro v w hv hw
    obtain ⟨t, rfl, ht⟩ := Validator.anonymous_eq_array hv
    obtain ⟨u, rfl, hu⟩ := Validator.anonymous_eq_array hw
    exact .array (h t u ht hu) bounds
  object hproperties hadditional := by
    intro v w hv hw
    obtain ⟨ps, a, rfl, rfl, rfl⟩ := Validator.anonymous_eq_object hv
    obtain ⟨qs, b, rfl, rfl, rfl⟩ := Validator.anonymous_eq_object hw
    exact .object (properties_of_named hproperties) (additional_of_named hadditional)
  union h := by
    intro v w hv hw
    obtain ⟨vs, rfl, rfl⟩ := Validator.anonymous_eq_union hv
    obtain ⟨ws, rfl, rfl⟩ := Validator.anonymous_eq_union hw
    exact .union (forall₂_of_named h)
  optional h := by
    intro v w hv hw
    obtain ⟨t, rfl, ht⟩ := Validator.anonymous_eq_optional hv
    obtain ⟨u, rfl, hu⟩ := Validator.anonymous_eq_optional hw
    exact .optional (h t u ht hu)
  shared h := by
    intro v w hv hw
    obtain ⟨_, t, rfl, ht⟩ := Validator.anonymous_eq_shared hv
    obtain ⟨_, u, rfl, hu⟩ := Validator.anonymous_eq_shared hw
    exact .shared (h t u ht hu)
  deferred nested hpool := by
    intro v w hv hw
    obtain ⟨d, rfl, hd⟩ := Validator.anonymous_eq_deferred hv
    obtain ⟨e, rfl, he⟩ := Validator.anonymous_eq_deferred hw
    cases d
    cases e
    cases hd
    cases he
    exact alike_deferred hpools hpool rfl rfl rfl rfl

/-- Without memory as well, both come to validators that are `Told` but for names. -/
theorem named_unfold {levels : Nat} (schema : Json) {site site' : Site}
    (hsite : site.Along (Pool.Linked P) site') :
    Matches (Named (Told r options P)) (unfold options levels schema site)
      (unfold options levels (r.schema schema) site') := by
  refine (matches_unfold hpools rfl levels schema hsite).results.imp fun a b h v w hv hw => ?_
  subst hv hw
  exact ⟨levels, schema, site, site', hsite, h.1, h.2⟩

/-- Validators that are `Told` are alike, and their parts are `Told` again. -/
theorem alike (h : Told r options P v w) : v.Alike .same (Told r options P) w := by
  obtain ⟨levels, schema, site, site', hsite, hv, hw⟩ := h
  -- schemas that are no objects accept everything on both sides
  have hother : (∀ members, schema ≠ .object members) →
      v.Alike .same (Told r options P) w := by
    intro hschema
    rw [r.schema_other hschema] at hw
    have hany : ∀ {site : Site} {u : Validator},
        unfold options levels schema site = .ok u.anonymous → u = .any := by
      intro site u hu
      refine (Validator.anonymous_eq_leaf (show Shape.anything.leaf? = some .any from rfl)).mp ?_
      cases schema with
      | object members => exact absurd rfl (hschema members)
      | _ => cases levels <;> exact (Except.ok.inj hu).symm
    rw [hany hv, hany hw]
    exact .any
  cases schema with
  | object members =>
      cases levels with
      | zero => cases hv
      | succ levels =>
          have hforce := hsite.inForce hpools members
          -- one level of the compilation, over parts that are told alike
          have hreferring : Referring options options P _ _ := referring hpools hforce
          have hmatch : Matches (Named fun v w => v.Alike .same (Told r options P) w)
              (unfold options (levels + 1) (.object members) site)
              (unfold options (levels + 1) (.object (r.members members)) site') :=
            matching.steps_schema r hreferring.toCongruence (named_unfold hpools)
              (matches_referenceAfresh hpools hreferring (named_unfold hpools)) members hforce
          rw [r.schema_object] at hw
          rw [hv, hw] at hmatch
          cases hmatch with
          | ok h => exact h v w rfl rfl
  | _ => exact hother fun _ => nofun

end Told

end Conformance
