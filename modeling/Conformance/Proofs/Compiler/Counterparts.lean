/-
Two compilations side by side.

`Alike` relates two validators that are built in the same way from validators
that are related: one step of a comparison, with one case for each kind of node.
Behind a deferred reference the comparison goes on between what the two
references stand for, if they stand for anything. A relation that leads from
each pair to such a step can be followed as far as any question goes, so it is
all that is needed to compare answers.

`Counterparts` is such a relation. It holds of what two alike schemas come to,
in pools that are alike and after the same history, and it does not ask for the
same limit on depth (`Counterparts.alike`).
-/
import Conformance.Proofs.Compiler.Resolution

namespace Conformance

namespace Validator

/-- The validators are built in the same way from related ones. -/
inductive Alike (l : Likeness) (R : Validator → Validator → Prop) : Validator → Validator → Prop
  | any : Alike l R any any
  | null : Alike l R null null
  | boolean : Alike l R boolean boolean
  | string (rules : StringRules) : Alike l R (string rules) (string rules)
  | number (rules : NumberRules) : Alike l R (number rules) (number rules)
  | literal {x y : Json} (h : l.Values x y) : Alike l R (literal x) (literal y)
  | stringEnum (allowed : List String) : Alike l R (stringEnum allowed) (stringEnum allowed)
  | array {v w : Validator} (h : R v w) (bounds : ItemBounds) :
      Alike l R (array v bounds) (array w bounds)
  | object {ps qs : List (Property Validator)} {a b : Additional Validator}
      (hproperties : l.Properties R ps qs) (hadditional : Additional.Rel R a b) :
      Alike l R (object ps a) (object qs b)
  | union {vs ws : List Validator} (h : List.Forall₂ R vs ws) : Alike l R (union vs) (union ws)
  | optional {v w : Validator} (h : R v w) : Alike l R (optional v) (optional w)
  | shared {number number' : Nat} {v w : Validator} (h : R v w) :
      Alike l R (shared number v) (shared number' w)
  | deferred {d e : Deferred} {v w : Validator} (hd : d.target = .ok v) (he : e.target = .ok w)
      (h : R v w) : Alike l R (deferred d) (deferred e)
  | unresolved {d e : Deferred} {reason : String} (hreference : d.reference = e.reference)
      (hd : d.target = .error reason) (he : e.target = .error reason) :
      Alike l R (deferred d) (deferred e)

end Validator

variable {l : Likeness} {options options' : CompileOptions}

/-- The validators come from alike schemas in the same place of two compilations. -/
def Counterparts (l : Likeness) (options options' : CompileOptions) (v w : Validator) : Prop :=
  ∃ pool pool' visited schema schema', l.Pools pool pool' ∧ l.Values schema schema' ∧
    Stands options pool visited schema v ∧ Stands options' pool' visited schema' w

/-- A value is what a schema with nothing but that value comes to. -/
theorem Stands.literal (options : CompileOptions) (x : Json) :
    Stands options {} .empty (.object [("const", x)]) (.literal x) :=
  ⟨1, Nat.le_add_left .., .empty options {}, .values [x], rfl, .leaf rfl⟩

-- ============================================================== values

section

variable {xs ys : List Json} (h : List.Forall₂ l.Values xs ys)

include h

/-- Lists of like values are lists of texts on both sides or on neither. -/
theorem strings?_like : Constraint.strings? xs = Constraint.strings? ys := by
  cases l with
  | same =>
      have heq : List.Forall₂ (· = ·) xs ys := h
      rw [List.forall₂_eq_eq_eq] at heq
      rw [heq]
  | reordered =>
      induction h with
      | nil => rfl
      | cons hhead _ ih =>
          cases hhead with
          | string s =>
              unfold Constraint.strings?
              rw [ih]
          | _ => rfl

/-- So they are compared in the same way on both sides. -/
theorem alike_enumeration {R : Validator → Validator → Prop}
    (hliteral : ∀ x y, l.Values x y → R (.literal x) (.literal y)) :
    (Compiler.enumeration xs).Alike l R (Compiler.enumeration ys) := by
  have hstrings := strings?_like h
  have hunion : List.Forall₂ R (xs.map .literal) (ys.map .literal) :=
    List.forall₂_map_left_iff.mpr (List.forall₂_map_right_iff.mpr (h.imp hliteral))
  cases h with
  | nil => exact .union .nil
  | cons hhead hrest =>
      cases hrest with
      | nil => exact .literal hhead
      | cons hnext hrest =>
          generalize hfound : Constraint.strings? _ = found at hstrings
          cases found with
          | some allowed =>
              simp only [Compiler.enumeration, Constraint.choice, hfound, ← hstrings]
              exact .stringEnum allowed
          | none =>
              simp only [Compiler.enumeration, Constraint.choice, hfound, ← hstrings]
              exact .union hunion

end

-- ======================================================== the comparison

namespace Counterparts

/-- At the start nothing has been declared. -/
theorem pools_nil (l : Likeness) : l.Pools {} {} := by
  cases l with
  | same => exact rfl
  | reordered => exact Members.Distinct.nil.reorders

/-- Two literals of like values are counterparts, as if each had come from a schema of its
own. -/
theorem literal {x y : Json} (h : l.Values x y) :
    Counterparts l options options' (.literal x) (.literal y) := by
  have hschema : l.Values (.object [("const", x)]) (.object [("const", y)]) := by
    cases l with
    | same =>
        cases h
        exact rfl
    | reordered =>
        have hnil : Members.Reorders [] [] := Members.Distinct.nil.reorders
        exact hnil.insert "const" h
  exact ⟨_, _, _, _, _, pools_nil l, hschema, .literal options x, .literal options' y⟩

/-- What a reference comes to in both compilations. -/
theorem of_reference {pool pool' : Definitions} {visited : VisitedPath} {target : String}
    {v w : Validator} (hforce : l.Pools pool pool')
    (hlayer : Layer options pool visited (Stands options pool) (.reference target) v)
    (hlayer' : Layer options' pool' visited (Stands options' pool') (.reference target) w)
    (hv : ∀ d, v = .deferred d → d.Settled options)
    (hw : ∀ d, w = .deferred d → d.Settled options') :
    v.Alike l (Counterparts l options options') w := by
  rcases hlayer.reference_cases with ⟨hentered, hnot, rfl⟩ | ⟨d, hd, hpool, hvisited, rfl⟩ |
      ⟨x, t, number, hentered, hresolve, ht, rfl⟩
  -- cut on the left: the paths are the same, so it is cut on the right
  · rcases hlayer'.reference_cases with ⟨-, -, rfl⟩ | ⟨e, he, -, hvisited', -⟩ |
      ⟨-, -, -, hentered', -⟩
    · exact .union .nil
    · have hnested := e.nested
      rw [he, hvisited', hnot] at hnested
      cases hnested
    · rw [hentered] at hentered'
      cases hentered'
  -- deferred on the left: it is deferred on the right, and both stand for what the
  -- definitions come to
  · have hnested := d.nested
    rw [hd, hvisited] at hnested
    rcases hlayer'.reference_cases with ⟨-, hnot, -⟩ | ⟨e, he, hpool', hvisited', rfl⟩ |
      ⟨-, -, -, hentered', -⟩
    · rw [hnested] at hnot
      cases hnot
    · obtain ⟨t, ht⟩ := (hv d rfl).exists_target
      obtain ⟨u, hu⟩ := (hw e rfl).exists_target
      obtain ⟨x, hx, hstands⟩ := (hv d rfl).stands_target ht
      obtain ⟨y, hy, hstands'⟩ := (hw e rfl).stands_target hu
      rw [hpool, hd] at hx
      rw [hpool', he] at hy
      rw [hpool, hvisited, hd] at hstands
      rw [hpool', hvisited', he] at hstands'
      obtain ⟨_, hsome, hlike⟩ := hforce.resolve? hx
      cases hy.symm.trans hsome
      exact .deferred ht hu ⟨_, _, _, _, _, hforce, hlike, hstands, hstands'⟩
    · rw [VisitedPath.contains_of_isNested hnested] at hentered'
      cases hentered'
  -- followed on the left: it is followed on the right, to a like definition
  · rcases hlayer'.reference_cases with ⟨hentered', -, -⟩ | ⟨e, he, -, hvisited', -⟩ |
      ⟨y, u, number', -, hresolve', hu, rfl⟩
    · rw [hentered] at hentered'
      cases hentered'
    · have hnested := VisitedPath.contains_of_isNested e.nested
      rw [he, hvisited', hentered] at hnested
      cases hnested
    · obtain ⟨_, hsome, hlike⟩ := hforce.resolve? hresolve
      cases hresolve'.symm.trans hsome
      exact .shared ⟨_, _, _, _, _, hforce, hlike, ht, hu⟩

/-- What two counterparts are built from are counterparts again, and so is what
two deferred references stand for. -/
theorem alike {v w : Validator} (hformats : options.formats = options'.formats)
    (h : Counterparts l options options' v w) :
    v.Alike l (Counterparts l options options') w := by
  obtain ⟨pool, pool', visited, schema, schema', hpool, hlike, hv, hw⟩ := h
  by_cases hschema : ∃ members, schema = .object members
  · obtain ⟨members, rfl⟩ := hschema
    obtain ⟨members', rfl⟩ := hlike.exists_members
    obtain ⟨shape, hshape, hlayer⟩ := hv.layer
    obtain ⟨shape', hshape', hlayer'⟩ := hw.layer
    obtain ⟨_, hsome, hlikeshape⟩ := shape?_like hlike hshape
    rw [hformats, hshape', Option.some.injEq] at hsome
    subst hsome
    have hforce := hpool.inForce hlike
    -- what lies beneath stands under the pools in force here
    have hbelow : ∀ {visited x y t u}, l.Values x y →
        Stands options (pool.inForce members) visited x t →
        Stands options' (pool'.inForce members') visited y u →
        Counterparts l options options' t u :=
      fun hlike ht hu => ⟨_, _, _, _, _, hforce, hlike, ht, hu⟩
    cases hlikeshape with
    | anything | string | number | boolean | null =>
        cases hlayer with
        | leaf hleaf =>
            cases hlayer' with
            | leaf hleaf' =>
                cases hleaf
                cases hleaf'
                constructor
    | values hvalues =>
        cases hlayer with
        | leaf hleaf =>
            cases hlayer' with
            | leaf hleaf' =>
                cases hleaf
                cases hleaf'
                exact alike_enumeration hvalues fun _ _ => literal
    | reference target =>
        refine of_reference hforce hlayer hlayer' (fun d hd => ?_) fun d hd => ?_
        · subst hd
          exact hv.settled
        · subst hd
          exact hw.settled
    | optional hx =>
        obtain ⟨t, rfl, ht⟩ := hlayer.exists_optional
        obtain ⟨u, rfl, hu⟩ := hlayer'.exists_optional
        exact .optional (hbelow hx ht hu)
    | union hxs =>
        obtain ⟨ts, rfl, hts⟩ := hlayer.exists_union
        obtain ⟨us, rfl, hus⟩ := hlayer'.exists_union
        exact .union (forall₂_carried hxs hts hus fun _ _ _ _ => hbelow)
    | array hx bounds =>
        obtain ⟨t, rfl, ht⟩ := hlayer.exists_array
        obtain ⟨u, rfl, hu⟩ := hlayer'.exists_array
        exact .array (hbelow hx ht hu) bounds
    | object hps ha =>
        obtain ⟨ts, _, rfl, hts, ht⟩ := hlayer.exists_object
        obtain ⟨us, _, rfl, hus, hu⟩ := hlayer'.exists_object
        exact .object (hps.carried hts hus fun _ _ _ _ => hbelow)
          (ha.carried ht hu fun _ _ _ _ => hbelow)
  -- neither schema is an object, and both accept everything
  · have hnone : ∀ members, schema ≠ .object members := fun members heq =>
      hschema ⟨members, heq⟩
    rw [hv.eq_any hnone, hw.eq_any (hlike.ne_object hnone)]
    exact .any

/-- What two schemas are compiled to are counterparts, if the schemas are like. -/
theorem of_compile {schema schema' : Json} {v w : Validator} (hlike : l.Values schema schema')
    (hv : (compile schema options).result = .ok v)
    (hw : (compile schema' options').result = .ok w) : Counterparts l options options' v w :=
  ⟨_, _, _, _, _, pools_nil l, hlike, .of_compile hv, .of_compile hw⟩

end Counterparts

/-- What compiles, compiles with a higher limit on depth, and so does a schema that
is like it. -/
theorem exists_compile_of_like {schema schema' : Json} {v : Validator}
    (hformats : options.formats = options'.formats) (hdepth : options.maxDepth ≤ options'.maxDepth)
    (hlike : l.Values schema schema') (h : (compile schema options).result = .ok v) :
    ∃ w, (compile schema' options').result = .ok w := by
  obtain ⟨w, hw⟩ := exists_expands_of_like hformats (Nat.succ_le_succ hdepth)
    (Counterparts.pools_nil l) hlike (.refl .empty) (expands_of_compileNode h)
  have hmap := compileNode_iff_expands.mpr hw
  cases hresult : (compile schema' options').result with
  | error e =>
      rw [show compileNode schema' {} .empty options' = compile schema' options' from rfl,
        hresult] at hmap
      cases hmap
  | ok w => exact ⟨w, rfl⟩

end Conformance
