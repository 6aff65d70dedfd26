/-
Two compilations in lockstep.

The compiler's rules ask little of what carries them out: steps are put one after
the other, they fail, and they note warnings. So a relation between the steps of
two ways to carry them out that is kept by these three (`Lockstep`) is kept by
every rule. The two compilations need not be of the same schema. One may be of the
schema told otherwise (`Retelling`), in another pool, with other formats checked.
What they must have in common is the path, which the errors mention, and the
references entered, which decide what becomes of the next one.

The results are related by what holds of nodes that are built alike from related
parts (`Congruence`). `Lockstep.steps_schema` puts the rules together: two schema objects are
in lockstep where the references are that they may decide to follow, and the
schemas beneath them.
-/
import Conformance.Proofs.Compiler.Retelling
import Conformance.Proofs.Validator.Basic

namespace Conformance

namespace Compiler

/-- A relation between the steps of two kinds of compilation that have related
results. It is kept by sequencing, by failing with the same error, and by noting
any warnings whatever. -/
structure Lockstep (m n : Type → Type) [Monad m] [MonadExceptOf CompileError m] [Noting m]
    [Monad n] [MonadExceptOf CompileError n] [Noting n] where
  Steps : {α β : Type} → (α → β → Prop) → m α → n β → Prop
  pure : ∀ {α β : Type} {R : α → β → Prop} {a : α} {b : β}, R a b → Steps R (pure a) (pure b)
  throw : ∀ {α β : Type} (R : α → β → Prop) (e : CompileError),
    Steps R (throw e : m α) (throw e : n β)
  note : ∀ warnings warnings' : List Warning,
    Steps (fun _ _ => True) (note warnings : m Unit) (note warnings' : n Unit)
  bind : ∀ {α β γ δ : Type} {R : α → β → Prop} {S : γ → δ → Prop} {x : m α} {y : n β}
    {f : α → m γ} {g : β → n δ}, Steps R x y → (∀ a b, R a b → Steps S (f a) (g b)) →
    Steps S (x >>= f) (y >>= g)

/-- The second relation holds of what is built alike from what the first relates. A
format is one that is asked for, each side following its own policy. -/
structure Congruence (options options' : CompileOptions)
    (V W : Validator → Validator → Prop) : Prop where
  unasked : V .any .any
  any : W .any .any
  null : W .null .null
  boolean : W .boolean .boolean
  string : ∀ (rules : StringRules) (schema : Members),
    W (.string { rules with format := Constraint.format schema options.formats })
      (.string { rules with format := Constraint.format schema options'.formats })
  number : ∀ rules, W (.number rules) (.number rules)
  literal : ∀ value, W (.literal value) (.literal value)
  enumeration : ∀ values, W (enumeration values) (enumeration values)
  array : ∀ {v w : Validator} (bounds : ItemBounds), V v w → W (.array v bounds) (.array w bounds)
  object : ∀ {ps qs : List (Property Validator)} {a b : Additional Validator},
    List.Forall₂ (Property.Rel V) ps qs → Additional.Rel V a b → W (.object ps a) (.object qs b)
  union : ∀ {vs ws : List Validator}, List.Forall₂ V vs ws → W (.union vs) (.union ws)
  optional : ∀ {v w : Validator}, V v w → W (.optional v) (.optional w)

/-- The second site is where the first is, with a pool that goes with the first
one's. -/
structure Site.Along (P : Pool → Pool → Prop) (site site' : Site) : Prop where
  pool : P site.pool site'.pool
  visited : site'.visited = site.visited
  path : site'.path = site.path

namespace Site.Along

variable {P : Pool → Pool → Prop} {site site' : Site}

/-- The same segments put behind both paths keep the sites together. -/
theorem below (h : site.Along P site') (segments : List String) :
    (site.below segments).Along P (site'.below segments) where
  pool := h.pool
  visited := h.visited
  path := congrArg (Pointer.extend · segments) h.path

/-- Going into a schema below is noted on both sides. -/
theorem nested (h : site.Along P site') (segments : List String) :
    (site.nested segments).Along P (site'.nested segments) where
  pool := h.pool
  visited := congrArg VisitedPath.descend h.visited
  path := congrArg (Pointer.extend · segments) h.path

/-- So is the reference that is entered. -/
theorem entered (h : site.Along P site') (target : String) :
    (site.entered target).Along P (site'.entered target) where
  pool := h.pool
  visited := congrArg (VisitedPath.enter · target) h.visited
  path := rfl

end Site.Along

-- ================================================================ rules

namespace Lockstep

variable {m n : Type → Type} [Monad m] [MonadExceptOf CompileError m] [Noting m]
variable [Monad n] [MonadExceptOf CompileError n] [Noting n]
variable (L : Lockstep m n)

/-- What is noted on the way may differ, as warnings do. Only what has been read counts. -/
theorem steps_noting {α β : Type} {R : α → β → Prop} {read : α × List Warning}
    {read' : β × List Warning} (h : R read.1 read'.1) :
    L.Steps R (noting read) (noting read') :=
  L.bind (L.note read.2 read'.2) fun _ _ _ => L.pure h

section

/-! What is read as it stands is read alike. -/

variable (r : Retelling) {options options' : CompileOptions} {V W : Validator → Validator → Prop}
variable (hV : Congruence options options' V W) {P : Pool → Pool → Prop} {site site' : Site}
variable (hsite : site.Along P site')

include hsite

/-- The pattern is the same text on both sides, so it is read to the same pattern or
fails with the same error at the same path. -/
theorem steps_pattern (schema : Members) :
    L.Steps (· = ·) (pattern schema site) (pattern (r.members schema) site') := by
  have hread : (Constraint.pattern schema site.path).1
      = (Constraint.pattern (r.members schema) site'.path).1 := by
    rw [Constraint.pattern_congr (r.agree schema), hsite.path]
  -- both sides have read the same text, or none
  refine L.bind (L.steps_noting hread) ?_
  intro source _ h
  subst h
  cases source with
  | none => exact L.pure rfl
  | some source =>
      cases hpattern : Pattern.ofText source with
      | ok pattern =>
          simp only [hpattern]
          exact L.pure rfl
      | error e =>
          simp only [hpattern, (hsite.below ["pattern"]).path]
          exact L.throw _ _

include hV

/-- The bounds and the pattern are the same. The format is not, where formats are
treated in different ways, and `Congruence` allows for it. -/
theorem steps_string (schema : Members) :
    L.Steps W (string options schema site) (string options' (r.members schema) site') := by
  have hread : (Constraint.lengthRules schema site.path).1
      = (Constraint.lengthRules (r.members schema) site'.path).1 := by
    rw [Constraint.lengthRules_congr (r.agree schema), hsite.path]
  refine L.bind (L.steps_noting hread) ?_
  intro rules _ h
  subst h
  refine L.bind (L.steps_pattern r hsite schema) ?_
  intro pattern _ h
  subst h
  rw [Constraint.format_congr (r.agree schema)]
  exact L.pure (hV.string { rules with pattern } schema)

/-- All rules for numbers are read off the same values. -/
theorem steps_number (schema : Members) (integer : Bool) :
    L.Steps W (number schema integer site) (number (r.members schema) integer site') := by
  have hread : (Constraint.numberRules schema integer site.path).1
      = (Constraint.numberRules (r.members schema) integer site'.path).1 := by
    rw [Constraint.numberRules_congr (r.agree schema), hsite.path]
  refine L.bind (L.steps_noting hread) ?_
  intro rules _ h
  subst h
  exact L.pure (hV.number rules)

end

section

/-! What lies beneath a schema is in lockstep. -/

variable (r : Retelling) {options options' : CompileOptions} {V W : Validator → Validator → Prop}
variable (hV : Congruence options options' V W) {P : Pool → Pool → Prop}
variable {next : Json → Site → m Validator} {next' : Json → Site → n Validator}
variable (hnext : ∀ (schema : Json) {site site' : Site}, site.Along P site' →
  L.Steps V (next schema site) (next' (r.schema schema) site'))

include hnext

/-- A list of schemas is compiled one after the other on both sides, to related lists. -/
theorem steps_each : ∀ {schemas schemas' : List (Json × Site)},
    List.Forall₂ (fun e e' => e'.1 = r.schema e.1 ∧ e.2.Along P e'.2) schemas schemas' →
    L.Steps (List.Forall₂ V) (each next schemas) (each next' schemas') := by
  intro schemas schemas' h
  induction h with
  | nil => exact L.pure .nil
  | @cons e e' rest rest' h _ ih =>
      obtain ⟨hschema, hsite⟩ := h
      -- the schema of the other side is this one told otherwise
      have hhead := hnext e.1 hsite
      rw [← hschema] at hhead
      refine L.bind hhead ?_
      intro v w hv
      refine L.bind ih ?_
      intro vs ws hvs
      exact L.pure (.cons hv hvs)

/-- Properties are compiled in their order. The names and what is required are the same
on both sides, so that only the validators have to be related. -/
theorem steps_properties (required : List String) {site site' : Site} (hsite : site.Along P site') :
    ∀ schemas : List (String × Json),
      L.Steps (List.Forall₂ (Property.Rel V)) (properties next required site schemas)
        (properties next' required site' (schemas.map fun e => (e.1, r.schema e.2))) := by
  intro schemas
  induction schemas with
  | nil => exact L.pure .nil
  | cons e rest ih =>
      refine L.bind (hnext e.2 (hsite.nested ["properties", e.1])) ?_
      intro v w hv
      refine L.bind ih ?_
      intro ps qs hps
      exact L.pure (.cons ⟨rfl, rfl, hv⟩ hps)

/-- A `properties` that is no object is passed over with a warning on both sides. -/
theorem steps_declared (schema : Members) (required : List String) {site site' : Site}
    (hsite : site.Along P site') :
    L.Steps (List.Forall₂ (Property.Rel V)) (declared next schema required site)
      (declared next' (r.members schema) required site') := by
  unfold declared
  rw [r.properties]
  cases Members.get? schema "properties" with
  | none => exact L.pure .nil
  | some other =>
      cases other with
      | object schemas => exact L.steps_properties r hnext required hsite schemas
      | _ => exact L.bind (L.note _ _) fun _ _ _ => L.pure .nil

/-- What undeclared members get. A value that is told otherwise is an object on both
sides, and any other value is the same on both. -/
theorem steps_additional (schema : Members) {site site' : Site} (hsite : site.Along P site') :
    L.Steps (Additional.Rel V) (additional next schema site)
      (additional next' (r.members schema) site') := by
  have hcatchAll : ∀ schema : Json,
      L.Steps (Additional.Rel V)
        (return .schema (← next schema (site.nested ["additionalProperties"])))
        (return .schema (← next' (r.schema schema) (site'.nested ["additionalProperties"]))) :=
    fun schema => L.bind (hnext schema (hsite.nested ["additionalProperties"])) fun _ _ hv =>
      L.pure (.schema hv)
  unfold additional
  rw [r.additional]
  cases Members.get? schema "additionalProperties" with
  | none => exact L.pure .ignore
  | some other =>
      have hother := hcatchAll other
      rw [Option.map_some]
      -- only objects are told otherwise, so they are a case of their own
      by_cases hfields : ∃ fields, other = .object fields
      · obtain ⟨fields, rfl⟩ := hfields
        rw [r.schema_object] at hother ⊢
        exact hother
      · rw [r.schema_other fun fields heq => hfields ⟨fields, heq⟩] at hother ⊢
        cases other with
        | object fields => exact absurd ⟨fields, rfl⟩ hfields
        | null => exact hother
        | bool b =>
            cases b with
            | false => exact L.pure .reject
            | true => exact L.pure .ignore
        | _ => exact L.pure .ignore

include hV

/-- An array without a schema for its items accepts all of them. A list of such schemas
does too, with a warning. -/
theorem steps_items (schema : Members) {site site' : Site} (hsite : site.Along P site') :
    L.Steps V (items next schema site) (items next' (r.members schema) site') := by
  unfold items
  rw [r.items]
  cases Members.get? schema "items" with
  | none => exact L.pure hV.unasked
  | some other =>
      rw [Option.map_some]
      -- as for additional properties
      by_cases hfields : ∃ fields, other = .object fields
      · obtain ⟨fields, rfl⟩ := hfields
        have hitems := hnext (.object fields) (hsite.nested ["items"])
        rw [r.schema_object] at hitems ⊢
        exact hitems
      · rw [r.schema_other fun fields heq => hfields ⟨fields, heq⟩]
        cases other with
        | object fields => exact absurd ⟨fields, rfl⟩ hfields
        | array _ => exact L.bind (L.note _ _) fun _ _ _ => L.pure hV.unasked
        | _ => exact L.pure hV.unasked

/-- The bounds are read at the same path from the same values, after the items have been
compiled. -/
theorem steps_array (schema : Members) {site site' : Site} (hsite : site.Along P site') :
    L.Steps W (array next schema site) (array next' (r.members schema) site') := by
  have hread : (Constraint.itemBounds schema site.path).1
      = (Constraint.itemBounds (r.members schema) site'.path).1 := by
    rw [Constraint.itemBounds_congr (r.agree schema), hsite.path]
  refine L.bind (L.steps_items r hV hnext schema hsite) ?_
  intro v w hv
  refine L.bind (L.steps_noting hread) ?_
  intro bounds _ h
  subst h
  exact L.pure (hV.array bounds hv)

/-- What is required is read first, then the declared properties are compiled, then what
the others get. The two sides do so in the same order, and so the first of several
errors is the same. -/
theorem steps_object (schema : Members) {site site' : Site} (hsite : site.Along P site') :
    L.Steps W (object next schema site) (object next' (r.members schema) site') := by
  have hread : (Constraint.required schema site.path).1
      = (Constraint.required (r.members schema) site'.path).1 := by
    rw [Constraint.required_congr (r.agree schema), hsite.path]
  refine L.bind (L.steps_noting hread) ?_
  intro required _ h
  subst h
  refine L.bind (L.steps_declared r hnext schema required hsite) ?_
  intro ps qs hps
  refine L.bind (L.steps_additional r hnext schema hsite) ?_
  intro a b hab
  exact L.pure (hV.object hps hab)

/-- A node of one type. Of all the types only strings, numbers, arrays and objects have
rules to read. -/
theorem steps_typed (schema : Members) (type : PrimitiveType) {site site' : Site}
    (hsite : site.Along P site') :
    L.Steps W (typed options next schema type site)
      (typed options' next' (r.members schema) type site') := by
  cases type with
  | string => exact L.steps_string r hV hsite schema
  | number => exact L.steps_number r hV hsite schema false
  | integer => exact L.steps_number r hV hsite schema true
  | boolean => exact L.pure hV.boolean
  | null => exact L.pure hV.null
  | array => exact L.steps_array r hV hnext schema hsite
  | object => exact L.steps_object r hV hnext schema hsite

/-- An optional schema. -/
theorem steps_optional (schema : Json) {site site' : Site} (hsite : site.Along P site') :
    L.Steps W (return .optional (← next schema site))
      (return .optional (← next' (r.schema schema) site')) :=
  L.bind (hnext schema hsite) fun _ _ hv => L.pure (hV.optional hv)

/-- A union of alternatives, each at its own place. -/
theorem steps_alternatives {α : Type} (schema schema' : α → Json) (segments : Nat → List String)
    {site site' : Site} (hsite : site.Along P site') (list : List (α × Nat))
    (hschema : ∀ a, schema' a = r.schema (schema a)) :
    L.Steps W
      (return .union (← each next
        (list.map fun e => (schema e.1, site.below (segments e.2)))))
      (return .union (← each next'
        (list.map fun e => (schema' e.1, site'.below (segments e.2))))) := by
  have hlist : List.Forall₂ (fun e e' => e'.1 = r.schema e.1 ∧ e.2.Along P e'.2)
      (list.map fun e => (schema e.1, site.below (segments e.2)))
      (list.map fun e => (schema' e.1, site'.below (segments e.2))) := by
    rw [List.forall₂_map_left_iff, List.forall₂_map_right_iff, List.forall₂_same]
    exact fun e _ => ⟨hschema e.1, hsite.below (segments e.2)⟩
  exact L.bind (L.steps_each r hnext hlist) fun _ _ hvs => L.pure (hV.union hvs)

/-- All alternatives are compiled, or the one that is left beside null. Which of them is
null is seen from the schemas, and no schema becomes null or ceases to be it by being
told otherwise. -/
theorem steps_union (schema : Members) (variants : List Json) {site site' : Site}
    (hsite : site.Along P site') :
    L.Steps W (union next schema variants site)
      (union next' (r.members schema) (variants.map r.schema) site') := by
  unfold union
  rw [soleAlternative?_map r.isNullSchema]
  cases soleAlternative? isNullSchema variants with
  | some found =>
      have hsole := L.steps_optional r hV hnext (merged schema found.1)
        (hsite.below ["anyOf", toString found.2])
      rw [← r.merged] at hsole
      exact hsole
  | none =>
      rw [List.zipIdx_map, List.map_map]
      exact L.steps_alternatives r hV hnext id r.schema (fun i => ["anyOf", toString i]) hsite
        variants.zipIdx fun _ => rfl

/-- The names in a list of types are no schemas. The node itself is told otherwise, once
for each name, and the type put in. -/
theorem steps_typeList (schema : Members) (names : List Json) {site site' : Site}
    (hsite : site.Along P site') :
    L.Steps W (typeList next schema names site)
      (typeList next' (r.members schema) names site') := by
  unfold typeList
  cases soleAlternative? isNullName names with
  | some found =>
      have hsole := L.steps_optional r hV hnext (withType schema found.1) hsite
      rw [← r.withType] at hsole
      exact hsole
  | none =>
      exact L.steps_alternatives r hV hnext (withType schema) (withType (r.members schema))
        (fun i => ["type", toString i]) hsite names.zipIdx (r.withType schema)

/-- A schema object is in lockstep with the same told otherwise, where what it may
follow is, and what lies beneath it. -/
theorem steps_schema {follow : String → Site → m Validator} {follow' : String → Site → n Validator}
    (hfollow : ∀ (target : String) {site site' : Site}, site.Along P site' →
      L.Steps W (follow target site) (follow' target site'))
    (members : Members) {site site' : Site} (hsite : site.Along P site') :
    L.Steps W (schema options follow next members site)
      (schema options' follow' next' (r.members members) site') := by
  -- the kind of the node is told otherwise too, and with it the schemas that it has
  have hkind : ∀ {kind kind' : SchemaKind × List Warning}, kind'.1 = kind.1.map r.schema →
      L.Steps (fun kind kind' => kind' = kind.map r.schema) (noting kind) (noting kind') :=
    fun h => L.steps_noting h
  refine L.bind (hkind (r.kind members)) ?_
  intro kind _ h
  subst h
  cases kind with
  | reference target => exact hfollow target hsite
  | union variants => exact L.steps_union r hV hnext members variants hsite
  | typeList names => exact L.steps_typeList r hV hnext members names hsite
  | enum values => exact L.pure (hV.enumeration values)
  | const value => exact L.pure (hV.literal value)
  | primitive type => exact L.steps_typed r hV hnext members type hsite
  | implicitObject => exact L.steps_typed r hV hnext members .object hsite
  | unconstrained => exact L.pure hV.any

end

end Lockstep

end Compiler

end Conformance
