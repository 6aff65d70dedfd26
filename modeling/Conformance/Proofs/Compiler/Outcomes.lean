/-
What the rules of the compiler come to.

Each rule succeeds just if the schemas that it compiles do, and then with a layer over what
these come to. So for each rule there is one equivalence: that it yields a validator, up to
the names of nodes, is that the validator is a layer over the shape the rule is for. What
lies beneath is a parameter throughout, `next` for the compiler and `below` for the
relation, so nothing is said here about levels or about recursion.
-/
import Conformance.Proofs.Compiler.Layer

namespace Conformance

namespace Compiler

/-- A sequence succeeds when both of its parts do. -/
theorem bind_eq_ok {ε α β : Type} {step : Except ε α} {f : α → Except ε β} {b : β} :
    (step >>= f) = .ok b ↔ ∃ a, step = .ok a ∧ f a = .ok b := by
  cases step with
  | error e =>
      constructor
      · intro h
        cases h
      · intro h
        obtain ⟨_, h, _⟩ := h
        cases h
  | ok a => exact ⟨fun h => ⟨a, rfl, h⟩, fun ⟨_, ha, h⟩ => by cases ha; exact h⟩

/-- What is returned is what comes out. -/
theorem pure_eq_ok {ε α : Type} {a b : α} : (pure a : Except ε α) = .ok b ↔ a = b :=
  ⟨fun h => by cases h; rfl, fun h => by rw [h]; rfl⟩

/-- From no schemas come no validators. -/
theorem nil_eq_ok {ε α β γ : Type} {R : α → β → Prop} {f : β → γ} {bs : List β} :
    (.ok [] : Except ε (List γ)) = .ok (bs.map f) ↔ List.Forall₂ R [] bs := by
  rw [Except.ok.injEq, eq_comm, List.map_eq_nil_iff, List.forall₂_nil_left_iff]

/-- Of what has been read only the value comes out, whatever the warnings. -/
theorem noting_eq_ok {α : Type} {read : α × List Warning} {a : α} :
    (noting read : Except CompileError α) = .ok a ↔ read.1 = a :=
  pure_eq_ok

variable {options : CompileOptions} {pool : Definitions}

section

/-! What lies beneath a schema comes to what `below` relates it to. -/

variable {next : Json → Site → Except CompileError Validator}
variable {below : VisitedPath → Json → Validator → Prop}
variable (hnext : ∀ (schema : Json) (site : Site) (v : Validator), site.pool.definitions = pool →
  (next schema site = .ok v.anonymous ↔ below site.visited schema v))

include hnext

/-- Schemas compiled one after the other come to a list of validators just if each of them
comes to its own. -/
theorem each_eq_ok {visited : VisitedPath} : ∀ {schemas : List (Json × Site)},
    (∀ e ∈ schemas, e.2.pool.definitions = pool ∧ e.2.visited = visited) →
    ∀ {vs : List Validator}, each next schemas = .ok (vs.map Validator.anonymous) ↔
      List.Forall₂ (below visited) (schemas.map (·.1)) vs := by
  intro schemas
  induction schemas with
  | nil =>
      intro _ vs
      exact nil_eq_ok
  | cons e rest ih =>
      intro hsites vs
      -- the first schema and the others, each where it stands
      have hhead := hsites e (List.mem_cons_self ..)
      have htail : ∀ e ∈ rest, _ := fun e he => hsites e (List.mem_cons_of_mem _ he)
      unfold each
      simp only [bind_eq_ok, pure_eq_ok]
      constructor
      · intro h
        obtain ⟨w, hw, ws, hws, heq⟩ := h
        cases vs with
        | nil => cases heq
        | cons v vs =>
            rw [List.map_cons, List.cons.injEq] at heq
            obtain ⟨rfl, rfl⟩ := heq
            exact .cons (hhead.2 ▸ (hnext _ _ _ hhead.1).mp hw) ((ih htail).mp hws)
      · intro h
        cases h with
        | cons hv hvs =>
            exact ⟨_, (hnext _ _ _ hhead.1).mpr (hhead.2 ▸ hv), _, (ih htail).mpr hvs, rfl⟩

/-- Where several alternatives are left, the node is a union of what they come to. At
which paths they are compiled is of no account. -/
theorem union_each_eq_ok {visited : VisitedPath} {schemas : List (Json × Site)}
    {alternatives : List Json} (halternatives : schemas.map (·.1) = alternatives)
    (hsites : ∀ e ∈ schemas, e.2.pool.definitions = pool ∧ e.2.visited = visited) {v : Validator} :
    (return .union (← each next schemas)) = (.ok v.anonymous : Except CompileError _) ↔
      Layer options pool visited below (.union alternatives) v := by
  subst halternatives
  simp only [bind_eq_ok, pure_eq_ok]
  constructor
  · intro h
    obtain ⟨ws, hws, heq⟩ := h
    obtain ⟨vs, rfl, rfl⟩ := Validator.anonymous_eq_union heq.symm
    exact .union ((each_eq_ok hnext hsites).mp hws)
  · intro h
    obtain ⟨ts, rfl, hts⟩ := h.exists_union
    exact ⟨_, (each_eq_ok hnext hsites).mpr hts, (Validator.anonymous_union _).symm⟩

/-- Where one is left beside null, the node is what that one comes to, made optional. -/
theorem optional_eq_ok {schema : Json} {site : Site} (hpool : site.pool.definitions = pool)
    {v : Validator} :
    (return .optional (← next schema site)) = (.ok v.anonymous : Except CompileError _) ↔
      Layer options pool site.visited below (.optional schema) v := by
  simp only [bind_eq_ok, pure_eq_ok]
  constructor
  · intro h
    obtain ⟨w, hw, heq⟩ := h
    obtain ⟨u, rfl, rfl⟩ := Validator.anonymous_eq_optional heq.symm
    exact .optional ((hnext _ _ _ hpool).mp hw)
  · intro h
    obtain ⟨t, rfl, ht⟩ := h.exists_optional
    exact ⟨_, (hnext _ _ _ hpool).mpr ht, rfl⟩

/-- An `anyOf` comes to one or the other. The shape of the node says which. -/
theorem union_eq_ok {members : Members} {variants : List Json} {site : Site}
    (hpool : site.pool.definitions = pool) {v : Validator} :
    union next members variants site = .ok v.anonymous ↔
      Layer options pool site.visited below (Shape.ofVariants members variants) v := by
  unfold union Shape.ofVariants
  cases soleAlternative? isNullSchema variants with
  | some found =>
      have hsite : (site.below ["anyOf", toString found.2]).pool.definitions = pool := hpool
      exact optional_eq_ok hnext hsite
  | none =>
      refine union_each_eq_ok hnext ?_ ?_
      · rw [List.map_map]
        exact List.zipIdx_map_fst 0 variants
      · intro e he
        obtain ⟨_, _, rfl⟩ := List.mem_map.mp he
        exact ⟨hpool, rfl⟩

/-- A list of types is compiled like alternatives, each of which is the node with one type
put in. -/
theorem typeList_eq_ok {members : Members} {names : List Json} {site : Site}
    (hpool : site.pool.definitions = pool) {v : Validator} :
    typeList next members names site = .ok v.anonymous ↔
      Layer options pool site.visited below (Shape.ofNames members names) v := by
  unfold typeList Shape.ofNames
  cases soleAlternative? isNullName names with
  | some found => exact optional_eq_ok hnext hpool
  | none =>
      refine union_each_eq_ok hnext ?_ ?_
      · rw [List.map_map]
        calc names.zipIdx.map (withType members ∘ Prod.fst)
            = (names.zipIdx.map Prod.fst).map (withType members) := (List.map_map ..).symm
          _ = names.map (withType members) := by rw [List.zipIdx_map_fst]
      · intro e he
        obtain ⟨_, _, rfl⟩ := List.mem_map.mp he
        exact ⟨hpool, rfl⟩

/-- Without a schema for its items an array is compiled as if that were null. A schema
that is no object accepts everything, which is what is assumed of null here. -/
theorem items_eq_ok (hfree : ∀ visited v, below visited .null v ↔ v = .any) {members : Members}
    {site : Site} (hpool : site.pool.definitions = pool) {v : Validator} :
    items next members site = .ok v.anonymous ↔
      below site.visited.descend (Shape.itemSchema members) v := by
  have hnone : (Except.ok .any : Except CompileError _) = .ok v.anonymous ↔
      below site.visited.descend .null v := by
    rw [hfree, ← Validator.anonymous_eq_leaf (show Shape.anything.leaf? = some .any from rfl)]
    exact pure_eq_ok.trans eq_comm
  unfold items Shape.itemSchema
  cases Members.get? members "items" with
  | none => exact hnone
  | some other =>
      cases other with
      | object fields =>
          have hsite : (site.nested ["items"]).pool.definitions = pool := hpool
          exact hnext (.object fields) _ v hsite
      | _ => exact hnone

/-- The properties keep their names and whether they are required, and their schemas come
to validators. -/
theorem properties_eq_ok {required : List String} {site : Site}
    (hpool : site.pool.definitions = pool) :
    ∀ {schemas : List (String × Json)} {ps : List (Property Validator)},
      properties next required site schemas = .ok (ps.map (Property.map Validator.anonymous)) ↔
        List.Forall₂ (Property.Rel (below site.visited.descend))
          (schemas.map fun e => ⟨e.1, required.contains e.1, e.2⟩) ps := by
  intro schemas
  induction schemas with
  | nil =>
      intro ps
      exact nil_eq_ok
  | cons e rest ih =>
      intro ps
      -- each schema is compiled beneath its name
      have hhead : ∀ v : Validator, _ := fun v =>
        hnext e.2 (site.nested ["properties", e.1]) v hpool
      unfold properties
      simp only [bind_eq_ok, pure_eq_ok, List.map_cons]
      constructor
      · intro h
        obtain ⟨w, hw, qs, hqs, heq⟩ := h
        cases ps with
        | nil => cases heq
        | cons p ps =>
            rw [List.map_cons, List.cons.injEq] at heq
            obtain ⟨hp, rfl⟩ := heq
            simp only [Property.map, Property.mk.injEq] at hp
            -- names are kept by what is anonymous, so the property can be told from its
            -- name
            obtain ⟨hname, hrequired, rfl⟩ := hp
            exact .cons ⟨hname, hrequired, (hhead _).mp hw⟩ (ih.mp hqs)
      · intro h
        cases h with
        | cons hp hps =>
            obtain ⟨hname, hrequired, hv⟩ := hp
            refine ⟨_, (hhead _).mpr hv, _, ih.mpr hps, ?_⟩
            simp only [List.map_cons, Property.map, ← hname, ← hrequired]

/-- So do those of a node, where a `properties` that is no object declares none. -/
theorem declared_eq_ok {members : Members} {site : Site} (hpool : site.pool.definitions = pool)
    {ps : List (Property Validator)} :
    declared next members (Constraint.required members site.path).1 site
        = .ok (ps.map (Property.map Validator.anonymous)) ↔
      List.Forall₂ (Property.Rel (below site.visited.descend)) (Shape.declared members) ps := by
  -- nothing is declared where there is no object of schemas
  have hnone : (Except.ok [] : Except CompileError _)
      = .ok (ps.map (Property.map Validator.anonymous)) ↔
      List.Forall₂ (Property.Rel (below site.visited.descend)) [] ps := nil_eq_ok
  unfold declared Shape.declared
  rw [Constraint.required_fst]
  cases Members.get? members "properties" with
  | none => exact hnone
  | some other =>
      cases other with
      | object schemas => exact properties_eq_ok hnext hpool
      | _ => exact hnone

/-- What becomes of undeclared members is decided by the keyword alone, but for a schema,
which is compiled. -/
theorem additional_eq_ok {members : Members} {site : Site} (hpool : site.pool.definitions = pool)
    {a : Additional Validator} :
    additional next members site = .ok (a.map Validator.anonymous) ↔
      Additional.Rel (below site.visited.descend) (Shape.additional members) a := by
  have hsite : (site.nested ["additionalProperties"]).pool.definitions = pool := hpool
  -- any value but a Boolean is taken as a schema, or passed over
  have hcatchAll : ∀ schema : Json,
      (return .schema (← next schema (site.nested ["additionalProperties"])))
          = (.ok (a.map Validator.anonymous) : Except CompileError _) ↔
        Additional.Rel (below site.visited.descend) (.schema schema) a := by
    intro schema
    simp only [bind_eq_ok, pure_eq_ok]
    constructor
    · intro h
      obtain ⟨w, hw, heq⟩ := h
      cases a with
      | ignore => cases heq
      | reject => cases heq
      | schema v =>
          cases heq
          exact .schema ((hnext schema _ v hsite).mp hw)
    · intro h
      cases h with
      | schema h => exact ⟨_, (hnext schema _ _ hsite).mpr h, rfl⟩
  -- what is passed over leaves the members alone
  have hignore : (Except.ok .ignore : Except CompileError _) = .ok (a.map Validator.anonymous) ↔
      Additional.Rel (below site.visited.descend) .ignore a := by
    constructor
    · intro h
      cases a with
      | ignore => exact .ignore
      | reject => cases h
      | schema v => cases h
    · intro h
      cases h
      rfl
  unfold additional Shape.additional
  cases Members.get? members "additionalProperties" with
  | none => exact hignore
  | some other =>
      cases other with
      | null => exact hcatchAll .null
      | object fields => exact hcatchAll (.object fields)
      | bool b =>
          cases b with
          | true => exact hignore
          | false =>
              constructor
              · intro h
                cases a with
                | ignore => cases h
                | reject => exact .reject
                | schema v => cases h
              · intro h
                cases h
                rfl
      | _ => exact hignore

/-- An array has the bounds that are read and the validator of its items. -/
theorem array_eq_ok (hfree : ∀ visited v, below visited .null v ↔ v = .any) {members : Members}
    {site : Site} (hpool : site.pool.definitions = pool) {v : Validator} :
    array next members site = .ok v.anonymous ↔
      Layer options pool site.visited below
        (.array (Shape.itemSchema members) (Constraint.itemBounds members "").1) v := by
  unfold array
  -- the bounds do not depend on the path, which is only for warnings
  simp only [bind_eq_ok, pure_eq_ok, noting_eq_ok, Constraint.itemBounds_fst members site.path]
  constructor
  · intro h
    obtain ⟨w, hw, bounds, rfl, heq⟩ := h
    obtain ⟨u, rfl, rfl⟩ := Validator.anonymous_eq_array heq.symm
    exact .array ((items_eq_ok hnext hfree hpool).mp hw)
  · intro h
    obtain ⟨t, rfl, ht⟩ := h.exists_array
    exact ⟨_, (items_eq_ok hnext hfree hpool).mpr ht, _, rfl, rfl⟩

/-- An object has its properties and what becomes of other members. -/
theorem object_eq_ok {members : Members} {site : Site} (hpool : site.pool.definitions = pool)
    {v : Validator} :
    object next members site = .ok v.anonymous ↔
      Layer options pool site.visited below
        (.object (Shape.declared members) (Shape.additional members)) v := by
  unfold object
  simp only [bind_eq_ok, pure_eq_ok, noting_eq_ok]
  constructor
  · intro h
    obtain ⟨required, rfl, qs, hqs, b, hb, heq⟩ := h
    obtain ⟨ps, a, rfl, rfl, rfl⟩ := Validator.anonymous_eq_object heq.symm
    exact .object ((declared_eq_ok hnext hpool).mp hqs) ((additional_eq_ok hnext hpool).mp hb)
  · intro h
    obtain ⟨ps, a, rfl, hps, ha⟩ := h.exists_object
    exact ⟨_, rfl, _, (declared_eq_ok hnext hpool).mpr hps, _,
      (additional_eq_ok hnext hpool).mpr ha, (Validator.anonymous_object _ _).symm⟩

omit hnext in
/-- A leaf has no schema beneath it, so the rule gives the validator at once. -/
theorem leaf_eq_ok {shape : Shape} {w v : Validator} (hleaf : shape.leaf? = some w)
    {visited : VisitedPath} :
    (Except.ok w : Except CompileError _) = .ok v.anonymous ↔
      Layer options pool visited below shape v := by
  -- without names to forget the two validators are one
  have hname : w = v.anonymous ↔ v = w := eq_comm.trans (Validator.anonymous_eq_leaf hleaf)
  rw [Except.ok.injEq, hname]
  constructor
  · intro h
    subst h
    exact .leaf hleaf
  · intro h
    cases h with
    | leaf h => exact Option.some.inj (h.symm.trans hleaf)
    | _ => cases hleaf

omit hnext in
/-- The pattern is read just if there is none or it is a pattern. This is the only rule
for values that can fail. -/
theorem pattern_eq_ok {members : Members} {site : Site} {p : Option Pattern} :
    (pattern members site : Except CompileError _) = .ok p ↔ Shape.pattern? members = some p := by
  unfold pattern Shape.pattern?
  simp only [bind_eq_ok, noting_eq_ok, Constraint.pattern_fst members site.path]
  cases (Constraint.pattern members "").1 with
  | none => simp [pure_eq_ok]
  | some source =>
      cases hread : Pattern.ofText source with
      | ok q => simp [pure_eq_ok, hread]
      | error e => simp [hread, throw, throwThe, MonadExceptOf.throw]

omit hnext in
/-- So a string comes to a node just if its pattern can be read. -/
theorem string_eq_ok {members : Members} {site : Site} {v : Validator} :
    string options members site = (.ok v.anonymous : Except CompileError _) ↔
      ∃ shape, (Shape.stringRules? options.formats members).map Shape.string = some shape ∧
        Layer options pool site.visited below shape v := by
  unfold string Shape.stringRules?
  simp only [bind_eq_ok, noting_eq_ok, pattern_eq_ok, Constraint.lengthRules_fst members site.path]
  constructor
  · intro h
    -- the lengths are read first, then the pattern
    obtain ⟨_, rfl, p, hp, h⟩ := h
    exact ⟨_, by rw [hp]; rfl, (leaf_eq_ok rfl).mp h⟩
  · intro h
    obtain ⟨shape, hshape, h⟩ := h
    cases hp : Shape.pattern? members with
    | none => rw [hp] at hshape; cases hshape
    | some p =>
        rw [hp] at hshape
        cases hshape
        exact ⟨_, rfl, p, rfl, (leaf_eq_ok rfl).mpr h⟩

omit hnext in
/-- A number always does. -/
theorem number_eq_ok {members : Members} {integer : Bool} {site : Site} {v : Validator} :
    number members integer site = (.ok v.anonymous : Except CompileError _) ↔
      Layer options pool site.visited below
        (.number (Constraint.numberRules members integer "").1) v := by
  unfold number
  simp only [bind_eq_ok, noting_eq_ok, Constraint.numberRules_fst members integer site.path]
  constructor
  · intro h
    obtain ⟨_, rfl, h⟩ := h
    exact (leaf_eq_ok rfl).mp h
  · intro h
    exact ⟨_, rfl, (leaf_eq_ok rfl).mpr h⟩

/-- A node of one type comes to what the rule for the type says. -/
theorem typed_eq_ok (hfree : ∀ visited v, below visited .null v ↔ v = .any) {members : Members}
    {type : PrimitiveType} {site : Site} (hpool : site.pool.definitions = pool) {v : Validator} :
    typed options next members type site = .ok v.anonymous ↔
      ∃ shape, Shape.typed? options.formats members type = some shape ∧
        Layer options pool site.visited below shape v := by
  -- all types but strings have a shape at once
  have hsome : ∀ shape : Shape, Layer options pool site.visited below shape v ↔
      ∃ s, some shape = some s ∧ Layer options pool site.visited below s v := by
    simp
  cases type with
  | string => exact string_eq_ok
  | number => exact number_eq_ok.trans (hsome _)
  | integer => exact number_eq_ok.trans (hsome _)
  | boolean => exact (leaf_eq_ok rfl).trans (hsome .boolean)
  | null => exact (leaf_eq_ok rfl).trans (hsome .null)
  | array => exact (array_eq_ok hnext hfree hpool).trans (hsome _)
  | object => exact (object_eq_ok hnext hpool).trans (hsome _)

/-- A reference that has been entered is cut or deferred, and any other is followed, which
may fail for want of a definition. -/
theorem referenceAfresh_eq_ok {target : String} {site : Site}
    (hpool : site.pool.definitions = pool) {v : Validator} :
    referenceAfresh options next target site = .ok v.anonymous ↔
      Layer options pool site.visited below (.reference target) v := by
  -- the definition is compiled with the reference entered
  have hbelow : ∀ (definition : Json) (v : Validator), _ := fun definition v =>
    hnext definition (site.entered target) v hpool
  subst hpool
  constructor
  · intro h
    unfold referenceAfresh at h
    split at h
    · next hentered =>
      split at h
      -- data has been passed since it was entered, so the node waits
      · obtain ⟨d, rfl, hd⟩ := Validator.anonymous_eq_deferred (Except.ok.inj h).symm
        rw [Deferred.mk.injEq] at hd
        obtain ⟨-, rfl, hpool, hvisited, hoptions⟩ := hd
        exact .deferred hpool hvisited hoptions
      · next hnested =>
        -- no data has been passed, and nothing can be accepted
        obtain ⟨vs, rfl, hvs⟩ := Validator.anonymous_eq_union (Except.ok.inj h).symm
        rw [List.map_eq_nil_iff.mp hvs]
        exact .cut hentered (Bool.eq_false_iff.mpr hnested)
    · next hentered =>
      split at h
      · cases h
      · next definition hresolve =>
        -- it is new, and comes to what its definition does
        cases hfound : next definition (site.entered target) with
        | error e => rw [hfound] at h; cases h
        | ok w =>
            rw [hfound] at h
            obtain ⟨k, u, rfl, rfl⟩ := Validator.anonymous_eq_shared (Except.ok.inj h).symm
            exact .followed (Bool.eq_false_iff.mpr hentered) hresolve
              ((hbelow definition u).mp hfound)
  · intro h
    unfold referenceAfresh
    cases h with
    | leaf h => cases h
    | cut hentered hnested =>
        rw [if_pos hentered, dif_neg (Bool.eq_false_iff.mp hnested)]
        rfl
    | @deferred d hpool hvisited hoptions =>
        cases d
        cases hpool
        cases hvisited
        cases hoptions
        rw [if_pos (VisitedPath.contains_of_isNested ‹_›), dif_pos ‹_›]
        rfl
    | followed hentered hresolve h =>
        rw [if_neg (Bool.eq_false_iff.mp hentered), hresolve]
        simp only [(hbelow _ _).mpr h]
        rfl

/-- So a schema object comes to a layer over its shape. Which references are followed, and
how, is left open, since the compiler remembers some of them. -/
theorem schema_eq_ok (hfree : ∀ visited v, below visited .null v ↔ v = .any) {members : Members}
    {site : Site} (hpool : site.pool.definitions = pool) {v : Validator}
    {follow : String → Site → Except CompileError Validator}
    (hfollow : ∀ target, follow target site = .ok v.anonymous ↔
      Layer options pool site.visited below (.reference target) v) :
    schema options follow next members site = .ok v.anonymous ↔
      ∃ shape, shape? options.formats members = some shape ∧
        Layer options pool site.visited below shape v := by
  -- all kinds but those of one type have a shape in any case
  have hsome : ∀ shape : Shape, Layer options pool site.visited below shape v ↔
      ∃ s, some shape = some s ∧ Layer options pool site.visited below s v := by
    simp
  unfold schema shape?
  simp only [bind_eq_ok, noting_eq_ok, exists_eq_left']
  cases (SchemaKind.of members).1 with
  | reference target => exact (hfollow target).trans (hsome _)
  | union variants => exact (union_eq_ok hnext hpool).trans (hsome _)
  | typeList names => exact (typeList_eq_ok hnext hpool).trans (hsome _)
  | enum values => exact (leaf_eq_ok rfl).trans (hsome (.values values))
  | const value => exact (leaf_eq_ok rfl).trans (hsome (.values [value]))
  | primitive type => exact typed_eq_ok hnext hfree hpool
  | implicitObject => exact typed_eq_ok hnext hfree hpool
  | unconstrained => exact (leaf_eq_ok rfl).trans (hsome .anything)

end

end Compiler

end Conformance
