/-
Where the paths of errors lead.

An error names a place of the schema by a pointer, which the compiler writes as it goes
down. A reference starts it anew, at the definition. What it goes down into is mostly
what stands at the end of the pointer (`SchemaAt`). But some schemas are put together
from several places: an alternative that null is added to is laid over the schema around
it, and a type takes the place of the list it is in. Such a schema does not stand
anywhere, and the pointer written for it ends at the alternative, or at the type.

So the invariant of a branch (`Located`) speaks of keywords. Whatever a schema at hand
holds under one of them stands under it at a location that the pointer names, or at one
that it names when steps into alternatives or into types are left out (`Skips`). Where no
such step matters (`Direct`) there are none to leave out, and the pointer of an error is
right. Elsewhere it may lead nowhere (`pattern_beside_types`).
-/
import Conformance.Proofs.Compiler.Depth
import Conformance.Proofs.Compiler.Failure
import Conformance.Proofs.Json.Escapes

namespace Conformance

open Compiler

-- =========================================================== put together

/-- A keyword of an alternative laid over a schema is that of the alternative, or of the
schema where the alternative has none. -/
theorem Compiler.get?_merged {members result : Members} {alternative : Json}
    (hdistinct : alternative.Distinct)
    (hresult : Compiler.merged members alternative = .object result) {keyword : String}
    (hne : keyword ≠ "anyOf") :
    result.get? keyword = (alternative.member? keyword).or (members.get? keyword) := by
  cases hresult
  rw [Members.get?_erase_of_ne hne.symm]
  cases alternative with
  | object fields => exact Members.get?_merge (Members.Distinct.names hdistinct) keyword
  | _ => rfl

-- ============================================================ locations

/-- Where a schema object holds schemas. -/
inductive HoldsSchema : Location → Prop
  | alternative (index : String) : HoldsSchema ["anyOf", index]
  | items : HoldsSchema ["items"]
  | property (name : String) : HoldsSchema ["properties", name]
  | other : HoldsSchema ["additionalProperties"]

/-- The schemas of a document, each with its location: the document, its definitions,
and what the schema objects among them hold. -/
inductive SchemaAt (root : Json) : Location → Json → Prop
  | root : SchemaAt root [] root
  | definition {name : String} {schema : Json} (h : root.at? ["$defs", name] = some schema) :
      SchemaAt root ["$defs", name] schema
  | beneath {location back : Location} {members : Members} {schema : Json}
      (h : SchemaAt root location (.object members)) (hback : HoldsSchema back)
      (hat : (Json.object members).at? back = some schema) :
      SchemaAt root (location ++ back) schema

/-- The location is the one that was written, with some steps into alternatives and into
types left out. -/
inductive Skips : Location → Location → Prop
  | same (location : Location) : Skips location location
  | step {written location : Location} (h : Skips written location) (back : Location) :
      Skips (written ++ back) (location ++ back)
  | alternative {written location : Location} (h : Skips written location) (index : String) :
      Skips (written ++ ["anyOf", index]) location
  | type {written location : Location} (h : Skips written location) (index : String) :
      Skips (written ++ ["type", index]) location

/-- The keywords that hold schemas or patterns, other than `anyOf`. -/
def bodyKeywords : List String := ["pattern", "items", "properties", "additionalProperties"]

/-- Schemas are put together only where the pointer stays right. A list of types has null
and one other type in it, which is not a list. Where null is added to an alternative, the
schema around it holds nothing but what the alternative holds as well. -/
def Direct (root : Json) : Prop :=
  ∀ location (members : Members), SchemaAt root location (.object members) →
    (∀ names, members.get? "type" = some (.array names) →
      ∃ found, soleAlternative? isNullName names = some found ∧
        ∀ others, found.1 ≠ .array others) ∧
    ∀ variants found, members.get? "anyOf" = some (.array variants) →
      soleAlternative? isNullSchema variants = some found →
      ∀ keyword ∈ bodyKeywords, members.get? keyword ≠ none →
        found.1.member? keyword ≠ none

/-- The location is one that was written for it, and just the written one where no schemas
are put together but such as keep the pointer right. -/
def Fits (root : Json) (written location : Location) : Prop :=
  Skips written location ∧ (Direct root → location = written)

/-- What has members is an object. -/
theorem exists_object_of_member? {schema x : Json} {keyword : String}
    (h : schema.member? keyword = some x) :
    ∃ fields : Members, schema = .object fields ∧ fields.get? keyword = some x := by
  cases schema with
  | object fields => exact ⟨fields, rfl, h⟩
  | _ => cases h

namespace SchemaAt

variable {root schema : Json} {location : Location}

/-- A location at which a schema stands leads to that schema. -/
theorem at? (h : SchemaAt root location schema) : root.at? location = some schema := by
  induction h with
  | root => rfl
  | definition h => exact h
  | beneath _ _ hat ih => rw [Json.at?_append, ih, Option.bind_some, hat]

end SchemaAt

namespace Fits

variable {root : Json} {written location : Location}

/-- A location fits itself. -/
theorem same (root : Json) (location : Location) : Fits root location location :=
  ⟨.same location, fun _ => rfl⟩

/-- Both may be followed by the same steps. -/
theorem step (h : Fits root written location) (back : Location) :
    Fits root (written ++ back) (location ++ back) :=
  ⟨h.1.step back, fun hdirect => by rw [h.2 hdirect]⟩

end Fits

-- ======================================================== the invariant

/-- What the schema object at hand holds stands in the document, at locations that were
written for it. -/
structure Located (root : Json) (written : Location) (members : Members) : Prop where
  place : ∃ location schema, Fits root written location ∧ SchemaAt root location schema
  body : ∀ keyword ∈ bodyKeywords, ∀ x, members.get? keyword = some x →
    ∃ location, ∃ fields : Members, Fits root written location ∧
      SchemaAt root location (.object fields) ∧ fields.get? keyword = some x
  /-- A schema that alternatives decide has not been put together. -/
  alternatives : ∀ variants, members.get? "anyOf" = some (.array variants) →
    ∃ location, Fits root written location ∧ SchemaAt root location (.object members)
  types : Direct root → ∀ names, members.get? "type" = some (.array names) →
    ∃ found, soleAlternative? isNullName names = some found ∧ ∀ others, found.1 ≠ .array others

namespace Located

variable {root : Json} {written : Location} {members : Members}

/-- A schema that stands somewhere is located there. -/
theorem of_schemaAt {location : Location} (hfits : Fits root written location)
    (h : SchemaAt root location (.object members)) : Located root written members where
  place := ⟨location, _, hfits, h⟩
  body := fun _ _ _ hget => ⟨location, members, hfits, h, hget⟩
  alternatives := fun _ _ => ⟨location, hfits, h⟩
  types := fun hdirect => (hdirect location members h).1

/-- The alternative that null is added to, laid over the schema around it. -/
theorem merged {location : Location} {variants : List Json} {found : Json × Nat}
    (hroot : root.Distinct) (hfits : Fits root written location)
    (h : SchemaAt root location (.object members))
    (hget : members.get? "anyOf" = some (.array variants))
    (hfound : soleAlternative? isNullSchema variants = some found) {result : Members}
    (hresult : Compiler.merged members found.1 = .object result) :
    Located root (written ++ ["anyOf", toString found.2]) result := by
  -- the alternative stands in the list, at the number that is written
  have hat : (Json.object members).at? ["anyOf", toString found.2] = some found.1 := by
    rw [Json.at?_member hget, Json.at?_item (place_of_soleAlternative? hfound).1]
    rfl
  have hsole := h.beneath (.alternative _) hat
  have hfitsSole := hfits.step ["anyOf", toString found.2]
  have hdistinct := hroot.at? hsole.at?
  refine ⟨⟨_, _, hfitsSole, hsole⟩, fun keyword hkeyword x hx => ?_, fun others hothers => ?_,
    fun hdirect names hnames => ?_⟩
  -- every keyword is from the alternative or from around it
  · have hne : keyword ≠ "anyOf" := by
      rintro rfl
      revert hkeyword
      decide
    rw [get?_merged hdistinct hresult hne] at hx
    rcases Option.or_eq_some_iff.mp hx with hx | ⟨hnone, hx⟩
    · obtain ⟨fields, hfields, hx⟩ := exists_object_of_member? hx
      exact ⟨_, fields, hfitsSole, hfields ▸ hsole, hx⟩
    · -- the schema around holds what the alternative does not
      refine ⟨location, members, ⟨hfits.1.alternative _, fun hdirect => ?_⟩, h, hx⟩
      have hheld : members.get? keyword ≠ none := fun hnothing => nomatch hx.symm.trans hnothing
      exact absurd hnone
        ((hdirect location members h).2 variants found hget hfound keyword hkeyword hheld)
  -- the alternatives have been taken out
  · cases hresult
    rw [Members.get?_erase_self] at hothers
    cases hothers
  · rw [get?_merged hdistinct hresult (by decide)] at hnames
    rcases Option.or_eq_some_iff.mp hnames with hnames | ⟨-, hnames⟩
    · obtain ⟨fields, hfields, hnames⟩ := exists_object_of_member? hnames
      exact (hdirect _ fields (hfields ▸ hsole)).1 names hnames
    · exact (hdirect location members h).1 names hnames

/-- One of the types, in place of the list. -/
theorem withType {names : List Json} (h : Located root written members)
    (hkind : (SchemaKind.of members).1 = .typeList names) {written' : Location}
    (hfits : ∀ location, Fits root written location → Fits root written' location) {type : Json}
    (htype : Direct root → ∀ others, type ≠ .array others) :
    Located root written' (members.insert "type" type) := by
  obtain ⟨location, schema, hplace, hschema⟩ := h.place
  refine ⟨⟨location, schema, hfits _ hplace, hschema⟩, fun keyword hkeyword x hx => ?_,
    fun variants hvariants => ?_, fun hdirect others hothers => ?_⟩
  -- only the type is another
  · have hne : "type" ≠ keyword := by
      rintro rfl
      revert hkeyword
      decide
    rw [Members.get?_insert_of_ne hne] at hx
    obtain ⟨location, fields, hlocation, hfields, hx⟩ := h.body keyword hkeyword x hx
    exact ⟨location, fields, hfits _ hlocation, hfields, hx⟩
  -- a list of types is not looked at where there are alternatives
  · rw [Members.get?_insert_of_ne (by decide)] at hvariants
    exact absurd hvariants ((SchemaKind.get?_of_typeList hkind).2 variants)
  · rw [Members.get?_insert_self] at hothers
    exact absurd (Option.some.inj hothers) (htype hdirect others)

/-- What lies beneath a schema is compiled at a path that fits it. -/
theorem beneath (hroot : root.Distinct) (h : Located root written members) {site place : Site}
    {child : Json} (hpath : site.path = Pointer.extend "#" written)
    (hbeneath : Beneath members site child place) :
    ∃ written', place.path = Pointer.extend "#" written' ∧
      ∀ fields, child = .object fields → Located root written' fields := by
  -- steps down are written at the end
  have hbelow : ∀ back, Pointer.extend site.path back = Pointer.extend "#" (written ++ back) := by
    intro back
    rw [hpath, Pointer.extend_append]
  cases hbeneath with
  | sole hkind hfound =>
      have hget := SchemaKind.get?_of_union hkind
      obtain ⟨location, hfits, hat⟩ := h.alternatives _ hget
      exact ⟨_, hbelow _, fun fields hfields => merged hroot hfits hat hget hfound hfields⟩
  | @variant variants v hkind hnone hv =>
      have hget := SchemaKind.get?_of_union hkind
      obtain ⟨location, hfits, hat⟩ := h.alternatives _ hget
      refine ⟨_, hbelow _, fun fields hfields => of_schemaAt (hfits.step _) ?_⟩
      refine hat.beneath (.alternative _) ?_
      rw [Json.at?_member hget, Json.at?_item hv, hfields]
      rfl
  | soleType hkind hfound =>
      refine ⟨written, hpath, fun fields hfields => ?_⟩
      cases hfields
      refine h.withType hkind (fun _ hfits => hfits) fun hdirect => ?_
      obtain ⟨found, hsole, hsingle⟩ := h.types hdirect _ (SchemaKind.get?_of_typeList hkind).1
      cases hsole.symm.trans hfound
      exact hsingle
  | @type names n hkind hnone hn =>
      -- a list without a sole type beside null is not direct
      have hnotDirect : ¬ Direct root := by
        intro hdirect
        obtain ⟨found, hsole, -⟩ := h.types hdirect _ (SchemaKind.get?_of_typeList hkind).1
        cases hsole.symm.trans hnone
      refine ⟨_, hbelow _, fun fields hfields => ?_⟩
      cases hfields
      exact h.withType hkind
        (fun _ hfits => ⟨hfits.1.type _, fun hdirect => absurd hdirect hnotDirect⟩)
        fun hdirect => absurd hdirect hnotDirect
  -- the rest are held under a keyword, wherever that stands
  | @items fields hkind hget =>
      obtain ⟨location, outer, hfits, hat, hget⟩ := h.body "items" (by decide) _ hget
      refine ⟨_, hbelow _, fun fields hfields => of_schemaAt (hfits.step _) (hat.beneath .items ?_)⟩
      rw [Json.at?_member hget, hfields]
      rfl
  | @property declared e hkind hget he =>
      obtain ⟨location, outer, hfits, hat, hget⟩ := h.body "properties" (by decide) _ hget
      have hdeclared : Members.Distinct declared :=
        Members.Distinct.get? (hroot.at? hat.at?) hget
      refine ⟨_, hbelow _, fun fields hfields => of_schemaAt (hfits.step _)
        (hat.beneath (.property _) ?_)⟩
      rw [Json.at?_member hget,
        Json.at?_member ((Members.get?_eq_some_iff hdeclared.names).mpr he), hfields]
      rfl
  | other hkind hget hschema =>
      obtain ⟨location, outer, hfits, hat, hget⟩ :=
        h.body "additionalProperties" (by decide) _ hget
      refine ⟨_, hbelow _, fun fields hfields => of_schemaAt (hfits.step _) (hat.beneath .other ?_)⟩
      rw [Json.at?_member hget, hfields]
      rfl

end Located

-- ========================================================== along a branch

/-- The definitions of the document are in force, and the schema at hand is located where
its path was written for. -/
structure Tracked (root : Json) (defs : Members) (place : Json × Site) : Prop where
  drawn : Drawn root place
  pool : ∀ members, place.1 = .object members →
    place.2.pool.definitions.inForce members = ⟨defs⟩
  located : ∃ written, place.2.path = Pointer.extend "#" written ∧
    ∀ members, place.1 = .object members → Located root written members

namespace Tracked

variable {root : Json} {members defs : Members}

/-- The compiler starts at the root, with an empty pointer. -/
theorem start (hroot : root = .object members)
    (hdefs : members.get? "$defs" = some (.object defs)) : Tracked root defs (root, .root) where
  drawn := .root root
  pool := by
    intro others heq
    cases hroot.symm.trans heq
    show Definitions.declaredBy members = _
    rw [Definitions.declaredBy, hdefs]
  located := ⟨[], rfl, fun _ heq => .of_schemaAt (.same root []) (heq ▸ .root)⟩

/-- With definitions in force none come into force. -/
theorem inForce_of_ne_nil (hnonempty : defs ≠ []) (others : Members) :
    Definitions.inForce ⟨defs⟩ others = ⟨defs⟩ :=
  Definitions.inForce_of_nonempty (by simpa [Definitions.isEmpty] using hnonempty) others

/-- Every call leads from a located schema to a located one. -/
theorem calls (hdistinct : root.Distinct) (hroot : root = .object members)
    (hdefs : members.get? "$defs" = some (.object defs)) (hnonempty : defs ≠ [])
    (hreferences : ∀ r ∈ root.references, ∃ name, r = "#/$defs/" ++ Pointer.escape name)
    {caller callee : Json × Site} (h : Tracked root defs caller) (hcall : Calls caller callee) :
    Tracked root defs callee := by
  obtain ⟨written, hpath, hlocated⟩ := h.located
  cases hcall with
  | @beneath members site place child hbeneath =>
      -- what lies beneath has the definitions that are in force
      have hpool : place.pool.definitions = ⟨defs⟩ := by
        rw [hbeneath.same.1]
        exact h.pool members rfl
      have hforce : (site.inForce members).path = Pointer.extend "#" written := hpath
      have hplace := (hlocated members rfl).beneath hdistinct hforce hbeneath
      refine ⟨h.drawn.calls (.beneath hbeneath), fun others _ => ?_, hplace⟩
      rw [hpool, inForce_of_ne_nil hnonempty]
  | @definition fields site target definition hkind hnew hresolve =>
      have hpool : site.pool.definitions.inForce fields = ⟨defs⟩ := h.pool fields rfl
      -- the reference names a definition, so it leads to where that stands
      have hget := (SchemaKind.of_eq_reference_iff.mp hkind).1
      obtain ⟨name, rfl⟩ := hreferences target
        (h.drawn.schema.references (Json.mem_references_of_get? hget))
      have hname : defs.get? name = some definition := by
        rw [hpool] at hresolve
        exact (Definitions.resolve?_referenceTo ⟨defs⟩ "#/$defs" name).symm.trans hresolve
      have hat : root.at? ["$defs", name] = some definition := by
        rw [hroot, Json.at?_member hdefs, Json.at?_member hname]
        rfl
      refine ⟨h.drawn.calls (.definition hkind hnew hresolve), fun others _ => ?_,
        ["$defs", name], rfl, fun others heq => ?_⟩
      · show Definitions.inForce (site.pool.definitions.inForce fields) others = ⟨defs⟩
        rw [hpool, inForce_of_ne_nil hnonempty]
      · exact .of_schemaAt (.same root _) (.definition (heq ▸ hat))

end Tracked

-- ================================================================ errors

/-- The path of an error is a pointer from the root. It leads to the pattern that cannot
be read, or to the schema that is too deep, if steps into alternatives and into types are
left out of it where they have to be. None have to be where schemas are put together only
in such ways that the pointer stays right. -/
theorem error_paths {root : Json} {members defs : Members} {options : CompileOptions}
    {e : CompileError} (hdistinct : root.Distinct) (hroot : root = .object members)
    (hdefs : members.get? "$defs" = some (.object defs)) (hnonempty : defs ≠ [])
    (hreferences : ∀ r ∈ root.references, ∃ name, r = "#/$defs/" ++ Pointer.escape name)
    (h : (compile root options).result = .error e) :
    (∀ path pattern error, e = .invalidPattern path pattern error →
      path = Pointer.extend "#" (Pointer.segments path) ∧
      (Direct root → root.at? (Pointer.segments path) = some (.string pattern)) ∧
      ∃ location, Skips (Pointer.segments path) location ∧
        root.at? location = some (.string pattern)) ∧
    ∀ path limit, e = .depthExceeded path limit →
      path = Pointer.extend "#" (Pointer.segments path) ∧
      (Direct root → ∃ schema, SchemaAt root (Pointer.segments path) schema) ∧
      ∃ location schema, Skips (Pointer.segments path) location ∧
        SchemaAt root location schema := by
  obtain ⟨_, _, last, -, hbranch, hfails⟩ := arises_of_compile h
  -- along the branch to the failure all places are tracked
  have htracked : Tracked root defs last := by
    clear hfails
    induction hbranch with
    | root => exact .start hroot hdefs
    | step _ hcall ih => exact ih.calls hdistinct hroot hdefs hnonempty hreferences hcall
  obtain ⟨written, hpath, hlocated⟩ := htracked.located
  have hsegments : ∀ written, Pointer.segments (Pointer.extend "#" written) = written :=
    Pointer.segments_extend (by decide)
  constructor
  · rintro path pattern error rfl
    cases hfails with
    | @pattern _ members site source error hkind hsource herror =>
        have hget := (pattern_eq_some_iff.mp hsource).1
        obtain ⟨location, fields, hfits, hat, hget⟩ :=
          (hlocated members rfl).body "pattern" (by decide) _ hget
        have hbelow : Pointer.extend site.path ["pattern"]
            = Pointer.extend "#" (written ++ ["pattern"]) := by
          rw [hpath, Pointer.extend_append]
        -- what cannot be read stands one step further down
        have hreached : root.at? (location ++ ["pattern"]) = some (.string pattern) := by
          rw [Json.at?_append, hat.at?]
          exact (Json.at?_member hget []).trans rfl
        obtain ⟨hskips, hdirect⟩ := hfits.step ["pattern"]
        show Pointer.extend site.path ["pattern"] = _ ∧ _
        simp only [Site.below]
        rw [hbelow, hsegments]
        exact ⟨rfl, fun h => hdirect h ▸ hreached, _, hskips, hreached⟩
  · rintro path limit rfl
    cases hfails with
    | @depth members site =>
        obtain ⟨location, schema, hfits, hat⟩ := (hlocated members rfl).place
        rw [hpath, hsegments]
        exact ⟨rfl, fun h => ⟨schema, hfits.2 h ▸ hat⟩, location, schema, hfits.1, hat⟩

/-- A code whose pattern cannot be read. -/
def codeSchema : Members := [("type", .string "string"), ("pattern", .string "(")]

/-- A list of codes. -/
def codesSchema : Members :=
  [("type", .string "array"), ("items", .object [("$ref", .string "#/$defs/a~1b")]),
   ("$defs", .object [("a/b", .object codeSchema)])]

/-- In the list of codes no schemas are put together. -/
theorem direct_codes : Direct (.object codesSchema) := by
  -- none of the schemas lists types or alternatives
  have hschemas : ∀ location schema, SchemaAt (.object codesSchema) location schema →
      schema = .object codesSchema ∨ schema = .object [("$ref", .string "#/$defs/a~1b")] ∨
        schema = .object codeSchema := by
    intro location schema h
    induction h with
    | root => exact .inl rfl
    | @definition name _ h =>
        obtain ⟨_, hget, hat⟩ := Option.bind_eq_some_iff.mp h
        cases hget
        obtain ⟨definition, hget, hat⟩ := Option.bind_eq_some_iff.mp hat
        cases hat
        cases List.mem_singleton.mp (Members.mem_of_get? hget)
        exact .inr (.inr rfl)
    | beneath _ hback hat ih =>
        rcases ih with ih | ih | ih <;> cases ih <;> cases hback <;> cases hat
        exact .inr (.inl rfl)
  intro location members h
  refine ⟨fun names hnames => ?_, fun variants found hvariants => ?_⟩
  · rcases hschemas _ _ h with hmem | hmem | hmem <;> cases hmem <;> cases hnames
  · rcases hschemas _ _ h with hmem | hmem | hmem <;> cases hmem <;> cases hvariants

/-- The path of the error leads into the definition, whose name has a slash in it. -/
theorem error_paths_codes : ∃ path error,
    (compile (.object codesSchema)).result = .error (.invalidPattern path "(" error) ∧
    path = Pointer.extend "#" ["$defs", "a/b", "pattern"] ∧
    (Json.object codesSchema).at? (Pointer.segments path) = some (.string "(") := by
  have hdistinct : (Json.object codesSchema).Distinct := by
    simp [codesSchema, codeSchema, Members.names]
  have hreferences : ∀ r ∈ (Json.object codesSchema).references,
      ∃ name, r = "#/$defs/" ++ Pointer.escape name := by
    intro r hr
    cases List.mem_singleton.mp hr
    exact ⟨"a/b", rfl⟩
  have herror : (compile (.object codesSchema)).result = .error _ := rfl
  have hpaths := error_paths hdistinct rfl rfl (by simp) hreferences herror
  exact ⟨_, _, rfl, rfl, (hpaths.1 _ _ _ rfl).2.1 direct_codes⟩

/-- Texts and numbers, with a pattern that cannot be read. -/
def pairsSchema : Members :=
  [("$defs", .object [("a", .bool true)]),
   ("type", .array [.string "string", .string "integer"]), ("pattern", .string "(")]

/-- The path of the error leads to one of the types, and from there nowhere. -/
theorem pattern_beside_types :
    (Json.object pairsSchema).Distinct ∧ (Json.object pairsSchema).references = [] ∧
    ∃ path error,
      (compile (.object pairsSchema)).result = .error (.invalidPattern path "(" error) ∧
      path = "#/type/0/pattern" ∧
      (Json.object pairsSchema).at? (Pointer.segments path) = none ∧
      (Json.object pairsSchema).at? ["type", "0"] = some (.string "string") ∧
      (Json.object pairsSchema).at? ["pattern"] = some (.string "(") := by
  have hdistinct : (Json.object pairsSchema).Distinct := by
    simp [pairsSchema, Members.names]
  exact ⟨hdistinct, rfl, _, _, rfl, rfl, rfl, rfl, rfl⟩

end Conformance
