/-
Lists of types.

A list of types stands for one schema for each of them, the same but for its type.
Most lists become a union of these. Where all types but one are null the compiler
takes a shortcut: it compiles the schema with the other type only, and makes it
optional.

Whether that is the union depends on what the schema with the type null asks for. It
asks for null, unless it lists values or names one: these come before a type. Then
every type asks for the same values, null among the others, while the shortcut lets null
through whatever the values are (`check_null_of_listed`). This is the only difference
(`check_typeList_iff`).
-/
import Conformance.Proofs.Compiler.Failure
import Conformance.Proofs.Meaning.Compiled

namespace Conformance

open Compiler

-- ====================================================== one of the types

/-- Values come before the type: the schema lists some, or names one. -/
def Members.DecidedByValues (members : Members) : Prop :=
  (∃ values, members.get? "enum" = some (.array values)) ∨ (members.get? "const").isSome

/-- The type is itself a list of types. -/
def Json.IsList (x : Json) : Prop := ∃ values, x = .array values

namespace Members

variable {members : Members} {names : List Json}

/-- With one type in the place of the list, the values decide, or the type. -/
theorem kind_insert_single (hkind : (SchemaKind.of members).1 = .typeList names) {type : Json}
    (htype : ¬ type.IsList) :
    (SchemaKind.of (members.insert "type" type)).1
      = (SchemaKind.ofValues (members.insert "type" type)).1 :=
  SchemaKind.of_insert_single hkind fun others heq => htype ⟨others, heq⟩

/-- Beside values each type alone asks for these values. -/
theorem exists_values (hkind : (SchemaKind.of members).1 = .typeList names)
    (hvalues : members.DecidedByValues) (formats : FormatPolicy) :
    ∃ values, ∀ type : Json, ¬ type.IsList →
      shape? formats (members.insert "type" type) = some (.values values) := by
  -- a list of values comes first, and a single value counts where there is none
  by_cases hlisted : ∃ values, members.get? "enum" = some (.array values)
  · obtain ⟨values, hlisted⟩ := hlisted
    refine ⟨values, fun type htype => ?_⟩
    rw [shape?, kind_insert_single hkind htype, SchemaKind.ofValues,
      get?_insert_of_ne (by decide), hlisted]
  · obtain ⟨value, hvalue⟩ := Option.isSome_iff_exists.mp (hvalues.resolve_left hlisted)
    refine ⟨[value], fun type htype => ?_⟩
    rw [shape?, kind_insert_single hkind htype, SchemaKind.ofValues,
      get?_insert_of_ne (by decide), get?_insert_of_ne (by decide), hvalue]
    cases henum : members.get? "enum" with
    | none => rfl
    | some listed =>
        cases listed with
        | array values => exact absurd ⟨values, henum⟩ hlisted
        | _ => rfl

/-- Beside no values the type null asks for null. -/
theorem shape?_insert_null (hkind : (SchemaKind.of members).1 = .typeList names)
    (hvalues : ¬ members.DecidedByValues) (formats : FormatPolicy) :
    shape? formats (members.insert "type" (.string "null")) = some .null := by
  obtain ⟨hlisted, hnamed⟩ := not_or.mp hvalues
  have hnone : members.get? "const" = none := Option.not_isSome_iff_eq_none.mp hnamed
  have hprimitive : SchemaKind.ofType (members.insert "type" (.string "null"))
      = .primitive .null := by
    rw [SchemaKind.ofType, SchemaKind.primitive?, get?_insert_self]
    rfl
  have hlist : ¬ (Json.string "null").IsList := by
    rintro ⟨values, heq⟩
    cases heq
  rw [shape?, kind_insert_single hkind hlist, SchemaKind.ofValues,
    get?_insert_of_ne (by decide), get?_insert_of_ne (by decide), hnone]
  cases henum : members.get? "enum" with
  | none => simp only [hprimitive]; rfl
  | some listed =>
      cases listed with
      | array values => exact absurd ⟨values, henum⟩ hlisted
      | _ => simp only [hprimitive]; rfl

/-- What is put in last stays. -/
theorem insert_insert (members : Members) (name : String) (old value : Json) :
    (members.insert name old).insert name value = members.insert name value := by
  induction members with
  | nil => simp only [insert, if_pos]
  | cons m rest ih =>
      obtain ⟨n, v⟩ := m
      by_cases hn : n = name
      · simp only [insert, if_pos hn]
      · simp only [insert, if_neg hn, ih]

/-- Whether values decide does not depend on the type. -/
theorem decidedByValues_insert_type {type : Json} :
    (members.insert "type" type).DecidedByValues ↔ members.DecidedByValues := by
  rw [DecidedByValues, DecidedByValues, get?_insert_of_ne (by decide),
    get?_insert_of_ne (by decide)]

end Members

-- =========================================================== definitions

/-- A schema with its type replaced has the definitions of the schema. -/
theorem Definitions.inForce_insert_type (pool : Definitions) (members : Members) (type : Json) :
    pool.inForce (members.insert "type" type) = pool.inForce members := by
  rw [inForce, inForce, declaredBy, declaredBy, Members.get?_insert_of_ne (by decide),
    Members.get?_insert_of_ne (by decide)]

/-- To declare the same once more changes nothing. -/
theorem Definitions.inForce_inForce (pool : Definitions) (members : Members) :
    (pool.inForce members).inForce members = pool.inForce members := by
  cases hempty : pool.isEmpty with
  | false => rw [inForce_of_nonempty hempty, inForce_of_nonempty hempty]
  | true =>
      have hforce : pool.inForce members = declaredBy members := if_pos hempty
      rw [hforce, inForce, ite_self]

-- =============================================================== meaning

section

variable {formats : FormatPolicy} {pool : Definitions} {members : Members} {names : List Json}
variable {x : Json}

/-- With a type of the list in place of the list, a schema means the same in its own
pool and in the one around it. -/
theorem satisfies_withType_inForce {type : Json} {data : Data} :
    Satisfies formats (pool.inForce members) (withType members type) data ↔
      Satisfies formats pool (withType members type) data := by
  simp only [withType, satisfies_object_iff, Definitions.inForce_insert_type,
    Definitions.inForce_inForce]

/-- A list that the shortcut is not taken for is the union of its types. -/
theorem satisfies_names_iff (hkind : (SchemaKind.of members).1 = .typeList names)
    (hsole : soleAlternative? isNullName names = none) :
    Satisfies formats pool (.object members) (some x) ↔
      ∃ type ∈ names, Satisfies formats pool (withType members type) (some x) := by
  have hshape : shape? formats members = some (.union (names.map (withType members))) := by
    rw [shape?_of_typeList formats hkind, Shape.ofNames, hsole]
  rw [satisfies_object_iff, hshape]
  simp only [Option.some.injEq, exists_eq_left']
  constructor
  · intro h
    cases h with
    | alternative hschema h =>
        obtain ⟨type, htype, rfl⟩ := List.mem_map.mp hschema
        exact ⟨type, htype, satisfies_withType_inForce.mp h⟩
  · intro h
    obtain ⟨type, htype, h⟩ := h
    exact .alternative (List.mem_map_of_mem htype) (satisfies_withType_inForce.mpr h)

/-- The shortcut adds null to the one type that is not null. -/
theorem satisfies_sole_iff (hkind : (SchemaKind.of members).1 = .typeList names)
    {found : Json × Nat} (hsole : soleAlternative? isNullName names = some found) :
    Satisfies formats pool (.object members) (some x) ↔
      x = .null ∨ Satisfies formats pool (withType members found.1) (some x) := by
  have hshape : shape? formats members = some (.optional (withType members found.1)) := by
    rw [shape?_of_typeList formats hkind, Shape.ofNames, hsole]
  rw [satisfies_object_iff, hshape]
  simp only [Option.some.injEq, exists_eq_left']
  constructor
  · intro h
    cases h with
    | null => exact .inl rfl
    | inner h => exact .inr (satisfies_withType_inForce.mp h)
  · intro h
    rcases h with rfl | h
    · exact .null _
    · exact .inner (satisfies_withType_inForce.mpr h)

/-- Beside no values the schema with the type null holds of null only. -/
theorem satisfies_withType_null_iff (hkind : (SchemaKind.of members).1 = .typeList names)
    (hvalues : ¬ members.DecidedByValues) :
    Satisfies formats pool (withType members (.string "null")) (some x) ↔ x = .null := by
  have hshape := Members.shape?_insert_null hkind hvalues formats
  rw [withType, satisfies_object_iff]
  constructor
  · intro h
    obtain ⟨_, hsome, hmeets⟩ := h
    cases hshape.symm.trans hsome
    cases hmeets
    rfl
  · rintro rfl
    exact ⟨.null, hshape, .nullType⟩

/-- Beside values a type that is no list asks for what any other asks for. -/
theorem Satisfies.of_single (hkind : (SchemaKind.of members).1 = .typeList names)
    (hvalues : members.DecidedByValues) {type other : Json} (htype : ¬ type.IsList)
    (hother : ¬ other.IsList) (h : Satisfies formats pool (withType members type) (some x)) :
    Satisfies formats pool (withType members other) (some x) := by
  obtain ⟨values, hshape⟩ := Members.exists_values hkind hvalues formats
  obtain ⟨shape, hsome, hmeets⟩ := satisfies_object_iff.mp h
  cases (hshape type htype).symm.trans hsome
  refine satisfies_object_iff.mpr ⟨_, hshape other hother, ?_⟩
  cases hmeets with
  | value hy hsame => exact .value hy hsame

/-- A schema with a list of types holds of what it holds of with one of them, unless the
shortcut meets values. -/
theorem satisfies_typeList_iff (hkind : (SchemaKind.of members).1 = .typeList names)
    (hplain : soleAlternative? isNullName names = none ∨ ¬ members.DecidedByValues) :
    Satisfies formats pool (.object members) (some x) ↔
      ∃ type ∈ names, Satisfies formats pool (withType members type) (some x) := by
  cases hsole : soleAlternative? isNullName names with
  | none => exact satisfies_names_iff hkind hsole
  | some found =>
      -- the shortcut is taken, and beside no values the type null means null
      have hvalues : ¬ members.DecidedByValues :=
        hplain.resolve_left fun hnone => nomatch hsole.symm.trans hnone
      rw [satisfies_sole_iff hkind hsole]
      constructor
      · intro h
        rcases h with rfl | h
        · obtain ⟨name, hname, hnull⟩ := exists_isNull_of_soleAlternative? hsole
          cases eq_null_of_isNullName hnull
          exact ⟨_, hname, (satisfies_withType_null_iff hkind hvalues).mpr rfl⟩
        · exact ⟨found.1, mem_of_soleAlternative? hsole, h⟩
      · intro h
        obtain ⟨name, hname, h⟩ := h
        rcases eq_or_isNull_of_soleAlternative? hsole hname with rfl | hnull
        · exact .inr h
        · cases eq_null_of_isNullName hnull
          exact .inl ((satisfies_withType_null_iff hkind hvalues).mp h)

/-- Whatever a schema with a list of types holds of, other than null, it holds of with
one of them. -/
theorem exists_type_of_satisfies (hkind : (SchemaKind.of members).1 = .typeList names)
    (h : Satisfies formats pool (.object members) (some x)) (hx : x ≠ .null) :
    ∃ type ∈ names, Satisfies formats pool (withType members type) (some x) ∧
      ∀ found, soleAlternative? isNullName names = some found → type = found.1 := by
  cases hsole : soleAlternative? isNullName names with
  | none =>
      obtain ⟨type, htype, h⟩ := (satisfies_names_iff hkind hsole).mp h
      exact ⟨type, htype, h, fun _ hfound => nomatch hfound⟩
  | some found =>
      refine ⟨found.1, mem_of_soleAlternative? hsole,
        ((satisfies_sole_iff hkind hsole).mp h).resolve_left hx, fun other hother => ?_⟩
      cases hother
      rfl

/-- The name of null is no list. -/
theorem not_isList_of_isNullName {name : Json} (h : isNullName name = true) : ¬ name.IsList := by
  cases eq_null_of_isNullName h
  rintro ⟨values, heq⟩
  cases heq

/-- Where a list becomes one that the shortcut is taken for, by a name put in, the type
that was chosen from it is still the one taken, or neither is a list. -/
theorem eq_sole_or_of_added {front back : List Json} {name type : Json} {sole : Json × Nat}
    (hsole : soleAlternative? isNullName (front ++ name :: back) = some sole)
    (htype : type ∈ front ++ back)
    (hfound : ∀ found, soleAlternative? isNullName (front ++ back) = some found → type = found.1)
    (hname : ¬ name.IsList ∨ ∃ other ∈ front ++ back, isNullName other = false) :
    type = sole.1 ∨ ¬ type.IsList ∧ ¬ sole.1.IsList := by
  -- the type is still in the list, so it is the one taken or null
  have hmem : ∀ {other}, other ∈ front ++ back → other ∈ front ++ name :: back := fun hother =>
    ((List.sublist_cons_self name back).append_left front).subset hother
  rcases eq_or_isNull_of_soleAlternative? hsole (hmem htype) with heq | hnull
  · exact .inl heq
  · refine .inr ⟨not_isList_of_isNullName hnull, ?_⟩
    have hone := (soleAlternative?_isSome_iff.mp (Option.isSome_of_eq_some hsole)).1
    rw [List.countP_append, List.countP_cons] at hone
    by_cases hothers : ∃ other ∈ front ++ back, isNullName other = false
    · -- the shortcut was taken before, and not for the type null
      obtain ⟨other, hother, hnot⟩ := hothers
      have hpos : 0 < (front ++ back).countP fun a => !isNullName a :=
        List.countP_pos_iff.mpr ⟨other, hother, by rw [hnot]; rfl⟩
      have hposNull : 0 < (front ++ back).countP isNullName :=
        List.countP_pos_iff.mpr ⟨type, htype, hnull⟩
      have hlength : (front ++ back).length = (front ++ back).countP isNullName
          + (front ++ back).countP fun a => !isNullName a := by
        simpa only [Bool.not_eq_true, Bool.decide_eq_false]
          using (front ++ back).length_eq_countP_add_countP isNullName
      have hsome : (soleAlternative? isNullName (front ++ back)).isSome := by
        refine soleAlternative?_isSome_iff.mpr ⟨?_, ?_⟩
        · rw [List.countP_append] at hpos ⊢
          omega
        · omega
      obtain ⟨found, hbefore⟩ := Option.isSome_iff_exists.mp hsome
      have hnot := (place_of_soleAlternative? hbefore).2
      rw [← hfound found hbefore, hnull] at hnot
      cases hnot
    · -- all were null, so the type taken is the one that was put in
      have hsoleName : sole.1 = name := by
        have hnot := (place_of_soleAlternative? hsole).2
        rcases List.mem_append.mp (mem_of_soleAlternative? hsole) with hin | hin
        · exact absurd ⟨_, List.mem_append_left _ hin, hnot⟩ hothers
        · rcases List.mem_cons.mp hin with heq | hin
          · exact heq
          · exact absurd ⟨_, List.mem_append_right _ hin, hnot⟩ hothers
      rw [hsoleName]
      exact hname.resolve_right hothers

/-- What a schema with a list of types holds of, it holds of with one type more, unless
the shortcut meets values: there null may be lost, and with a list put among nulls other
values. -/
theorem Satisfies.add_type {front back : List Json} {name : Json}
    (hkind : (SchemaKind.of members).1 = .typeList (front ++ back))
    (hkept : ¬ members.DecidedByValues ∨
      x ≠ .null ∧ (¬ name.IsList ∨ ∃ other ∈ front ++ back, isNullName other = false))
    (h : Satisfies formats pool (.object members) (some x)) :
    Satisfies formats pool (withType members (.array (front ++ name :: back))) (some x) := by
  have hkind' := SchemaKind.of_insert_list hkind (front ++ name :: back)
  have hsubset : ∀ type ∈ front ++ back, type ∈ front ++ name :: back := fun type htype =>
    ((List.sublist_cons_self name back).append_left front).subset htype
  have hover : ∀ type, withType (members.insert "type" (.array (front ++ name :: back))) type
      = withType members type := fun type =>
    congrArg Json.object (Members.insert_insert ..)
  by_cases hvalues : members.DecidedByValues
  · obtain ⟨hx, hname⟩ := hkept.resolve_left (not_not.mpr hvalues)
    obtain ⟨type, htype, h, hfound⟩ := exists_type_of_satisfies hkind h hx
    cases hsole : soleAlternative? isNullName (front ++ name :: back) with
    | none =>
        refine (satisfies_names_iff hkind' hsole).mpr ⟨type, hsubset type htype, ?_⟩
        rwa [hover]
    | some sole =>
        refine (satisfies_sole_iff hkind' hsole).mpr (.inr ?_)
        rw [hover]
        rcases eq_sole_or_of_added hsole htype hfound hname with rfl | ⟨hsingle, hother⟩
        · exact h
        · exact h.of_single hkind hvalues hsingle hother
  · have hplain : ¬ (members.insert "type" (.array (front ++ name :: back))).DecidedByValues :=
      fun h => hvalues (Members.decidedByValues_insert_type.mp h)
    obtain ⟨type, htype, h⟩ := (satisfies_typeList_iff hkind (.inr hvalues)).mp h
    refine (satisfies_typeList_iff hkind' (.inr hplain)).mpr ⟨type, hsubset type htype, ?_⟩
    rwa [hover]

end

-- ============================================================ validators

section

variable {pool : Definitions} {options : CompileOptions} {members : Members}

/-- The validator of the schema with one type accepts the value. -/
def AcceptsAs (pool : Definitions) (options : CompileOptions) (members : Members)
    (type x : Json) : Prop :=
  ∃ w, (compileNode (withType members type) pool .empty options).result = .ok w ∧
    w.check x = true

theorem check_iff_of_compileNode {schema : Json} {v : Validator}
    (h : (compileNode schema pool .empty options).result = .ok v) (x : Json) :
    v.check x = true ↔ Satisfies options.formats pool schema (some x) :=
  (Stands.of_compileNode h).accepts_iff_satisfies (some x)

/-- To accept with one of the types is to satisfy the schema with that type. -/
theorem acceptsAs_iff {type x : Json}
    (h : ∃ w, (compileNode (withType members type) pool .empty options).result = .ok w) :
    AcceptsAs pool options members type x ↔
      Satisfies options.formats pool (withType members type) (some x) := by
  obtain ⟨w, hw⟩ := h
  constructor
  · intro h
    obtain ⟨u, hu, haccepts⟩ := h
    exact (check_iff_of_compileNode hu x).mp haccepts
  · intro h
    exact ⟨w, hw, (check_iff_of_compileNode hw x).mpr h⟩

end

/-- A schema with a list of types accepts what it accepts with one of them, unless the
shortcut for null meets values. There it accepts null, and what it accepts with the type
that is not null. One more type in the list costs no value, unless it meets values: there
it may cost null, and nothing else but where a list is put among nulls. -/
theorem check_typeList_iff {members : Members} {names : List Json} {pool : Definitions}
    {options : CompileOptions} {v : Validator}
    (hkind : (SchemaKind.of members).1 = .typeList names)
    (hv : (compileNode (.object members) pool .empty options).result = .ok v)
    (hnames : ∀ name ∈ names, ∃ w,
      (compileNode (withType members name) pool .empty options).result = .ok w) :
    (soleAlternative? isNullName names = none ∨ ¬ members.DecidedByValues →
      ∀ x, v.check x = true ↔ ∃ name ∈ names, AcceptsAs pool options members name x) ∧
    (∀ found, soleAlternative? isNullName names = some found →
      ∀ x, v.check x = true ↔ x = .null ∨ AcceptsAs pool options members found.1 x) ∧
    ∀ front name back v', names = front ++ back →
      (compileNode (withType members (.array (front ++ name :: back))) pool .empty
        options).result = .ok v' →
      ∀ x, v.check x = true →
        (¬ members.DecidedByValues ∨
          x ≠ .null ∧ (¬ name.IsList ∨ ∃ other ∈ names, isNullName other = false)) →
        v'.check x = true := by
  refine ⟨fun hplain x => ?_, fun found hsole x => ?_, ?_⟩
  · rw [check_iff_of_compileNode hv, satisfies_typeList_iff hkind hplain]
    exact exists_congr fun name => and_congr_right fun hname =>
      (acceptsAs_iff (hnames name hname)).symm
  · rw [check_iff_of_compileNode hv, satisfies_sole_iff hkind hsole,
      acceptsAs_iff (hnames _ (mem_of_soleAlternative? hsole))]
  · rintro front name back v' rfl hv' x hx hkept
    rw [check_iff_of_compileNode hv] at hx
    exact (check_iff_of_compileNode hv' x).mpr (hx.add_type hkind hkept)

/-- A short text, or null. -/
def shortTextOrNull : Members :=
  [("type", .array [.string "null", .string "string"]), ("maxLength", .number (.whole 3))]

/-- A length applies to texts only, so null is accepted beside it. One more type is put
between the two. -/
theorem check_typeList_iff_shortTextOrNull : ∃ v,
    (compileNode (.object shortTextOrNull) {} .empty {}).result = .ok v ∧
    (∀ x, v.check x = true ↔ ∃ name ∈ [.string "null", .string "string"],
      AcceptsAs {} {} shortTextOrNull name x) ∧
    ∃ v', (compileNode (withType shortTextOrNull
        (.array [.string "null", .string "integer", .string "string"])) {} .empty {}).result
          = .ok v' ∧ ∀ x, v.check x = true → v'.check x = true := by
  have hv : (compileNode (.object shortTextOrNull) {} .empty {}).result = .ok _ := rfl
  have hv' : (compileNode (withType shortTextOrNull
      (.array [.string "null", .string "integer", .string "string"])) {} .empty {}).result
        = .ok _ := rfl
  have hvalues : ¬ Members.DecidedByValues shortTextOrNull := by
    rintro (⟨values, hlisted⟩ | hnamed)
    · cases hlisted
    · cases hnamed
  have hnames : ∀ name ∈ [.string "null", .string "string"], ∃ w,
      (compileNode (withType shortTextOrNull name) {} .empty {}).result = .ok w := by
    intro name hname
    rcases List.mem_pair.mp hname with rfl | rfl
    · exact ⟨_, rfl⟩
    · exact ⟨_, rfl⟩
  obtain ⟨hunion, -, hmore⟩ := check_typeList_iff rfl hv hnames
  exact ⟨_, hv, hunion (.inr hvalues), _, hv', fun x hx =>
    hmore [.string "null"] (.string "integer") [.string "string"] _ rfl hv' x hx (.inl hvalues)⟩

/-- A listed text, or null. -/
def listedTextOrNull : Members :=
  [("type", .array [.string "null", .string "string"]), ("enum", .array [.string "a"])]

/-- Null is accepted though no listed value is null, by neither of the types, and it is
rejected when a third type is put in. -/
theorem check_null_of_listed :
    (SchemaKind.of listedTextOrNull).1 = .typeList [.string "null", .string "string"] ∧ ∃ v v',
    (compileNode (.object listedTextOrNull) {} .empty {}).result = .ok v ∧
    (∀ name ∈ [.string "null", .string "string"], ∃ w,
      (compileNode (withType listedTextOrNull name) {} .empty {}).result = .ok w ∧
        w.check .null = false) ∧
    (compileNode (withType listedTextOrNull
      (.array [.string "null", .string "string", .string "integer"])) {} .empty {}).result
        = .ok v' ∧
    v.check .null = true ∧ v'.check .null = false := by
  refine ⟨rfl, _, _, rfl, fun name hname => ?_, rfl, rfl, rfl⟩
  rcases List.mem_pair.mp hname with rfl | rfl
  · exact ⟨_, rfl, rfl⟩
  · exact ⟨_, rfl, rfl⟩

end Conformance
