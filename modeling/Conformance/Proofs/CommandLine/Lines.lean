/-
The lines that a check prints.

When data do not conform, `check` prints each issue as `<path>: <message>`, in order and with
a line feed after each. Whether that makes one line for each issue depends on the names of
members, for these are printed as they are. Nothing else that comes from the data or the schema
can end a line: no value, pattern, format or reference. So if the names of the data and of the
declared properties have no line feed, what is printed consists of just these lines
(`check_prints_issues`). A name with a line feed spreads its issue over two
(`check_prints_issues_broken`).
-/
import Conformance.Proofs.CommandLine.Effects
import Conformance.Proofs.Validation.Wording

namespace Conformance

-- ============================================================ compiled

namespace Validator

variable {v w : Validator}

/-- The validator has no parts, and is no deferred reference. -/
def IsAtom (v : Validator) : Prop := (∀ w, ¬ v.Part w) ∧ ∀ d, v ≠ .deferred d

/-- From an atom nothing is reached but the atom. -/
theorem IsAtom.eq_of_involves (h : v.IsAtom) (hw : v.Involves w) : w = v := by
  induction hw with
  | self => rfl
  | part _ hpart ih =>
      subst ih
      exact absurd hpart (h.1 _)
  | target _ _ ih => exact absurd ih.symm (h.2 _)

/-- An atom waits for no target, so there is none that could be missing. -/
theorem IsAtom.resolves (h : v.IsAtom) : v.Resolves := by
  have hholds : ∀ d, ¬ v.Holds d := by
    intro d hd
    cases hd with
    | here => exact h.2 d rfl
    | beneath hpart => exact h.1 _ hpart
  intro d hreach
  exfalso
  induction hreach with
  | held hd => exact hholds _ hd
  | behind _ _ _ ih => exact ih

theorem isAtom_any : any.IsAtom := ⟨fun _ h => (nomatch h), fun _ h => nomatch h⟩

theorem isAtom_string (rules : StringRules) : (string rules).IsAtom :=
  ⟨fun _ h => (nomatch h), fun _ h => nomatch h⟩

/-- A request has the validator of its schema, or what stands in for a schema that is missing
or null. -/
theorem cases_compileRequest {schema : Option Json} {kind : RequestKind} {options : CompileOptions}
    (h : (compileRequest schema kind options).result = .ok v) :
    (v = .string {} ∨ v = .any) ∨
      ∃ given, schema = some given ∧ (compile given options).result = .ok v := by
  have hmissing : (compileRequest none kind options).result = .ok v →
      v = .string {} ∨ v = .any := by
    intro h
    cases kind with
    | extract => exact .inl (Except.ok.inj h).symm
    | query => exact .inr (Except.ok.inj h).symm
  cases schema with
  | none => exact .inl (hmissing h)
  | some given =>
      cases given with
      | null => exact .inl (hmissing h)
      | _ => exact .inr ⟨_, rfl, h⟩

end Validator

namespace CommandLine

variable {world : Surroundings} {invocation : Invocation} {validator : Validator} {data : Json}

/-- The name may be seen in what is printed: a member of the data has it, or the schema that is
given declares it. -/
def IsShown (world : Surroundings) (invocation : Invocation) (data : Json) (name : String) : Prop :=
  data.HasName name ∨
    ∃ schema, Describes world invocation (some schema) ∧ schema.DeclaresName name

/-- What the command line loads has been compiled, so every target is there. -/
theorem Loads.resolves (h : Loads world invocation validator data) : validator.Resolves := by
  obtain ⟨-, -, hcompile, -⟩ := h
  rcases Validator.cases_compileRequest hcompile with (rfl | rfl) | ⟨given, -, hgiven⟩
  · exact (Validator.isAtom_string {}).resolves
  · exact Validator.isAtom_any.resolves
  · exact (Stands.of_compile hgiven).resolves

/-- A name that the validator declares is one that the given schema declares. What stands in
for a missing schema declares none. -/
theorem Loads.isShown_of_declares (h : Loads world invocation validator data) {name : String}
    (hname : validator.Declares name) : IsShown world invocation data name := by
  obtain ⟨-, hschema, hcompile, -⟩ := h
  rcases Validator.cases_compileRequest hcompile with (rfl | rfl) | ⟨given, rfl, hgiven⟩
  · obtain ⟨ps, a, hobject, -⟩ := hname
    cases (Validator.isAtom_string {}).eq_of_involves hobject
  · obtain ⟨ps, a, hobject, -⟩ := hname
    cases Validator.isAtom_any.eq_of_involves hobject
  · exact .inr ⟨given, hschema, declaresName_of_declares hgiven hname⟩

/-- No issue of the data ends a line but where a name does. -/
theorem Loads.brokenOnlyBy (h : Loads world invocation validator data) {failure : Failure}
    (hparse : validator.parse data = .error failure) :
    ∀ issue ∈ failure.issues, Text.BrokenOnlyBy (IsShown world invocation data) issue.text := by
  intro issue hissue
  have hraises := Validator.raises_of_parse hparse issue hissue
  have hbroken : issue.BrokenOnlyBy (IsShown world invocation data) :=
    hraises.brokenOnlyBy h.resolves (fun _ hname => .inl hname)
      (fun _ hname => h.isShown_of_declares hname)
      (fun _ hsegment => absurd hsegment List.not_mem_nil)
  exact hbroken.text

-- =============================================================== a check

/-- A check of data that do not conform prints the issues and nothing else: for each of them, in
their order, its path and its message, with a line feed after it. An issue ends a line of its
own only where a name does, of a member of the data or of a property that the schema declares.
So if no such name has a line feed, there is one line for each issue, and the lines are the
issues in their order. -/
theorem check_prints_issues {args : List String} {failure : Failure}
    (hrequest : request false args = .run invocation) (hcommand : invocation.command = .check)
    (hloads : Loads world invocation validator data)
    (hparse : validator.parse data = .error failure) :
    run world args =
      { exitCode := 1
        out := String.join (failure.issues.map fun issue =>
          issue.path ++ ": " ++ issue.message ++ "\n") } ∧
    failure.issues ≠ [] ∧
    (∀ issue ∈ failure.issues, Text.BrokenOnlyBy (IsShown world invocation data)
      (issue.path ++ ": " ++ issue.message)) ∧
    ((∀ name, IsShown world invocation data name → '\n' ∉ name.toList) →
      Text.Consists (run world args).out
        (failure.issues.map fun issue => issue.path ++ ": " ++ issue.message)) := by
  -- everything is loaded, so the failure alone decides what is printed
  have hrun : run world args = { exitCode := 1, out := report failure } := by
    rw [run, hrequest]
    show perform world invocation = _
    simp only [perform, load_eq_ok.mpr hloads, hcommand, hparse]
  have hbroken := hloads.brokenOnlyBy hparse
  refine ⟨hrun, ?_, hbroken, fun hnames => ?_⟩
  -- a failure has issues
  · intro hnil
    have hparsed := Validator.parse_eq_error.mp hparse
    rw [hnil] at hparsed
    exact Validator.parseAt_ne_error_nil validator data [] hparsed
  · constructor
    · rw [hrun, List.map_map]
      rfl
    · intro line hline
      obtain ⟨issue, hissue, rfl⟩ := List.mem_map.mp hline
      exact (hbroken issue hissue).not_mem hnames

-- ================================================================= runs

/-- To check data against a schema. -/
def checking : Invocation :=
  { command := .check, data := "data.json", schema := some "schema.json" }

/-- The arguments of a check, with both files named. -/
def checkArgs : List String := ["check", "data.json", "--schema", "schema.json"]

/-- A file with data and one with a schema for them. -/
def filesFor (schema data : Json) : Directory :=
  [("data.json", data.compact), ("schema.json", schema.compact)]

section

variable {schema : Json} (hschema : Json.read? schema.compact = some schema)
include hschema

/-- The schema file is read back as the schema that was written to it. -/
theorem describes_filesFor : Describes ((filesFor schema data).surroundings "") checking
    (some schema) := by
  have hname : Target.of "schema.json" = .file "schema.json" := by decide +kernel
  refine .given rfl (.file (by decide +kernel) ?_ hschema)
  show (filesFor schema data).read "schema.json" = .text schema.compact
  simp only [Directory.read, hname]
  rfl

/-- Files that hold what is written of a schema and of data are loaded as these. -/
theorem loads_filesFor (hdata : Json.read? data.compact = some data)
    (hcompile : (compileRequest (some schema) .extract {}).result = .ok validator) :
    Loads ((filesFor schema data).surroundings "") checking validator data := by
  have hname : Target.of "data.json" = .file "data.json" := by decide +kernel
  refine .intro (.usual rfl) (describes_filesFor hschema) hcompile
    (.file (by decide +kernel) ?_ hdata)
  show (filesFor schema data).read "data.json" = .text data.compact
  simp only [Directory.read, hname]
  rfl

end

/-- An object with a text of two lines. -/
def twoLineText : Json := .object [("a", .string "x\ny")]

/-- An object with another such text. -/
def otherTextSchema : Json :=
  .object [("properties", .object [("a", .object [("const", .string "p\nq")])])]

/-- The only name that is shown is the one property. -/
theorem eq_of_isShown {name : String}
    (h : IsShown ((filesFor otherTextSchema twoLineText).surroundings "") checking twoLineText
      name) :
    name = "a" := by
  -- a name in the data, or one that the schema declares
  rcases h with h | ⟨schema, hdescribes, h⟩
  · cases h with
    | here h => exact List.mem_singleton.mp h
    | member hm h =>
        cases List.mem_singleton.mp hm
        cases h
  -- no other schema can have been given
  · have hgiven : Describes ((filesFor otherTextSchema twoLineText).surroundings "") checking
        (some otherTextSchema) := describes_filesFor (by decide +kernel)
    have heq := (givenSchema_eq_ok.mpr hdescribes).symm.trans (givenSchema_eq_ok.mpr hgiven)
    cases heq
    cases h with
    | here hdeclared h =>
        cases List.mem_singleton.mp hdeclared
        exact List.mem_singleton.mp h
    | member hm h =>
        cases List.mem_singleton.mp hm
        cases h with
        | here hdeclared => exact absurd (List.mem_singleton.mp hdeclared) (by simp)
        | member hm h =>
            cases List.mem_singleton.mp hm
            cases h with
            | here hdeclared => exact absurd (List.mem_singleton.mp hdeclared) (by simp)
            | member hm h =>
                cases List.mem_singleton.mp hm
                cases h

/-- Texts of two lines are told on one. -/
theorem check_prints_issues_quoted : ∃ validator failure,
    request false checkArgs = .run checking ∧ checking.command = .check ∧
    Loads ((filesFor otherTextSchema twoLineText).surroundings "") checking validator twoLineText ∧
    validator.parse twoLineText = .error failure ∧
    (∀ name, IsShown ((filesFor otherTextSchema twoLineText).surroundings "") checking twoLineText
      name → '\n' ∉ name.toList) ∧
    Text.Consists (run ((filesFor otherTextSchema twoLineText).surroundings "") checkArgs).out
      ["/a: expected literal \"p\\nq\", got \"x\\ny\""] := by
  have hrequest : request false checkArgs = .run checking := rfl
  have hschema : Json.read? otherTextSchema.compact = some otherTextSchema := by decide +kernel
  have hdata : Json.read? twoLineText.compact = some twoLineText := by decide +kernel
  have hloads := loads_filesFor hschema hdata rfl
  have hnames : ∀ name, IsShown ((filesFor otherTextSchema twoLineText).surroundings "") checking
      twoLineText name → '\n' ∉ name.toList := by
    intro name hname
    rw [eq_of_isShown hname]
    decide
  have hparse : (Validator.object [⟨"a", false, .literal (.string "p\nq")⟩] .ignore).parse
      twoLineText = .error ⟨[.about ["a"] (.literalMismatch (.string "p\nq"))
        ("expected literal " ++ (Json.string "p\nq").compact ++ ", got "
          ++ (Json.string "x\ny").compact)]⟩ := rfl
  obtain ⟨-, -, -, hconsists⟩ := check_prints_issues hrequest rfl hloads hparse
  refine ⟨_, _, hrequest, rfl, hloads, hparse, hnames, ?_⟩
  exact hconsists hnames

/-- A check tells issues of these texts, but what it prints consists of these lines, which are
others. -/
def Spreads (files : Directory) (texts lines : List String) : Prop :=
  ∃ validator data failure, Loads (files.surroundings "") checking validator data ∧
    validator.parse data = .error failure ∧
    failure.issues.map (fun issue => issue.path ++ ": " ++ issue.message) = texts ∧
    Text.Consists (run (files.surroundings "") checkArgs).out lines ∧
    ¬ Text.Consists (run (files.surroundings "") checkArgs).out texts

/-- An object whose member has a name of two lines. -/
def twoLineMember : Json := .object [("a\nb", .number (.whole 5))]

/-- An object of texts. -/
def textsSchema : Json :=
  .object [("type", .string "object"),
    ("additionalProperties", .object [("type", .string "string")])]

/-- An object that requires a member with a name of two lines. -/
def twoLineSchema : Json :=
  .object [("required", .array [.string "a\nb"]),
    ("properties", .object [("a\nb", .object [("type", .string "string")])])]

/-- A name of two lines spreads its issue over two lines or three, whether a member of the data
has the name or a property that the schema declares. -/
theorem check_prints_issues_broken :
    request false checkArgs = .run checking ∧ checking.command = .check ∧
    Spreads (filesFor textsSchema twoLineMember) ["/a\nb: expected string, got number"]
      ["/a", "b: expected string, got number"] ∧
    Spreads (filesFor twoLineSchema (.object [])) ["/a\nb: required property 'a\nb' is missing"]
      ["/a", "b: required property 'a", "b' is missing"] := by
  refine ⟨rfl, rfl, ?_, ?_⟩
  · have hlines : Text.Consists
        (run ((filesFor textsSchema twoLineMember).surroundings "") checkArgs).out
        ["/a", "b: expected string, got number"] := ⟨by decide +kernel, by decide⟩
    have hschema : Json.read? textsSchema.compact = some textsSchema := by decide +kernel
    have hdata : Json.read? twoLineMember.compact = some twoLineMember := by decide +kernel
    refine ⟨_, _, _, loads_filesFor hschema hdata rfl, rfl, ?_, hlines, fun h => ?_⟩
    · decide +kernel
    · exact absurd (h.unique hlines) (by decide)
  · have hlines : Text.Consists
        (run ((filesFor twoLineSchema (.object [])).surroundings "") checkArgs).out
        ["/a", "b: required property 'a", "b' is missing"] := ⟨by decide +kernel, by decide⟩
    have hschema : Json.read? twoLineSchema.compact = some twoLineSchema := by decide +kernel
    have hdata : Json.read? (Json.object []).compact = some (.object []) := by decide +kernel
    refine ⟨_, _, _, loads_filesFor hschema hdata rfl, rfl, ?_, hlines, fun h => ?_⟩
    · decide +kernel
    · exact absurd (h.unique hlines) (by decide)

end CommandLine

end Conformance
