/-
What a run leaves behind.

A run reads the options, the schema and the data, compiles the schema, and only then
looks at what is asked for. `Succeeds` says that all of this came to something: each
input was there and could be read, the schema compiled, and the data conform. It does
not mention the command, so `check` and `parse` succeed on the same inputs.

A run that does not succeed writes nothing. One that does writes at most one file, the
one that `parse` was told to write, and what it writes is the parsed value. The inputs
are read from the directory as it was before, so the file may be one of them.
-/
import Conformance.CommandLine.Directory
import Conformance.Proofs.Compiler.Expansion

namespace Conformance

namespace CommandLine

-- =============================================================== inputs

/-- A path gives a value: what is left of the standard input reads as it, or a file
does. -/
inductive Gives (world : Surroundings) (left path : String) (x : Json) : Prop
  | input (hpath : namesInput path = true) (hx : Json.read? left = some x) :
      Gives world left path x
  | file {s : String} (hpath : namesInput path = false) (hs : world.file path = .text s)
      (hx : Json.read? s = some x) : Gives world left path x

/-- The options to begin with: the usual ones, or those of the configuration file. -/
inductive Configures (world : Surroundings) (invocation : Invocation) : CompileOptions → Prop
  | usual (h : invocation.config = none) : Configures world invocation {}
  | file {path s : String} {options : CompileOptions} (h : invocation.config = some path)
      (hs : world.file path = .text s)
      (hoptions : Transcript.decode? CompileOptions.ofTranscript? s = some options) :
      Configures world invocation options

/-- The options with what the arguments say put in. -/
def Invocation.adjust (invocation : Invocation) (options : CompileOptions) : CompileOptions :=
  { maxDepth := invocation.maxDepth.getD options.maxDepth
    formats := if invocation.noFormats then .ignore else options.formats }

/-- The schema, if one is given. -/
inductive Describes (world : Surroundings) (invocation : Invocation) : Option Json → Prop
  | none (h : invocation.schema = none) : Describes world invocation none
  | given {path : String} {schema : Json} (h : invocation.schema = some path)
      (hschema : Gives world world.input path schema) : Describes world invocation (some schema)

/-- The inputs are there, can be read, and come to a validator and data. What the schema
was read from the standard input is not there for the data. -/
inductive Loads (world : Surroundings) (invocation : Invocation) : Validator → Json → Prop
  | intro {options : CompileOptions} {schema : Option Json} {validator : Validator} {data : Json}
      (hoptions : Configures world invocation options)
      (hschema : Describes world invocation schema)
      (hcompile : (compileRequest schema invocation.kind (invocation.adjust options)).result
        = .ok validator)
      (hdata : Gives world (if invocation.schema.any namesInput then "" else world.input)
        invocation.data data) : Loads world invocation validator data

/-- The inputs come to a validator and data that conform, with the parsed value. -/
def Succeeds (world : Surroundings) (invocation : Invocation) (value : Json) : Prop :=
  ∃ validator data, Loads world invocation validator data ∧ validator.parse data = .ok value

section

variable {world : Surroundings} {invocation : Invocation}

/-- A file is read if it is there and its text makes sense. -/
theorem readFile_eq_ok {α : Type} {what path : String} {read? : String → Option α} {a : α} :
    readFile world what path read? = .ok a ↔ ∃ s, world.file path = .text s ∧ read? s = some a := by
  unfold readFile
  cases world.file path with
  | absent => simp
  | unreadable => simp
  | text s => cases hread : read? s <;> simp [hread]

/-- What is read for a path is what the surroundings give for it. -/
theorem readJson_eq_ok {left what path : String} {x : Json} :
    readJson world left what path = .ok x ↔ Gives world left path x := by
  unfold readJson
  -- a dash names the standard input
  cases hpath : namesInput path with
  | true =>
      constructor
      · intro h
        cases hread : Json.read? left with
        | none => simp [hread] at h
        | some y =>
            simp only [hread, if_true, Except.ok.injEq] at h
            exact .input hpath (h ▸ hread)
      · intro h
        cases h with
        | input _ hx => simp [hx]
        | file hnot => rw [hpath] at hnot; cases hnot
  | false =>
      rw [if_neg Bool.false_ne_true, readFile_eq_ok]
      constructor
      · intro h
        obtain ⟨s, hs, hx⟩ := h
        exact .file hpath hs hx
      · intro h
        cases h with
        | input hnot => rw [hpath] at hnot; cases hnot
        | file _ hs hx => exact ⟨_, hs, hx⟩

/-- The options come from the file that is named, or are the usual ones, and the
invocation adjusts them. -/
theorem options_eq_ok {options : CompileOptions} :
    CommandLine.options world invocation = .ok options ↔
      ∃ base, Configures world invocation base ∧ invocation.adjust base = options := by
  unfold CommandLine.options
  cases hconfig : invocation.config with
  | none =>
      simp only [Compiler.bind_eq_ok, Compiler.pure_eq_ok, Except.ok.injEq, exists_eq_left']
      constructor
      · intro h
        exact ⟨{}, .usual hconfig, h⟩
      · intro h
        obtain ⟨_, hbase, h⟩ := h
        cases hbase with
        | usual => exact h
        | file hsome => rw [hconfig] at hsome; cases hsome
  | some path =>
      simp only [Compiler.bind_eq_ok, Compiler.pure_eq_ok, readFile_eq_ok]
      constructor
      · intro h
        obtain ⟨base, ⟨s, hs, hbase⟩, h⟩ := h
        exact ⟨base, .file hconfig hs hbase, h⟩
      · intro h
        obtain ⟨base, hbase, h⟩ := h
        cases hbase with
        | usual hnone => rw [hconfig] at hnone; cases hnone
        | file hsome hs hbase =>
            cases hconfig.symm.trans hsome
            exact ⟨base, ⟨_, hs, hbase⟩, h⟩

/-- The schema that is given, read. -/
def givenSchema (world : Surroundings) (invocation : Invocation) : Except Fault (Option Json) :=
  match invocation.schema with
  | some path => (readJson world world.input "schema" path).map some
  | none => .ok none

/-- Without a schema there is nothing to read, and that is no fault. -/
theorem givenSchema_eq_ok {schema : Option Json} :
    givenSchema world invocation = .ok schema ↔ Describes world invocation schema := by
  unfold givenSchema
  cases hgiven : invocation.schema with
  | none =>
      constructor
      · intro h
        cases h
        exact .none hgiven
      · intro h
        cases h with
        | none => rfl
        | given hsome => rw [hgiven] at hsome; cases hsome
  | some path =>
      constructor
      · intro h
        cases hread : readJson world world.input "schema" path with
        | error fault => simp only [hread] at h; cases h
        | ok x =>
            simp only [hread] at h
            cases h
            exact .given hgiven (readJson_eq_ok.mp hread)
      · intro h
        cases h with
        | none hnone => rw [hgiven] at hnone; cases hnone
        | given hsome hx =>
            cases hgiven.symm.trans hsome
            simp only [readJson_eq_ok.mpr hx]
            rfl

/-- What has been compiled, or the fault that it has not. -/
def compiled (result : Except CompileError Validator) : Except Fault Validator :=
  result.mapError fun _ => .notCompiled

/-- A validator is what compilation has yielded, if it has not failed. -/
theorem compiled_eq_ok {result : Except CompileError Validator} {validator : Validator} :
    compiled result = .ok validator ↔ result = .ok validator := by
  cases result <;> simp [compiled, Except.mapError]

/-- Loading, one input after the other. -/
theorem load_eq (world : Surroundings) (invocation : Invocation) : load world invocation = (do
    let options ← CommandLine.options world invocation
    let schema ← givenSchema world invocation
    let validator ← compiled (compileRequest schema invocation.kind options).result
    let left := if invocation.schema.any namesInput then "" else world.input
    let data ← readJson world left "data" invocation.data
    return (validator, data)) := by
  unfold load givenSchema
  -- the same steps in the same order, where a missing schema is read as none
  refine congrArg (CommandLine.options world invocation >>= ·) (funext fun options => ?_)
  cases invocation.schema with
  | none =>
      refine congrArg (Except.ok none >>= ·) (funext fun schema => ?_)
      beta_reduce
      cases (compileRequest schema invocation.kind options).result <;> rfl
  | some path =>
      refine congrArg (_ >>= ·) (funext fun schema => ?_)
      beta_reduce
      cases (compileRequest schema invocation.kind options).result <;> rfl

/-- Loading comes to a validator and data just if the inputs do. -/
theorem load_eq_ok {validator : Validator} {data : Json} :
    load world invocation = .ok (validator, data) ↔ Loads world invocation validator data := by
  rw [load_eq]
  simp only [Compiler.bind_eq_ok, Compiler.pure_eq_ok, options_eq_ok, givenSchema_eq_ok,
    compiled_eq_ok, readJson_eq_ok]
  constructor
  · intro h
    obtain ⟨_, ⟨base, hbase, rfl⟩, schema, hschema, v, hv, x, hx, heq⟩ := h
    cases heq
    exact .intro hbase hschema hv hx
  · intro h
    cases h with
    | @intro base schema _ _ hbase hschema hcompile hdata =>
        exact ⟨_, ⟨base, hbase, rfl⟩, schema, hschema, _, hcompile, _, hdata, rfl⟩

end

-- ============================================================== outcomes

/-- How a run ends: by a fault, with data that do not conform, or with a parsed
value. -/
inductive Ends (world : Surroundings) (invocation : Invocation) : Outcome → Prop
  | fault {fault : Fault} (h : load world invocation = .error fault) :
      Ends world invocation fault.outcome
  | refused {validator : Validator} {data : Json} {failure : Failure}
      (h : Loads world invocation validator data) (hparse : validator.parse data = .error failure) :
      Ends world invocation (match invocation.command with
        | .check => { exitCode := 1, out := report failure }
        | .parse => { exitCode := 1, err := report failure })
  | accepted {value : Json} (h : Succeeds world invocation value) :
      Ends world invocation (match invocation.command with
        | .check => { exitCode := 0, out := "valid\n" }
        | .parse => deliver world invocation value)

/-- A run ends in one of these ways. -/
theorem ends_perform (world : Surroundings) (invocation : Invocation) :
    Ends world invocation (perform world invocation) := by
  unfold perform
  cases hload : load world invocation with
  | error fault => exact .fault hload
  | ok loaded =>
      obtain ⟨validator, data⟩ := loaded
      have hloads := load_eq_ok.mp hload
      cases hparse : validator.parse data with
      | error failure =>
          have hends := Ends.refused hloads hparse
          simp only [hparse]
          cases hcommand : invocation.command <;> simpa only [hcommand] using hends
      | ok value =>
          have hends := Ends.accepted ⟨validator, data, hloads, hparse⟩
          simp only [hparse]
          cases hcommand : invocation.command <;> simpa only [hcommand] using hends

section

variable {world : Surroundings} {invocation : Invocation} {outcome : Outcome}

/-- A run that succeeds ends with the parsed value. -/
theorem Ends.of_succeeds {value : Json} (hends : Ends world invocation outcome)
    (h : Succeeds world invocation value) :
    outcome = match invocation.command with
      | .check => { exitCode := 0, out := "valid\n" }
      | .parse => deliver world invocation value := by
  obtain ⟨validator, data, hloads, hparse⟩ := h
  -- loading has one result, so a run that succeeds cannot end otherwise
  have hload := load_eq_ok.mpr hloads
  cases hends with
  | fault hfault => rw [hload] at hfault; cases hfault
  | refused hloads' hrefused =>
      cases hload.symm.trans (load_eq_ok.mpr hloads')
      rw [hparse] at hrefused
      cases hrefused
  | accepted hsucceeds =>
      obtain ⟨validator', data', hloads', hparse'⟩ := hsucceeds
      cases hload.symm.trans (load_eq_ok.mpr hloads')
      rw [hparse] at hparse'
      cases hparse'
      rfl

/-- To parse and succeed is to deliver the value. -/
theorem perform_parse {value : Json} (hcommand : invocation.command = .parse)
    (h : Succeeds world invocation value) :
    perform world invocation = deliver world invocation value := by
  have houtcome := (ends_perform world invocation).of_succeeds h
  rwa [hcommand] at houtcome

/-- A run that does not succeed fails, and has nothing to write. -/
theorem Ends.of_not_succeeds (hends : Ends world invocation outcome)
    (h : ∀ value, ¬ Succeeds world invocation value) :
    outcome.exitCode = 1 ∧ outcome.written = none ∧
      (invocation.command = .parse → outcome.out = "") := by
  cases hends with
  | fault => exact ⟨rfl, rfl, fun _ => rfl⟩
  | refused =>
      cases hcommand : invocation.command with
      | check => exact ⟨rfl, rfl, nofun⟩
      | parse => exact ⟨rfl, rfl, fun _ => rfl⟩
  | accepted hsucceeds => exact absurd hsucceeds (h _)

/-- A parsed value that is not to be put in a file is printed. -/
theorem deliver_of_none (world : Surroundings) (value : Json) (h : invocation.output = none) :
    deliver world invocation value
      = { exitCode := 0, out := render invocation.layout value } := by
  simp only [deliver, h]

/-- A parsed value is put in the file it is wanted in, if that can be created. -/
theorem deliver_of_some {path : String} (value : Json) (h : invocation.output = some path)
    (hcreate : world.canCreate path = true) :
    deliver world invocation value
      = { exitCode := 0, written := some (path, render invocation.layout value) } := by
  simp only [deliver, h, hcreate, if_true]

/-- A value that cannot be written is not delivered, and the run has failed. -/
theorem deliver_of_not_canCreate {path : String} (value : Json)
    (h : invocation.output = some path) (hcreate : world.canCreate path = false) :
    deliver world invocation value = (Fault.notCreated path).outcome := by
  simp only [deliver, h, hcreate, Bool.false_eq_true, if_false]

/-- Only `parse` has something to write, if it succeeds: the parsed value, at the path it
was told. -/
theorem Ends.written_eq_some {path content : String} (hends : Ends world invocation outcome)
    (h : outcome.written = some (path, content)) :
    invocation.command = .parse ∧ invocation.output = some path ∧
      ∃ value, Succeeds world invocation value ∧ content = render invocation.layout value := by
  cases hends with
  | fault => cases h
  | refused =>
      cases hcommand : invocation.command <;> simp only [hcommand, reduceCtorEq] at h
  | @accepted value hsucceeds =>
      cases hcommand : invocation.command with
      | check => simp only [hcommand, reduceCtorEq] at h
      | parse =>
          simp only [hcommand] at h
          cases houtput : invocation.output with
          | none => rw [deliver_of_none _ _ houtput] at h; cases h
          | some out =>
              cases hcreate : world.canCreate out with
              | false => rw [deliver_of_not_canCreate _ houtput hcreate] at h; cases h
              | true =>
                  rw [deliver_of_some _ houtput hcreate] at h
                  cases h
                  exact ⟨rfl, rfl, value, hsucceeds, rfl⟩

end

-- ============================================================= the files

namespace Directory

/-- What a run in the directory can see. -/
def surroundings (files : Directory) (input : String) : Surroundings :=
  { file := files.read, canCreate, input }

/-- The directory with what a run has to write. -/
def put (files : Directory) : Option (String × String) → Directory
  | some (path, content) => files.write path content
  | none => files

/-- What a run does to the files is what the outcome says. -/
theorem run_eq {args : List String} {invocation : Invocation} (files : Directory) (input : String)
    (hrequest : request false args = .run invocation) :
    files.run input args = (perform (files.surroundings input) invocation,
      files.put (perform (files.surroundings input) invocation).written) := by
  have hrun : CommandLine.run { file := files.read, canCreate, input } args
      = perform (files.surroundings input) invocation := by
    simp only [CommandLine.run, hrequest, surroundings]
  unfold run put
  rw [hrun]
  cases hwritten : (perform (files.surroundings input) invocation).written <;>
    simp only [hwritten]

/-- A run that does not succeed leaves the directory as it was. -/
theorem run_of_not_succeeds {args : List String} {invocation : Invocation} (files : Directory)
    (input : String) (hrequest : request false args = .run invocation)
    (h : ∀ value, ¬ Succeeds (files.surroundings input) invocation value) :
    (files.run input args).1.exitCode ≠ 0 ∧
      (invocation.command = .parse → (files.run input args).1.out = "") ∧
      (files.run input args).2 = files := by
  obtain ⟨hcode, hwritten, hout⟩ := (ends_perform _ _).of_not_succeeds h
  rw [run_eq files input hrequest]
  refine ⟨?_, hout, ?_⟩
  · rw [hcode]
    exact Nat.one_ne_zero
  · rw [hwritten]
    rfl

/-- Other files are found as before when one is taken away. -/
theorem lookup_filter_ne {name other : String} (h : other ≠ name) (files : Directory) :
    (files.filter (·.1 != name)).lookup other = files.lookup other := by
  induction files with
  | nil => rfl
  | cons entry files ih =>
      obtain ⟨first, content⟩ := entry
      cases hfirst : first == name with
      | true =>
          -- the file that is taken away is not the one that is looked for
          have hother : (other == first) = false := by
            rw [eq_of_beq hfirst]
            exact beq_false_of_ne h
          simp only [List.filter_cons, bne, hfirst, Bool.not_true, Bool.false_eq_true, if_false,
            List.lookup_cons, hother]
          exact ih
      | false =>
          simp only [List.filter_cons, bne, hfirst, Bool.not_false, if_true, List.lookup_cons]
          cases other == first with
          | true => rfl
          | false => exact ih

/-- What is written is there. -/
theorem lookup_write {path name : String} (h : Target.of path = .file name) (files : Directory)
    (content : String) : (files.write path content).lookup name = some content := by
  simp only [write, h, List.lookup_cons, beq_self_eq_true]

/-- Only the file that is written changes. -/
theorem of_lookup_write_ne {files : Directory} {path content name : String}
    (h : (files.write path content).lookup name ≠ files.lookup name) :
    Target.of path = .file name := by
  unfold write at h
  cases htarget : Target.of path with
  | file other =>
      refine congrArg Target.file (Classical.byContradiction fun hne => h ?_)
      have hname : (name == other) = false := beq_false_of_ne (Ne.symm hne)
      simp only [htarget, List.lookup_cons, hname]
      exact lookup_filter_ne (Ne.symm hne) files
  | directory => exact absurd (by rw [htarget]) h
  | nothing => exact absurd (by rw [htarget]) h

/-- A file can be created where a path reaches one. -/
theorem canCreate_of_file {path name : String} (h : Target.of path = .file name) :
    canCreate path = true := by
  simp only [canCreate, h]

/-- A path that names no file cannot be created. -/
theorem canCreate_of_forall_ne {path : String} (h : ∀ name, Target.of path ≠ .file name) :
    canCreate path = false := by
  unfold canCreate
  cases htarget : Target.of path with
  | file name => exact absurd htarget (h name)
  | directory => rfl
  | nothing => rfl

end Directory

-- ============================================================== the runs

/-- Two tasks have the same inputs: the same data, and the same to compile. -/
structure Invocation.SameInputs (a b : Invocation) : Prop where
  data : a.data = b.data
  schema : a.schema = b.schema
  kind : a.kind = b.kind
  config : a.config = b.config
  noFormats : a.noFormats = b.noFormats
  maxDepth : a.maxDepth = b.maxDepth

/-- What `check` and `parse` without an output file have in common on the same inputs. -/
structure Accord (world : Surroundings) (invocation : Invocation) (check parse : Outcome) :
    Prop where
  succeed : check.exitCode = 0 ↔ parse.exitCode = 0
  /-- The same lines tell the issues. -/
  issues {validator : Validator} {data : Json} {failure : Failure}
    (h : Loads world invocation validator data) (hparse : validator.parse data = .error failure) :
    check.out = report failure ∧ parse.err = report failure
  /-- The same line tells the fault. -/
  fault (h : ∀ validator data, ¬ Loads world invocation validator data) : check = parse

/-- What a run has to do with the files, the standard output and the exit code. -/
structure Effects (files : Directory) (input : String) (args : List String)
    (invocation : Invocation) : Prop where
  check (h : invocation.command = .check) : (files.run input args).2 = files
  /-- A file that changes is the one that `parse` was told to write. Then `parse` has
  succeeded, and the file holds the parsed value. -/
  changed {name : String} (h : (files.run input args).2.lookup name ≠ files.lookup name) :
    invocation.command = .parse ∧
      (∃ path, invocation.output = some path ∧ Target.of path = .file name) ∧
      ∃ value, Succeeds (files.surroundings input) invocation value ∧
        (files.run input args).2.lookup name = some (render invocation.layout value)
  /-- After success the file holds the parsed value, whatever it held. -/
  written {value : Json} {path name : String} (hcommand : invocation.command = .parse)
    (houtput : invocation.output = some path) (hname : Target.of path = .file name)
    (h : Succeeds (files.surroundings input) invocation value) :
    (files.run input args).1.exitCode = 0 ∧
      (files.run input args).2.lookup name = some (render invocation.layout value)
  /-- Without a file to write, the parsed value is printed. -/
  printed {value : Json} (hcommand : invocation.command = .parse)
    (houtput : invocation.output = none)
    (h : Succeeds (files.surroundings input) invocation value) :
    (files.run input args).1.exitCode = 0 ∧
      (files.run input args).1.out = render invocation.layout value
  /-- Where the file to write cannot be created, even a run that parsed fails. -/
  blocked {path : String} (hcommand : invocation.command = .parse)
    (houtput : invocation.output = some path) (hnone : ∀ name, Target.of path ≠ .file name) :
    (files.run input args).1.exitCode ≠ 0 ∧ (files.run input args).1.out = "" ∧
      (files.run input args).2 = files
  failed (h : ∀ value, ¬ Succeeds (files.surroundings input) invocation value) :
    (files.run input args).1.exitCode ≠ 0 ∧
      (invocation.command = .parse → (files.run input args).1.out = "") ∧
      (files.run input args).2 = files
  accord {other : List String} {invocation' : Invocation}
    (hother : request false other = .run invocation') (hcommand : invocation.command = .check)
    (hcommand' : invocation'.command = .parse) (houtput : invocation'.output = none)
    (hinputs : invocation.SameInputs invocation') :
    Accord (files.surroundings input) invocation (files.run input args).1 (files.run input other).1

section

variable {world : Surroundings} {a b : Invocation}

/-- With the same inputs the same is loaded. -/
theorem Invocation.SameInputs.load_eq (h : a.SameInputs b) : load world a = load world b := by
  obtain ⟨hdata, hschema, hkind, hconfig, hnoFormats, hmaxDepth⟩ := h
  simp only [load, options, hdata, hschema, hkind, hconfig, hnoFormats, hmaxDepth]

/-- On the same inputs either both tasks load the same, or neither does and both end with
the same fault. -/
theorem accord_perform (h : a.SameInputs b) (ha : a.command = .check) (hb : b.command = .parse)
    (houtput : b.output = none) : Accord world a (perform world a) (perform world b) := by
  cases hload : load world a with
  | error fault =>
      -- nothing is loaded, so the task is never looked at
      have hsame : perform world a = perform world b := by
        simp only [perform, ← h.load_eq, hload]
      exact {
        succeed := by rw [hsame]
        issues := fun hloads => by rw [load_eq_ok.mpr hloads] at hload; cases hload
        fault := fun _ => hsame }
  | ok loaded =>
      obtain ⟨validator, data⟩ := loaded
      -- both have the same validator and data, and differ in what they show of the result
      have hcheck : perform world a = match validator.parse data with
          | .ok _ => { exitCode := 0, out := "valid\n" }
          | .error failure => { exitCode := 1, out := report failure } := by
        cases hparse : validator.parse data <;> simp only [perform, hload, ha, hparse]
      have hparse : perform world b = match validator.parse data with
          | .ok value => { exitCode := 0, out := render b.layout value }
          | .error failure => { exitCode := 1, err := report failure } := by
        cases hparse : validator.parse data <;>
          simp only [perform, ← h.load_eq, hload, hb, hparse, deliver_of_none _ _ houtput]
      refine {
        succeed := ?succeed
        issues := ?issues
        fault := fun hnone => absurd (load_eq_ok.mp hload) (hnone _ _) }
      case succeed =>
        rw [hcheck, hparse]
        cases validator.parse data <;> simp
      case issues =>
        intro validator' data' failure hloads hrefused
        cases hload.symm.trans (load_eq_ok.mpr hloads)
        rw [hcheck, hparse, hrefused]
        exact ⟨rfl, rfl⟩

end

/-- A run leaves everything as it was, unless it is to parse and succeeds; then it
changes only the file it was told to write. -/
theorem run_effects (files : Directory) (input : String) {args : List String}
    {invocation : Invocation} (hrequest : request false args = .run invocation) :
    Effects files input args invocation := by
  have hrun := files.run_eq input hrequest
  have hends := ends_perform (files.surroundings input) invocation
  refine {
    check := fun hcheck => ?check
    changed := fun {name} hname => ?changed
    written := fun hcommand houtput hname hsucceeds => ?written
    printed := fun hcommand houtput hsucceeds => ?printed
    blocked := fun hcommand houtput hnone => ?blocked
    failed := files.run_of_not_succeeds input hrequest
    accord := fun hother hcommand hcommand' houtput hinputs => ?accord }
  case check =>
    rw [hrun]
    cases hwritten : (perform (files.surroundings input) invocation).written with
    | none => rfl
    | some written =>
        have hparse := (hends.written_eq_some hwritten).1
        rw [hcheck] at hparse
        cases hparse
  case changed =>
    rw [hrun] at hname ⊢
    cases hwritten : (perform (files.surroundings input) invocation).written with
    | none => rw [hwritten] at hname; exact absurd rfl hname
    | some written =>
        obtain ⟨path, content⟩ := written
        obtain ⟨hparse, houtput, value, hsucceeds, rfl⟩ := hends.written_eq_some hwritten
        rw [hwritten] at hname
        have htarget := Directory.of_lookup_write_ne hname
        exact ⟨hparse, ⟨path, houtput, htarget⟩, value, hsucceeds,
          Directory.lookup_write htarget files _⟩
  case written =>
    rw [hrun, perform_parse hcommand hsucceeds,
      deliver_of_some _ houtput (Directory.canCreate_of_file hname)]
    exact ⟨rfl, Directory.lookup_write hname files _⟩
  case printed =>
    rw [hrun, perform_parse hcommand hsucceeds, deliver_of_none _ _ houtput]
    exact ⟨rfl, rfl⟩
  case blocked =>
    by_cases hsucceeds : ∃ value, Succeeds (files.surroundings input) invocation value
    · obtain ⟨value, hsucceeds⟩ := hsucceeds
      rw [hrun, perform_parse hcommand hsucceeds,
        deliver_of_not_canCreate _ houtput (Directory.canCreate_of_forall_ne hnone)]
      exact ⟨Nat.one_ne_zero, rfl, rfl⟩
    · obtain ⟨hcode, hout, hsame⟩ :=
        files.run_of_not_succeeds input hrequest fun value h => hsucceeds ⟨value, h⟩
      exact ⟨hcode, hout hcommand, hsame⟩
  case accord =>
    rw [hrun, files.run_eq input hother]
    exact accord_perform hinputs hcommand hcommand' houtput

/-- A number, and a schema for it. -/
def integerFiles : Directory :=
  [("data.json", "7"), ("schema.json", r#"{"type": "integer"}"#)]

/-- To parse the data over themselves. -/
def overwriting : Invocation :=
  { command := .parse, data := "data.json", schema := some "schema.json",
    output := some "data.json" }

/-- The file to write may be the one the data are read from. -/
theorem run_effects_overwriting :
    let args := ["parse", "-s", "schema.json", "-o", "data.json", "data.json"]
    request false args = .run overwriting ∧ Effects integerFiles "" args overwriting ∧
      (integerFiles.run "" args).1.exitCode = 0 ∧
      (integerFiles.run "" args).2.lookup "data.json" = some "7\n" :=
  ⟨rfl, run_effects integerFiles "" rfl, by decide +kernel, by decide +kernel⟩

end CommandLine

end Conformance
