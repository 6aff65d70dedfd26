/-
Running a command.

A run is a function of the arguments, the files and the standard input. It
yields what is printed, the exit code and at most one file to write. Inputs are
read in a fixed order: options, schema, data; the first that fails ends the run
with one line that names it. The standard input can be read once, and is empty
from then on.

What is logged on the way is left out: warnings about keywords that are ignored, and
the notes that `-v` asks for. So of the error output only the line of a failure is kept,
and how much is logged changes nothing else.
-/
import Conformance.CommandLine.Arguments
import Conformance.Session
import Conformance.Text.Split

namespace Conformance

namespace CommandLine

/-- What reading a file comes to: it cannot be opened, or be opened and not be
read, or has a text. -/
inductive Reading where
  | absent
  | unreadable
  | text (s : String)

/-- What a run can see of the world. -/
structure Surroundings where
  file : String → Reading
  canCreate : String → Bool
  input : String

/-- What a run comes to. Of the error output this is the line of a failure or a usage
error, without what is logged. -/
structure Outcome where
  exitCode : Nat
  out : String := ""
  err : String := ""
  written : Option (String × String) := none

/-- Why a run ends early. -/
inductive Fault where
  | notOpened (what path : String)
  | notParsed (what path : String)
  | inputNotParsed (what : String)
  | notCompiled
  | notCreated (path : String)

namespace Fault

/-- The line that reports a fault. -/
def text : Fault → String
  | notOpened what path => "Error: Failed to open " ++ what ++ " file: " ++ path
  | notParsed what path => "Error: Failed to parse " ++ what ++ " from: " ++ path
  | inputNotParsed what => "Error: Failed to parse " ++ what ++ " from stdin"
  | notCompiled => "Error: Schema compilation failed"
  | notCreated path => "Error: Failed to create output file: " ++ path

def outcome (fault : Fault) : Outcome := { exitCode := 1, err := fault.text ++ "\n" }

end Fault

/-- Whether a path stands for the standard input: a hyphen, whatever empty steps
follow it. -/
def namesInput (path : String) : Bool :=
  match (Text.split '/' path.toList).map String.ofList with
  | "-" :: steps => steps.all fun step => step == "" || step == "."
  | _ => false

/-- Reads a file into a value. -/
def readFile {α : Type} (world : Surroundings) (what path : String)
    (read? : String → Option α) : Except Fault α :=
  match world.file path with
  | .absent => .error (.notOpened what path)
  | .unreadable => .error (.notParsed what path)
  | .text s =>
    match read? s with
    | some v => .ok v
    | none => .error (.notParsed what path)

/-- Reads JSON from a file, or from what is left of the standard input. -/
def readJson (world : Surroundings) (left : String) (what path : String) :
    Except Fault Json :=
  if namesInput path then
    match Json.read? left with
    | some v => .ok v
    | none => .error (.inputNotParsed what)
  else readFile world what path Json.read?

/-- The options: those of the configuration file, overridden by arguments. -/
def options (world : Surroundings) (invocation : Invocation) :
    Except Fault CompileOptions := do
  let options ← match invocation.config with
    | some path =>
      readFile world "config" path (Transcript.decode? CompileOptions.ofTranscript?)
    | none => .ok {}
  return {
    maxDepth := invocation.maxDepth.getD options.maxDepth
    formats := if invocation.noFormats then .ignore else options.formats }

/-- The validator and the data that a task is about. -/
def load (world : Surroundings) (invocation : Invocation) :
    Except Fault (Validator × Json) := do
  let options ← options world invocation
  let schema ← match invocation.schema with
    | some path => (readJson world world.input "schema" path).map some
    | none => .ok none
  let validator ← match (compileRequest schema invocation.kind options).result with
    | .ok validator => .ok validator
    | .error _ => .error .notCompiled
  let left := if invocation.schema.any namesInput then "" else world.input
  let data ← readJson world left "data" invocation.data
  return (validator, data)

/-- The issues in their order, each with a line feed after it. -/
def report (failure : Failure) : String :=
  String.join (failure.issues.map fun issue => issue.text ++ "\n")

/-- The text of a parsed value, with a line end after it. -/
def render (layout : Layout) (value : Json) : String :=
  (match layout with
    | .pretty => value.indented 0
    | .compact => value.compact) ++ "\n"

/-- Puts a parsed value where it is wanted. -/
def deliver (world : Surroundings) (invocation : Invocation) (value : Json) : Outcome :=
  let text := render invocation.layout value
  match invocation.output with
  | none => { exitCode := 0, out := text }
  | some path =>
    if world.canCreate path then { exitCode := 0, written := some (path, text) }
    else (Fault.notCreated path).outcome

/-- Carries out a task. -/
def perform (world : Surroundings) (invocation : Invocation) : Outcome :=
  match load world invocation with
  | .error fault => fault.outcome
  | .ok (validator, data) =>
    match invocation.command, validator.parse data with
    | .check, .ok _ => { exitCode := 0, out := "valid\n" }
    | .check, .error failure => { exitCode := 1, out := report failure }
    | .parse, .ok value => deliver world invocation value
    | .parse, .error failure => { exitCode := 1, err := report failure }

/-- Carries out what the arguments ask for. A usage error exits with 2. -/
def run (world : Surroundings) (args : List String) : Outcome :=
  match request false args with
  | .run invocation => perform world invocation
  | .print text => { exitCode := 0, out := text }
  | .misuse => { exitCode := 2 }

end CommandLine

end Conformance
