/-
Command line arguments.

There are two commands, with options before and after the one operand. An
option's value follows it, or is joined to it by an equals sign, or directly to
a single letter. An option may be given once. Letters may be bundled. A double
hyphen ends the options; a single one is an operand.

Arguments are taken one by one from the left, so of several faults the first
counts, and a request for help or the version answers at once.
-/
import Conformance.Options
import Conformance.Text.Digit

namespace Conformance

namespace CommandLine

/-- How a parsed value is laid out. -/
inductive Layout where
  | pretty
  | compact
  deriving DecidableEq, Repr

/-- Report conformance, or write the parsed form. -/
inductive Command where
  | check
  | parse
  deriving DecidableEq, Repr

/-- What the arguments ask for. -/
structure Invocation where
  command : Command
  data : String
  schema : Option String := none
  kind : RequestKind := .extract
  config : Option String := none
  noFormats : Bool := false
  maxDepth : Option Nat := none
  output : Option String := none
  layout : Layout := .pretty
  deriving DecidableEq, Repr

/-- What the arguments come to: a task, a text to print, or a usage error. -/
inductive Request where
  | run (invocation : Invocation)
  | print (text : String)
  | misuse

-- ============================================================= options

/-- The options of the commands. -/
inductive Flag where
  | verbose
  | help
  | noFormats
  | schema
  | kind
  | config
  | maxDepth
  | output
  | layout
  deriving DecidableEq, Repr

namespace Flag

/-- Whether a value follows. -/
def takesValue : Flag → Bool
  | verbose | help | noFormats => false
  | _ => true

/-- The option of a long name. -/
def ofName? (command : Command) : String → Option Flag
  | "verbose" => some verbose
  | "help" => some help
  | "no-formats" => some noFormats
  | "schema" => some schema
  | "kind" => some kind
  | "config" => some config
  | "max-depth" => some maxDepth
  | "output" => if command = .parse then some output else none
  | "format" => if command = .parse then some layout else none
  | _ => none

/-- The option of a letter. -/
def ofLetter? (command : Command) : Char → Option Flag
  | 'v' => some verbose
  | 'h' => some help
  | 's' => some schema
  | 'o' => if command = .parse then some output else none
  | _ => none

end Flag

/-- Arguments taken so far: the operand, and the options with their values. -/
structure Taken where
  data : Option String := none
  flags : List (Flag × String) := []

/-- A natural number of 64 bits; a plus sign may stand before it. -/
def natural? (text : String) : Option Nat :=
  let cs := match text.toList with
    | '+' :: cs => cs
    | cs => cs
  match Text.natural? 10 cs with
  | some n => if !cs.isEmpty && n < Nat.pow 2 64 then some n else none
  | none => none

def layout? : String → Option Layout
  | "pretty" => some .pretty
  | "compact" => some .compact
  | _ => none

/-- Whether an option may have a value. A path must not be empty. -/
def isValue (flag : Flag) (value : String) : Bool :=
  match flag with
  | .kind => (RequestKind.ofName? value).isSome
  | .maxDepth => (natural? value).isSome
  | .layout => (layout? value).isSome
  | .schema | .config | .output => !value.isEmpty
  | .verbose | .help | .noFormats => true

namespace Taken

/-- Takes an option, unless it was taken before or its value is wrong. -/
def option? (taken : Taken) (flag : Flag) (value : String) : Option Taken :=
  if taken.flags.any (·.1 == flag) || !isValue flag value then none
  else some { taken with flags := (flag, value) :: taken.flags }

/-- Takes the operand, unless there is one or it is empty. -/
def operand? (taken : Taken) (text : String) : Option Taken :=
  if taken.data.isSome || text.isEmpty then none else some { taken with data := text }

/-- The value of an option. -/
def value? (taken : Taken) (flag : Flag) : Option String := taken.flags.lookup flag

/-- The task, once all arguments are taken. -/
def invocation? (taken : Taken) (command : Command) : Option Invocation :=
  taken.data.map fun data =>
    { command, data
      schema := taken.value? .schema
      kind := ((taken.value? .kind).bind RequestKind.ofName?).getD .extract
      config := taken.value? .config
      noFormats := (taken.value? .noFormats).isSome
      maxDepth := (taken.value? .maxDepth).bind natural?
      output := taken.value? .output
      layout := ((taken.value? .layout).bind layout?).getD .pretty }

end Taken

-- ============================================================== texts

/-- The line that tells the version. -/
def versionText : String := "jsonschema-validate 0.1.0\n"

def commandsHelp : String :=
  "Check and parse JSON data against a JSON Schema\n\n" ++
  "Usage: jsonschema-validate [OPTIONS] <COMMAND>\n\n" ++
  "Commands:\n" ++
  "  check  Report whether the data conforms, listing every issue when it does not\n" ++
  "  parse  Validate the data and write its parsed form\n" ++
  "  help   Print this message or the help of the given subcommand(s)\n\n" ++
  "Options:\n" ++
  "  -v, --verbose  Enable verbose logging (sets log level to debug)\n" ++
  "  -h, --help     Print help\n" ++
  "  -V, --version  Print version\n"

def inputHelp : String :=
  "Arguments:\n" ++
  "  <DATA>  JSON data file (`-` reads stdin)\n\n" ++
  "Options:\n" ++
  "  -s, --schema <SCHEMA>        JSON Schema file. Without one, the default for --kind " ++
    "applies\n" ++
  "      --kind <KIND>            Request kind, selects the default validator when no schema " ++
    "is given [default: extract] [possible values: extract, query]\n" ++
  "      --config <CONFIG>        JSON file with compile options (`max-depth`, `formats`)\n" ++
  "      --no-formats             Do not check string `format` keywords\n" ++
  "      --max-depth <MAX_DEPTH>  Max schema nesting depth\n"

def outputHelp : String :=
  "  -o, --output <OUTPUT>        Output file (defaults to stdout if not specified)\n" ++
  "      --format <FORMAT>        Output format [default: pretty] " ++
    "[possible values: pretty, compact]\n"

def helpText : Command → String
  | .check =>
    "Report whether the data conforms, listing every issue when it does not\n\n" ++
    "Usage: jsonschema-validate check [OPTIONS] <DATA>\n\n" ++ inputHelp ++
    "  -v, --verbose                Enable verbose logging (sets log level to debug)\n" ++
    "  -h, --help                   Print help\n"
  | .parse =>
    "Validate the data and write its parsed form\n\n" ++
    "Usage: jsonschema-validate parse [OPTIONS] <DATA>\n\n" ++ inputHelp ++ outputHelp ++
    "  -v, --verbose                Enable verbose logging (sets log level to debug)\n" ++
    "  -h, --help                   Print help\n"

-- ============================================================= reading

/-- What one argument is. -/
inductive Argument where
  | operand (text : String)
  | endOfOptions
  | long (name : String) (value : Option String)
  | letters (cs : List Char)

namespace Argument

/-- A single hyphen is an operand. -/
def of (text : String) : Argument :=
  match text.toList with
  | ['-', '-'] => endOfOptions
  | '-' :: '-' :: cs =>
    let name := cs.takeWhile (· != '=')
    match cs.drop name.length with
    | _ :: value => long (String.ofList name) (some (String.ofList value))
    | [] => long (String.ofList name) none
  | ['-'] => operand text
  | '-' :: cs => letters cs
  | _ => operand text

end Argument

/-- What taking one argument leads to. -/
inductive Step where
  | go (taken : Taken)
  | await (taken : Taken) (flag : Flag)
  | help
  | misuse

/-- Takes an option whose value may be joined to it. -/
def takeFlag (taken : Taken) (flag : Flag) (value : Option String) : Step :=
  match flag.takesValue, value with
  | true, none => .await taken flag
  | false, some _ => .misuse
  | _, _ =>
    if flag = .help then .help
    else
      match taken.option? flag (value.getD "") with
      | some taken => .go taken
      | none => .misuse

/-- Takes a bundle of letters. What follows a letter that takes a value is its
value. -/
def takeLetters (command : Command) : Taken → List Char → Step
  | taken, [] => .go taken
  | taken, c :: rest =>
    match Flag.ofLetter? command c with
    | none => .misuse
    | some flag =>
      if flag.takesValue then
        match rest with
        | [] => .await taken flag
        | '=' :: value => takeFlag taken flag (some (String.ofList value))
        | value => takeFlag taken flag (some (String.ofList value))
      else
        match takeFlag taken flag none with
        | .go taken => takeLetters command taken rest
        | other => other

/-- Takes one argument. -/
def takeArgument (command : Command) (taken : Taken) : Argument → Step
  | .operand text =>
    match taken.operand? text with
    | some taken => .go taken
    | none => .misuse
  | .endOfOptions => .go taken
  | .long name value =>
    match Flag.ofName? command name with
    | some flag => takeFlag taken flag value
    | none => .misuse
  | .letters cs => takeLetters command taken cs

/-- The task, or a usage error if the operand is missing. -/
def finish (command : Command) (taken : Taken) : Request :=
  match taken.invocation? command with
  | some invocation => .run invocation
  | none => .misuse

/-- Takes operands only. -/
def operands (command : Command) : Taken → List String → Request
  | taken, [] => finish command taken
  | taken, text :: rest =>
    match taken.operand? text with
    | some taken => operands command taken rest
    | none => .misuse

/-- Takes the arguments of a command. An awaited value must be an operand. -/
def arguments (command : Command) : Taken → Option Flag → List String → Request
  | taken, none, [] => finish command taken
  | _, some _, [] => .misuse
  | taken, some flag, text :: rest =>
    match Argument.of text with
    | .operand value =>
      match taken.option? flag value with
      | some taken => arguments command taken none rest
      | none => .misuse
    | _ => .misuse
  | taken, none, text :: rest =>
    match Argument.of text with
    | .endOfOptions => operands command taken rest
    | argument =>
      match takeArgument command taken argument with
      | .go taken => arguments command taken none rest
      | .await taken flag => arguments command taken (some flag) rest
      | .help => .print (helpText command)
      | .misuse => .misuse

/-- A command by its name. -/
def command? : String → Option Command
  | "check" => some .check
  | "parse" => some .parse
  | _ => none

/-- The help on what is named. -/
def helpOn : List String → Request
  | [] => .print commandsHelp
  | name :: rest =>
    match command? name, rest with
    | some command, [] => .print (helpText command)
    | none, [] => if name == "help" then .print commandsHelp else .misuse
    | _, _ => .misuse

/-- What a bundle of letters before the command asks for: to go on, with
whether the output shall be verbose, or an answer at once. -/
def leadingLetters : Bool → List Char → Bool ⊕ Request
  | verbose, [] => .inl verbose
  | verbose, 'v' :: rest => if verbose then .inr .misuse else leadingLetters true rest
  | _, 'h' :: _ => .inr (.print commandsHelp)
  | _, 'V' :: _ => .inr (.print versionText)
  | _, _ => .inr .misuse

/-- Takes all arguments: options that hold for every command, then a
command. -/
def request (verbose : Bool) : List String → Request
  | [] => .misuse
  | text :: rest =>
    match Argument.of text with
    | .operand name =>
      match command? name with
      | some command => arguments command {} none rest
      | none => if name == "help" then helpOn rest else .misuse
    | .long "verbose" none => if verbose then .misuse else request true rest
    | .long "help" none => .print commandsHelp
    | .long "version" none => .print versionText
    | .letters cs =>
      match leadingLetters verbose cs with
      | .inl verbose => request verbose rest
      | .inr answer => answer
    | _ => .misuse

end CommandLine

end Conformance
