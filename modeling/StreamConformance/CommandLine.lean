import StreamConformance.Report.Basic
import StreamConformance.Run.Specimen

/-!
# The command line

The command line runs entries of the catalog against a specimen, or lists them. How arguments are
read and how JSON is written is up to the tools that it is given; with these, what it does is a
function of its arguments and of the settings of the process.

The last part holds a reader of arguments. Options are written `--name value` or `--name=value`,
flags `--name`; each may be given once. A value that starts with a dash must follow an equals sign,
unless it is the dash alone. After `--` nothing may follow.

## Main definitions

* `Options` — the options.
* `CommandLine.Toolkit` — how arguments are read and how JSON is written.
* `CommandLine.answer` — the exit code and the texts that a command line leads to.
* `Options.parse`, `CommandLine.respond` — a reader of arguments, and the answers that it leads to.
-/

namespace StreamConformance

/-- How results are written. -/
inductive Format where
  | text
  | json
  deriving DecidableEq, Inhabited

/-- The format that a word selects. -/
def Format.ofWord? : String → Option Format
  | "text" => some .text
  | "json" => some .json
  | _ => none

/-- The options as far as they have been given. -/
structure Options where
  /-- The name of a single entry. -/
  case? : Option String
  /-- Run every entry. -/
  all : Bool
  /-- List the entries. -/
  list : Bool
  /-- Show the rules in the list. -/
  showRules : Bool
  subject? : Option Specimen
  format? : Option Format
  /-- The bound of waits, in milliseconds. -/
  timeout? : Option Nat
  deriving DecidableEq, Inhabited

namespace Options

/-- No option is given. -/
def unset : Options := ⟨none, false, false, false, none, none, none⟩

/-- The specimen to run. -/
def subject (o : Options) : Specimen := o.subject?.getD .reference

/-- The format of the results. -/
def format (o : Options) : Format := o.format?.getD .text

end Options

/-- What a command line leads to. -/
structure Response where
  exitCode : Nat
  stdout : String
  stderr : String
  deriving DecidableEq, Inhabited

namespace CommandLine

/-- What the command line is given by others. -/
structure Toolkit where
  /-- Reads the arguments, or ends the program at once with a response. -/
  read : List String → Except Response Options
  /-- Writes a value. -/
  write : Json → String

/-- The name of the program. -/
def program : String := "rstreams-tck-conformance"

/-- Lines, each with its end. -/
def unlines (lines : List String) : String := String.join (lines.map (· ++ "\n"))

/-- The text for somebody who has asked for nothing. -/
def usage : String := unlines [
  "Usage: " ++ program ++ " --case <name> [--subject <subject>]",
  "       " ++ program ++ " --all [--subject <subject>]",
  "       " ++ program ++ " --list [--show-rules]"]

/-! ### The list -/

/-- An entry as JSON. -/
def entryJson (e : Entry) : Json :=
  .object [("name", .text e.name), ("rules", Report.rulesJson e.rules),
    ("disposition", .text e.disposition.word), ("description", .text e.description)]

/-- An entry as a line of the list. -/
def entryLine (showRules : Bool) (e : Entry) : String :=
  (if e.isRequired then " " else "~") ++ " " ++ e.name ++
    (if showRules then " [" ++ ", ".intercalate e.rules ++ "]" else "")

/-- The list of all entries. -/
def listing (tools : Toolkit) (o : Options) : String :=
  let entries := Catalog.entries
  let required := entries.filter Entry.isRequired
  match o.format with
  | .json => unlines [tools.write (.list (entries.map entryJson))]
  | .text => unlines (
      ["Catalog entries:", ""] ++ entries.map (entryLine o.showRules) ++
      ["", "Total: " ++ toString entries.length ++ " entries (" ++ toString required.length ++
        " required)",
        "Rules verified: " ++ toString (required.flatMap Entry.rules).eraseDups.length])

/-! ### The report -/

/-- A text between two control sequences of a terminal. -/
def styled (start stop text : String) : String :=
  "\x1b[" ++ start ++ "m" ++ text ++ "\x1b[" ++ stop ++ "m"

/-- What is written of one entry. -/
def reportLines (l : Report.Line) : List String :=
  match l.outcome with
  | .passed => [styled "32" "39" "PASS" ++ " " ++ l.name ++ " (" ++ toString l.millis ++ " ms)"]
  | .skipped reason => [styled "33" "39" "SKIP" ++ " " ++ l.name ++ " (" ++ reason ++ ")"]
  | .failed reason => [styled "31" "39" "FAIL" ++ " " ++ l.name, "  " ++ reason]

/-- The report as a text. -/
def reportText (r : Report) : String :=
  unlines (r.lines.flatMap reportLines ++
    ["", styled "1" "0" r.subject ++ ": " ++ toString r.passed ++ " passed, " ++
      toString r.failed ++ " failed, " ++ toString r.skipped ++ " skipped"])

/-- The response to a run with the given rules. -/
def runRules (tools : Toolkit) (settings : Settings) (o : Options)
    (rules : List (Rule UInt64 (Option Nat) Range.HelperState)) : Response :=
  let config := Config.ofSettings settings
  let config := match o.timeout?.filter (0 < ·) with
    | some ms => config.withTimeout (.ofMillis ms)
    | none => config
  let r := Report.ofRules (o.subject.verification config) o.subject.word rules
  let text := match o.format with
    | .json => unlines [tools.write r.json]
    | .text => reportText r
  ⟨if r.isSuccess then 0 else 1, text, ""⟩

/-- The response to options: the list comes first, then a single entry, then all of them. -/
def execute (tools : Toolkit) (settings : Settings) (o : Options) : Response :=
  if o.list then ⟨0, listing tools o, ""⟩
  else
    match o.case? with
    | some name =>
      match Catalog.rules.filter fun r => r.name == name with
      | [] => ⟨2, "", unlines ["Unknown case: " ++ name,
          "Run `" ++ program ++ " --list` to see available cases"]⟩
      | selected => runRules tools settings o selected
    | none => if o.all then runRules tools settings o Catalog.rules else ⟨2, "", usage⟩

/-- The response to a command line. -/
def answer (tools : Toolkit) (settings : Settings) (arguments : List String) : Response :=
  match tools.read arguments with
  | .error response => response
  | .ok o => execute tools settings o

end CommandLine

/-! ### A reader of arguments -/

/-- Why a command line cannot be read. -/
inductive UsageError where
  | unexpectedArgument (argument : String)
  | unexpectedValue (flag value : String)
  | missingValue (option : String)
  | invalidValue (option value : String)
  | repeated (name : String)
  /-- The usage has been asked for. -/
  | helpRequested
  deriving DecidableEq, Inhabited

namespace Options

/-- The flags. -/
def isFlag (name : String) : Bool := name == "--all" || name == "--list" || name == "--show-rules"

/-- The options that take a value. -/
def takesValue (name : String) : Bool :=
  name == "--case" || name == "--subject" || name == "--format" || name == "--timeout-ms"

/-- Gives a flag. -/
def setFlag (o : Options) (name : String) : Except UsageError Options :=
  if name == "--all" then
    if o.all then .error (.repeated name) else .ok { o with all := true }
  else if name == "--list" then
    if o.list then .error (.repeated name) else .ok { o with list := true }
  else if o.showRules then .error (.repeated name) else .ok { o with showRules := true }

/-- Gives an option that has not been given before, with a value that can be read. -/
def setValue {β : Type} (name value : String) (before parsed : Option β)
    (set : β → Options) : Except UsageError Options :=
  match parsed with
  | none => .error (.invalidValue name value)
  | some b => if before.isSome then .error (.repeated name) else .ok (set b)

/-- Gives an option with a value. -/
def setOption (o : Options) (name value : String) : Except UsageError Options :=
  if name == "--case" then
    setValue name value o.case? (some value) fun c => { o with case? := some c }
  else if name == "--subject" then
    setValue name value o.subject? (Specimen.ofWord? value) fun s => { o with subject? := some s }
  else if name == "--format" then
    setValue name value o.format? (Format.ofWord? value) fun f => { o with format? := some f }
  else
    setValue name value o.timeout? (Numeral.parse? value.toUTF8.toList) fun t =>
      { o with timeout? := some t }

/-- An argument that starts with two dashes, cut at its first equals sign. -/
def cut (argument : String) : String × Option String :=
  let name := argument.toList.takeWhile (· != '=')
  match argument.toList.drop name.length with
  | [] => (argument, none)
  | _ :: value => (String.ofList name, some (String.ofList value))

/-- Whether an argument may be the value of the option in front of it. -/
def isValue (argument : String) : Bool :=
  match argument.toList with
  | '-' :: _ :: _ => false
  | _ => true

/-- Reads an argument that needs no value from the one behind it. -/
def readAlone (o : Options) (argument : String) : Except UsageError Options :=
  match argument.toList with
  | '-' :: '-' :: _ =>
    match cut argument with
    | ("--help", none) => .error .helpRequested
    | (name, none) => if isFlag name then o.setFlag name else .error (.unexpectedArgument name)
    | (name, some value) =>
      if takesValue name then o.setOption name value
      else if isFlag name || name == "--help" then .error (.unexpectedValue name value)
      else .error (.unexpectedArgument name)
  | '-' :: 'h' :: _ => .error .helpRequested
  | _ => .error (.unexpectedArgument argument)

/-- Reads arguments one after the other. -/
def readAll (o : Options) : List String → Except UsageError Options
  | [] => .ok o
  | "--" :: [] => .ok o
  | "--" :: argument :: _ => .error (.unexpectedArgument argument)
  | argument :: rest =>
    if takesValue argument then
      match rest with
      | [] => .error (.missingValue argument)
      | value :: rest =>
        if isValue value then
          match o.setOption argument value with
          | .ok o => readAll o rest
          | .error e => .error e
        else .error (.missingValue argument)
    else
      match o.readAlone argument with
      | .ok o => readAll o rest
      | .error e => .error e

/-- The options that arguments give. -/
def parse (arguments : List String) : Except UsageError Options := readAll unset arguments

end Options

namespace CommandLine

/-- The description of all options. -/
def help : String := unlines ([
  "Whitebox conformance runner for rstreams subscribers",
  "",
  "Usage: " ++ program ++ " [OPTIONS]",
  "",
  "Options:",
  "      --case <CASE>              Run a single catalog entry by name",
  "      --all                      Run every catalog entry",
  "      --list                     List catalog entries",
  "      --show-rules               Show the rules covered by each entry",
  "      --subject <SUBJECT>        Subscriber to verify [default: reference]",
  "      --format <FORMAT>          Output format [default: text]",
  "      --timeout-ms <TIMEOUT_MS>  Override the default wait bound (" ++ Config.timeoutSetting ++
    ")",
  "  -h, --help                     Print help"])

/-- Why a command line cannot be read, as a sentence. -/
def complaint : UsageError → String
  | .unexpectedArgument a => "unexpected argument '" ++ a ++ "' found"
  | .unexpectedValue f v => "unexpected value '" ++ v ++ "' for '" ++ f ++ "' found"
  | .missingValue o => "a value is required for '" ++ o ++ "' but none was supplied"
  | .invalidValue o v => "invalid value '" ++ v ++ "' for '" ++ o ++ "'"
  | .repeated n => "the argument '" ++ n ++ "' cannot be used multiple times"
  | .helpRequested => ""

/-- The response to a command line that cannot be read. -/
def refuse : UsageError → Response
  | .helpRequested => ⟨0, help, ""⟩
  | e => ⟨2, "", "error: " ++ complaint e ++ "\n\nFor more information, try '--help'.\n"⟩

/-- Tools that read arguments in this way and write JSON with indentation. -/
def standard : Toolkit where
  read arguments := (Options.parse arguments).mapError refuse
  write := Json.indented

/-- The response to a command line with these tools. -/
def respond (settings : Settings) (arguments : List String) : Response :=
  answer standard settings arguments

end CommandLine

end StreamConformance
