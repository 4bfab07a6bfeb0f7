import ProjectSurvey.CommandLine.Help
import ProjectSurvey.Config
import ProjectSurvey.Service

/-! The commands of the program and what a command line asks for: a command, help, or the version. -/

namespace ProjectSurvey.CommandLine

def version : Text := "1.1.1"

/-! Declarations -/

def versionOption : OptionSpec := ⟨"--version", none, none, "Show the version and exit."⟩

def verboseOption : OptionSpec := ⟨"--verbose", some 'v', none, "Debug logging"⟩

def silentOption : OptionSpec := ⟨"--no-usage-log", none, none, "Do not record tool calls"⟩

def logDirectoryOption : OptionSpec :=
  ⟨"--log-dir", none, some "TEXT", "Directory for usage logs (overrides config)"⟩

def logFileOption : OptionSpec :=
  ⟨"--log-file", none, some "FILE", "Also write diagnostic logs to this file"⟩

def categoryOption : OptionSpec :=
  ⟨"--category", some 'c', some "TEXT", "Component category for pattern guidance"⟩

def jsonOption : OptionSpec :=
  ⟨"--json-only", none, none, "Output raw JSON to stdout (for piping)"⟩

def termOption : OptionSpec :=
  ⟨"--term", some 't', some "TEXT", "Free-text term to look for"⟩

def argumentsOption : OptionSpec :=
  ⟨"--args", none, some "TEXT", "Tool arguments as a JSON object"⟩

def pathOption : OptionSpec :=
  ⟨"--path", none, some "TEXT", "Project path used for config lookup"⟩

def hostOption : OptionSpec := ⟨"--host", none, some "TEXT", "Interface to bind"⟩

def portOption : OptionSpec := ⟨"--port", some 'p', some "INTEGER", "Port to serve on"⟩

/-- The project that is meant when none is named. -/
def currentProject : Text := "."

def pathOperand : Operand := ⟨"PATH", some currentProject⟩

def analyzeSpec : CommandSpec where
  name := "analyze"
  operands := [pathOperand]
  summary := "Analyze a project's architecture and existing patterns."
  examples := ["project-guard analyze .", "project-guard analyze ./web --category modal"]
  options := [categoryOption, jsonOption]

def searchSpec : CommandSpec where
  name := "search"
  operands := [⟨"CATEGORY", none⟩, pathOperand]
  summary := "Find existing code similar to CATEGORY (modal, button, form, api, ...)."
  examples := []
  options := [termOption, jsonOption]

def callSpec : CommandSpec where
  name := "call"
  operands := [⟨"NAME", none⟩]
  summary := "Call a tool by NAME and print its JSON payload."
  examples := []
  options := [argumentsOption, pathOption]

def serveSpec : CommandSpec where
  name := "serve"
  operands := [pathOperand]
  summary := "Serve the tools as a local JSON API."
  examples := []
  options := [hostOption, portOption]

def toolsSpec : CommandSpec := ⟨"tools", [], "List available tools.", [], []⟩

def versionSpec : CommandSpec := ⟨"version", [], "Show version information.", [], []⟩

def program : ProgramSpec where
  paragraphs := [
    "project-guard - tells code generators what already exists.",
    "Detects a project's language and layout conventions, inventories its components, hooks, imports and idioms, and finds code similar to what you are about to write."]
  options := [versionOption, verboseOption, silentOption, logDirectoryOption, logFileOption,
    helpOption]
  commands := [analyzeSpec, callSpec, searchSpec, serveSpec, toolsSpec, versionSpec]

/-! What a command line asks for -/

inductive Command where
  | analyze (path : Text) (category : Option Text) (jsonOnly : Bool)
  | search (category path term : Text) (jsonOnly : Bool)
  | call (name arguments path : Text)
  | serve (path host : Text) (port : Int)
  | tools
  | version
  deriving DecidableEq, Repr

structure Options where
  verbose : Bool
  noUsageLog : Bool
  logDirectory : Option Text
  logFile : Option Path
  deriving DecidableEq, Repr

inductive Refusal where
  /-- There are no arguments at all. -/
  | nothingAsked
  | general (fault : UsageFault)
  | command (spec : CommandSpec) (fault : UsageFault)
  /-- The path of the log file is one that no file can have. -/
  | inaccessible (fault : Fault)

inductive Wish where
  | programHelp
  | programVersion
  | commandHelp (spec : CommandSpec)
  | run (options : Options) (command : Command)

def Command.ofParsed (spec : CommandSpec) (operands : List Text) (parsed : Parsed) :
    Except UsageFault Command :=
  let operand (n : Nat) : Text := operands.getD n []
  let valueOr (option : OptionSpec) (otherwise : Text) : Text :=
    (parsed.value? option.long).getD otherwise
  if spec.name = analyzeSpec.name then
    .ok (.analyze (operand 0) (parsed.value? categoryOption.long) (parsed.has jsonOption.long))
  else if spec.name = searchSpec.name then
    .ok (.search (operand 0) (operand 1) (valueOr termOption []) (parsed.has jsonOption.long))
  else if spec.name = callSpec.name then
    .ok (.call (operand 0) (valueOr argumentsOption ['\x7b', '\x7d'])
      (valueOr pathOption currentProject))
  else if spec.name = serveSpec.name then
    match parsed.value? portOption.long with
    | none => .ok (.serve (operand 0) (valueOr hostOption defaultHost) defaultPort)
    | some text =>
      match readWhole 10 text with
      | .ok port => .ok (.serve (operand 0) (valueOr hostOption defaultHost) port)
      | .error _ =>
        .error (.invalid portOption.hint (text.quoted ++ " is not a valid integer."))
  else if spec.name = toolsSpec.name then .ok .tools
  else .ok .version

/-- The operands of a command. A value that is no good is told before operands that are too many,
and operands that are missing before both. -/
def operandsOf (spec : CommandSpec) (parsed : Parsed) : Except UsageFault (List Text) :=
  bindOperands spec.operands (parsed.operands.take spec.operands.length)

def Wish.ofCommand (options : Options) (spec : CommandSpec) (arguments : List Text) :
    Except UsageFault Wish := do
  let parsed ← parse spec.allOptions true arguments
  if parsed.has helpOption.long then .ok (.commandHelp spec)
  else
    let operands ← operandsOf spec parsed
    let command ← Command.ofParsed spec operands parsed
    let extra := parsed.operands.drop spec.operands.length
    if extra.isEmpty then .ok (.run options command) else .error (.extraOperands extra)

/-- What may be asked for before a command is known. -/
inductive Start where
  | wish (wish : Wish)
  /-- The options of the program, and the arguments from the command's name on. -/
  | rest (options : Options) (arguments : List Text)

/-- The options of the program at the start of the arguments. `directory` names the directory for
usage logs where no option does. A log file must not be a directory in `place`. -/
def Start.ofArguments (directory : Option Text) (place : Place)
    (arguments : List Text) : Except Refusal Start := do
  let parsed ← (parse program.options false arguments).mapError .general
  match parsed.options.find? fun option =>
      option.1 = helpOption.long || option.1 = versionOption.long with
  | some (name, _) => .ok (.wish (if name = helpOption.long then .programHelp else .programVersion))
  | none =>
    let logFile := parsed.value? logFileOption.long
    let blocked ←
      match logFile with
      | none => .ok none
      | some text =>
        match place.find (.ofText text) with
        | .ok (.directory _) => .ok (if text.isEmpty then none else some text)
        | .error fault => if fault.isOfText then .error (.inaccessible fault) else .ok none
        | _ => .ok none
    match blocked with
    | some text =>
      .error (.general (.invalid logFileOption.hint ("File " ++ text.quoted ++ " is a directory.")))
    | none =>
      .ok (.rest
        { verbose := parsed.has verboseOption.long
          noUsageLog := parsed.has silentOption.long
          logDirectory := (parsed.value? logDirectoryOption.long).or (given? directory)
          logFile := logFile.map Path.ofText }
        parsed.operands)

/-- What a command line asks for. A first operand that names no command is read once more as an
option of the program before it is refused. -/
def Wish.ofArguments (directory : Option Text) (place : Place)
    (arguments : List Text) : Except Refusal Wish := do
  if arguments.isEmpty then .error .nothingAsked
  else
    match ← Start.ofArguments directory place arguments with
    | .wish wish => .ok wish
    | .rest _ [] => .error (.general .missingCommand)
    | .rest options (name :: rest) =>
      match program.commands.find? (·.name == name) with
      | some spec => (Wish.ofCommand options spec rest).mapError (.command spec)
      | none =>
        match ← Start.ofArguments directory place (name :: rest) with
        | .wish wish => .ok wish
        | .rest _ _ => .error (.general (.noSuchCommand name))

/-! Messages -/

/-- A fault of usage as it is told: with the usage it offends against, and how to learn more. -/
def usageText (usage path : Text) (fault : UsageFault) : Text :=
  let reminder : Text :=
    if fault.remindsOfUsage then
      usage ++ "\n" ++ "Try '" ++ path ++ " --help' for help.\n" ++ "\n"
    else []
  reminder ++ "Error: " ++ fault.message ++ "\n"

def Refusal.message : Refusal → Text
  | .nothingAsked => program.help
  | .general fault => usageText ProgramSpec.usage programName fault
  | .command spec fault => usageText spec.usage spec.path fault
  | .inaccessible fault => fault.systemText

end ProjectSurvey.CommandLine
