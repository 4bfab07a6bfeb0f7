import ProjectSurvey.CommandLine.Command
import ProjectSurvey.CommandLine.Report

/-! Running a command line: settings are read, messages and the usage log are set up, a tool is
called, and its answer is printed as JSON or for people to read. -/

namespace ProjectSurvey.CommandLine

/-- What a command line finds around it, apart from the files. -/
structure Environment where
  homes : Homes
  /-- The directory for usage logs where no option names one. -/
  logDirectory : Option Text
  occasion : Occasion
  /-- The time that messages are told at. -/
  noteTime : Text

/-- Why a run ends without a message. -/
inductive RunFault where
  | inaccessible (fault : Fault)
  | config (fault : ConfigFault)
  | logFile (failure : Failure)
  | arguments (fault : Json.Fault)
  | call (fault : CallFault)
  | markup (fault : Terminal.MarkupFault)
  /-- A text cannot be printed for the lone surrogates in it. -/
  | unprintable (cause : Text.Unencodable)
  deriving DecidableEq, Repr

def RunFault.message : RunFault → Text
  | .inaccessible fault => fault.systemText
  | .config fault => fault.message
  | .logFile failure => failure.message
  | .arguments fault => fault.message
  | .call fault => fault.message
  | .markup fault => fault.message
  | .unprintable cause => cause.message

structure Run where
  exit : Nat
  output : Text
  /-- What is told about a wrong command line or wrong settings. -/
  errors : Text
  fault : Option RunFault
  place : Place
  diagnostics : Option Diagnostics
  /-- The service that the run is there for, until it is interrupted. -/
  service : Option Service

/-- The state of a run between its steps: the files, and where messages go. -/
structure Stage where
  place : Place
  diagnostics : Option Diagnostics

namespace Stage

/-- A run that is over. Errors are told with escapes for what is no character. -/
def finish (stage : Stage) (exit : Nat) (output errors : Text) (fault : Option RunFault) : Run :=
  ⟨exit, output, Text.withEscapedSurrogates errors, fault, stage.place, stage.diagnostics, none⟩

def unprintable? (text : Text) : Option Text.Unencodable :=
  Text.unencodable? (fun _ => true) text

/-- A run that ends with printing; it ends well unless something cannot be printed. -/
def succeed (stage : Stage) (prints : Prints) : Run :=
  let shown := prints.takeWhile fun text => (unprintable? text).isNone
  match prints.findSome? unprintable? with
  | some cause => stage.finish 1 shown.flatten [] (some (.unprintable cause))
  | none => stage.finish 0 shown.flatten [] none

def abort (stage : Stage) (fault : RunFault) : Run :=
  stage.finish 1 [] [] (some fault)

def fail (stage : Stage) (message : Text) : Run :=
  stage.finish 1 [] ("Error: " ++ message ++ "\n") none

def misuse (stage : Stage) (spec : CommandSpec) (fault : UsageFault) : Run :=
  stage.finish 2 [] (Refusal.command spec fault).message none

def listener (stage : Stage) (environment : Environment) : Listener :=
  Diagnostics.listener environment.noteTime stage.diagnostics

end Stage

/-- The usage log that a run writes: none if that is asked for, else the one in the directory that is
named, else the one of the settings. -/
def usageLogOf (options : Options) (config : Config) : UsageLog :=
  if options.noUsageLog then .silent
  else match given? options.logDirectory with
    | some directory => .daily (.ofText directory)
    | none => config.usageLog

structure Setting where
  config : Config
  log : UsageLog
  stage : Stage

/-- Reads the settings for a path and sets up messages and the usage log; or else the run is over. -/
def Setting.ofPath (environment : Environment) (stage : Stage) (options : Options) (path : Text) :
    Except Run Setting :=
  match stage.place.loadConfig environment.homes (.ofText path) with
  | .error fault =>
    .error (if fault.isTold then stage.fail fault.message else stage.abort (.config fault))
  | .ok config =>
    match Diagnostics.configure stage.place (options.verbose || config.verbose) options.logFile with
    | (place, diagnostics, some failure) =>
      .error (Stage.abort ⟨place, some diagnostics⟩ (.logFile failure))
    | (place, diagnostics, none) =>
      .ok ⟨config, usageLogOf options config, ⟨place, some diagnostics⟩⟩

/-- A value as it is printed for programs to read. -/
def printedJson (json : Json) : Text :=
  json.pretty ++ "\n"

/-- Calls a tool and prints its answer by `show`. -/
def callAndPrint (environment : Environment) (setting : Setting) (spec : CommandSpec) (name : Text)
    (arguments : List (Text × Json)) (defaultCategory : Text)
    (present : Answer → Except Terminal.MarkupFault Prints) : Run :=
  let outcome := callTool setting.log (setting.stage.listener environment) environment.occasion
    setting.stage.place name (some (.object arguments)) defaultCategory
  let stage : Stage := ⟨outcome.place, setting.stage.diagnostics⟩
  match outcome.result with
  | .ok answer =>
    match present answer with
    | .ok prints => stage.succeed prints
    | .error fault => stage.abort (.markup fault)
  | .error (.unknownTool name) => stage.fail (CallFault.unknownTool name).message
  | .error (.argumentNotText parameter kind) =>
    stage.misuse spec (.invalid argumentsOption.long (CallFault.argumentNotText parameter kind).message)
  | .error fault => stage.abort (.call fault)

/-- Prints an answer for programs or for people to read. -/
def shown (jsonOnly : Bool) (answer : Answer) : Except Terminal.MarkupFault Prints :=
  if jsonOnly then .ok [printedJson answer.payload] else answerReport answer

def serviceBanner (host : Text) (port : Int) : Text :=
  "[cyan]project-guard[/] serving on http://" ++ host ++ ":" ++ Text.ofInt port
    ++ " (Ctrl+C to stop)"

def servingNote (host : Text) (port : Int) : Note :=
  ⟨"serve", .info, "Serving on http://" ++ host ++ ":" ++ Text.ofInt port⟩

def startService (environment : Environment) (setting : Setting) (host : Text) (port : Int) : Run :=
  match Terminal.ofMarkup (serviceBanner host port) with
  | .error fault => setting.stage.abort (.markup fault)
  | .ok banner =>
    let printed := setting.stage.succeed [Terminal.printed banner]
    if printed.fault.isSome then printed
    else
      { printed with
        place := setting.stage.listener environment printed.place [servingNote host port]
        service := some ⟨setting.log, setting.config.defaultCategory⟩ }

def Command.run (environment : Environment) (stage : Stage) (options : Options) (command : Command) :
    Run :=
  match command with
  | .tools => stage.succeed [toolsReport]
  | .version => stage.succeed [Terminal.printed (programName ++ " v" ++ CommandLine.version)]
  | .analyze path category jsonOnly =>
    match Setting.ofPath environment stage options path with
    | .error run => run
    | .ok setting =>
      let defaultCategory :=
        ((given? category).map Text.lower).getD setting.config.defaultCategory
      callAndPrint environment setting analyzeSpec analyzeTool [("path", .str path)] defaultCategory
        (shown jsonOnly)
  | .search category path term jsonOnly =>
    match Setting.ofPath environment stage options path with
    | .error run => run
    | .ok setting =>
      callAndPrint environment setting searchSpec searchTool
        [("path", .str path), ("component_type", .str category), ("search_term", .str term)]
        setting.config.defaultCategory (shown jsonOnly)
  | .call name arguments path =>
    match Setting.ofPath environment stage options path with
    | .error run => run
    | .ok setting =>
      let refuse (reason : Text) : Run :=
        setting.stage.misuse callSpec (.invalid argumentsOption.long reason)
      match Json.parse arguments with
      | .error (.malformed fault) => refuse ("not valid JSON: " ++ fault.message)
      | .error fault => setting.stage.abort (.arguments fault)
      | .ok (.object fields) =>
        callAndPrint environment setting callSpec name fields setting.config.defaultCategory
          (shown true)
      | .ok _ => refuse "must be a JSON object"
  | .serve path host port =>
    match Setting.ofPath environment stage options path with
    | .error run => run
    | .ok setting => startService environment setting host port

def run (environment : Environment) (stage : Stage) (arguments : List Text) : Run :=
  match Wish.ofArguments environment.logDirectory stage.place arguments with
  | .error (.inaccessible fault) => stage.abort (.inaccessible fault)
  | .error refusal => stage.finish 2 [] refusal.message none
  | .ok .programHelp => stage.succeed [program.help]
  | .ok .programVersion => stage.succeed [programName ++ ", version " ++ version ++ "\n"]
  | .ok (.commandHelp spec) => stage.succeed [spec.help]
  | .ok (.run options command) => command.run environment stage options

end ProjectSurvey.CommandLine
