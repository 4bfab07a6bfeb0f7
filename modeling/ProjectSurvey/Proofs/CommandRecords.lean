import ProjectSurvey.CommandLine.Run
import ProjectSurvey.Proofs.CallRecords
import ProjectSurvey.Proofs.FaultKinds

/-! Where a run of the command line records the call of a tool. The usage log is chosen from the options, the
environment and the settings, in this order. -/

namespace ProjectSurvey

namespace CommandLine

/-- The usage log for what is given: whether it is turned off, the directory that an option names, the one that
the environment names, and the settings. An empty name counts as none, also where it hides another. -/
def chosenLog (off : Bool) (option surrounding : Option Text) (config : Config) : UsageLog :=
  let directory := option.getD (surrounding.getD [])
  if off then .silent
  else if directory ≠ [] then .daily (.ofText directory)
  else if config.usageLogEnabled then .daily (config.root.join config.usageLogDirectory)
  else .silent

/-- Whether options are those that stand before the command. -/
structure Options.AreRead (options : Options) (surrounding : Option Text) (parsed : Parsed) : Prop where
  verbose : options.verbose = parsed.has verboseOption.long
  off : options.noUsageLog = parsed.has silentOption.long
  directory : options.logDirectory = (parsed.value? logDirectoryOption.long).or (given? surrounding)
  file : options.logFile = (parsed.value? logFileOption.long).map Path.ofText

theorem Start.ofArguments_rest {surrounding : Option Text} {place : Place} {arguments rest : List Text}
    {options : Options} (started : Start.ofArguments surrounding place arguments = .ok (.rest options rest)) :
    ∃ parsed, parse program.options false arguments = .ok parsed ∧ options.AreRead surrounding parsed := by
  simp only [Start.ofArguments, bind, Except.bind] at started
  cases read : parse program.options false arguments with
  | error fault => rw [read] at started; cases started
  | ok parsed =>
    refine ⟨parsed, rfl, ?_⟩
    simp only [read, Except.mapError] at started
    repeat' split at started
    all_goals cases started
    all_goals exact ⟨rfl, rfl, rfl, rfl⟩

theorem Start.ofArguments_wish {surrounding : Option Text} {place : Place} {arguments : List Text}
    {options : Options} {command : Command} :
    Start.ofArguments surrounding place arguments ≠ .ok (.wish (.run options command)) := by
  intro started
  simp only [Start.ofArguments, bind, Except.bind] at started
  cases read : parse program.options false arguments with
  | error fault => rw [read] at started; cases started
  | ok parsed =>
    simp only [read, Except.mapError] at started
    split at started
    · next name _ _ => split at started <;> cases started
    · repeat' split at started
      all_goals cases started

theorem Wish.ofCommand_run {options given : Options} {spec : CommandSpec} {arguments : List Text}
    {command : Command} (asked : Wish.ofCommand given spec arguments = .ok (.run options command)) :
    options = given := by
  simp only [Wish.ofCommand, bind, Except.bind] at asked
  split at asked
  · cases asked
  · split at asked
    · cases asked
    · split at asked
      · cases asked
      · split at asked
        · cases asked
        · split at asked <;> cases asked
          rfl

/-- The options with which a command is run are those that stand before it. -/
theorem Wish.ofArguments_run {surrounding : Option Text} {place : Place} {arguments : List Text}
    {options : Options} {command : Command}
    (asked : Wish.ofArguments surrounding place arguments = .ok (.run options command)) :
    ∃ parsed, parse program.options false arguments = .ok parsed ∧ options.AreRead surrounding parsed := by
  simp only [Wish.ofArguments, bind, Except.bind] at asked
  split at asked
  · cases asked
  · cases started : Start.ofArguments surrounding place arguments with
    | error refusal => simp only [started] at asked; cases asked
    | ok start =>
      simp only [started] at asked
      split at asked
      · next wish =>
        cases asked
        exact absurd started Start.ofArguments_wish
      · cases asked
      · next given name rest =>
        obtain ⟨parsed, read, same⟩ := Start.ofArguments_rest started
        split at asked
        · next spec known =>
          cases wished : Wish.ofCommand given spec rest with
          | error fault => rw [wished] at asked; cases asked
          | ok wish =>
            rw [wished] at asked
            cases asked
            rw [Wish.ofCommand_run wished]
            exact ⟨parsed, read, same⟩
        · cases again : Start.ofArguments surrounding place (name :: rest) with
          | error refusal => simp only [again] at asked; cases asked
          | ok start =>
            simp only [again] at asked
            split at asked
            · cases asked
              exact absurd again Start.ofArguments_wish
            · cases asked

theorem usageLogOf_eq {options : Options} {surrounding : Option Text} {parsed : Parsed}
    (read : options.AreRead surrounding parsed) (config : Config) :
    usageLogOf options config =
      chosenLog (parsed.has silentOption.long) (parsed.value? logDirectoryOption.long) surrounding config := by
  rw [usageLogOf, chosenLog, read.off, read.directory]
  cases parsed.value? logDirectoryOption.long with
  | some text => cases text <;> rfl
  | none =>
    cases surrounding with
    | none => rfl
    | some text => cases text <;> rfl

end CommandLine

/-- Both lines come to one file where both days have the same. -/
theorem Place.Records.both {directory : Path} {start finish : Occasion} {place begun after : Place}
    {first second : Event} {usage : Location}
    (records : Records none place after ((UsageLog.daily directory).lineAt start begun first)
      ((UsageLog.daily directory).lineAt finish begun second))
    (stands : begun.hasCurrent = true) (opened : UsageLog.opened? directory start begun = some usage)
    (closed : UsageLog.opened? directory finish begun = some usage) :
    after.contentAt? usage = some ((place.contentAt? usage).getD [] ++ Utf8.encode
      (UsageLog.line start begun.currentPath first ++ UsageLog.line finish begun.currentPath second)) ∧
    ∀ location, location ≠ usage → after.contentAt? location = place.contentAt? location := by
  refine ⟨?_, fun location apart => ?_⟩
  · rw [records.exact usage nofun, UsageLog.lineAt, UsageLog.lineAt, if_pos ⟨stands, opened⟩, if_pos ⟨stands, closed⟩,
      grown, if_neg]
    simp [UsageLog.line]
  · have elsewhere : ¬some usage = some location := by simpa using Ne.symm apart
    rw [records.exact location nofun, UsageLog.lineAt, UsageLog.lineAt, opened, closed, if_neg (elsewhere ·.2),
      if_neg (elsewhere ·.2)]
    rfl

theorem Place.canonical_isAbsolute (place : Place) (path : Path) :
    Yields (·.isAbsolute = true) (place.canonical path) := by
  refine (yields_any _).bind fun reached _ => ?_
  have absolute : Yields (·.isAbsolute = true) (place.absolute reached.2.path) :=
    fun _ done => absolute_isAbsolute done
  refine (yields_mapError.mpr absolute).bind fun found absolute => ?_
  split
  · exact yields_error _
  · exact yields_ite.mpr ⟨fun _ => yields_error _, fun _ => yields_ok.mpr absolute⟩
  · exact yields_ok.mpr absolute

theorem Place.configFile_isAbsolute (place : Place) (homes : Homes) (path : Path) :
    Yields (·.isAbsolute = true) (place.configFile homes path) := by
  refine (yields_any _).bind fun known _ => ?_
  refine (yields_mapError.mpr (place.canonical_isAbsolute known)).bind fun real absolute => ?_
  have descended : (real.descend [configName]).isAbsolute = true := absolute
  refine yields_ite.mpr ⟨fun _ => (yields_any _).bind fun isDirectory _ => yields_ok.mpr ?_,
    fun _ => yields_ok.mpr descended⟩
  split
  · exact descended
  · exact absolute

theorem Config.ofText_root (root : Path) (file text : Text) :
    Yields (·.root = root) (Config.ofText root file text) := by
  rw [Config.ofText]
  split
  · exact yields_error _
  · exact yields_error _
  · split
    · exact yields_ok.mpr rfl
    · refine yields_mapError.mpr ((yields_any _).bind fun _ _ => (yields_any _).bind fun _ _ => ?_)
      exact yields_ok.mpr rfl
    · exact yields_error _

/-- The settings of a path are rooted where its file is, which has a path from the root on. -/
theorem Place.loadConfig_root {place : Place} {homes : Homes} {path : Path} {config : Config}
    (loads : place.loadConfig homes path = .ok config) :
    ∃ file, place.configFile homes path = .ok file ∧ file.isAbsolute = true ∧ config.root = file.parent := by
  cases resolved : place.configFile homes path with
  | error fault => rw [Place.loadConfig, resolved] at loads; cases loads
  | ok file =>
    have known : Yields (· = file) (place.configFile homes path) := by rw [resolved, yields_ok]
    have rooted : Yields (·.root = file.parent) (place.loadConfig homes path) := by
      refine known.bind fun other same => (yields_any _).bind fun isThere _ => ?_
      subst same
      refine yields_ite.mpr ⟨fun _ => ?_, fun _ => yields_ok.mpr rfl⟩
      exact (yields_any _).bind fun _ _ => (yields_any _).bind fun _ _ => Config.ofText_root _ _ _
    exact ⟨file, rfl, place.configFile_isAbsolute homes path file resolved, rooted config loads⟩

/-- Setting up messages adds no byte to any file, and makes the log file alone. -/
theorem Diagnostics.configure_contents {place after : Place} {verbose : Bool} {file : Option Path}
    {diagnostics : Diagnostics} (done : Diagnostics.configure place verbose file = (after, diagnostics, none)) :
    (∀ location, diagnostics.file ≠ some location → after.contentAt? location = place.contentAt? location) ∧
      ∀ location, (after.contentAt? location).getD [] = (place.contentAt? location).getD [] := by
  simp only [configure] at done
  split at done
  · cases done
    exact ⟨fun _ _ => rfl, fun _ => rfl⟩
  · split at done
    · next opened location opening =>
      cases done
      obtain ⟨_, absolute, opening⟩ := openFile_eq_ok opening
      obtain ⟨there, others⟩ := Place.openForAppending_contents absolute opening
      refine ⟨fun other apart => others other (by simpa using apart), fun other => ?_⟩
      by_cases here : location = other
      · rw [← here, there, Option.getD_some]
      · rw [others other here]
    · cases done

namespace CommandLine

variable {environment : Environment} {stage : Stage} {options : Options}

/-- What has been set up for a path: its settings, the log that the options choose, and messages. -/
theorem Setting.ofPath_eq_ok {path : Text} {setting : Setting}
    (set : Setting.ofPath environment stage options path = .ok setting) :
    stage.place.loadConfig environment.homes (.ofText path) = .ok setting.config ∧
      setting.log = usageLogOf options setting.config ∧
      ∃ diagnostics, setting.stage.diagnostics = some diagnostics ∧
        Diagnostics.configure stage.place (options.verbose || setting.config.verbose) options.logFile =
          (setting.stage.place, diagnostics, none) := by
  simp only [Setting.ofPath] at set
  cases loads : stage.place.loadConfig environment.homes (.ofText path) with
  | error fault => simp only [loads] at set; cases set
  | ok config =>
    simp only [loads] at set
    split at set
    · cases set
    · next place diagnostics configured =>
      cases set
      exact ⟨rfl, rfl, diagnostics, rfl, configured⟩

/-- The call of a tool that a command makes once the settings for its path are known. -/
structure ToolCall where
  path : Text
  setting : Setting
  name : Text
  fields : List (Text × Json)
  defaultCategory : Text

/-- The call that a command comes to, if it calls a tool. -/
def Command.toolCall? (environment : Environment) (stage : Stage) (options : Options) : Command → Option ToolCall
  | .analyze path category _ =>
    (Setting.ofPath environment stage options path).toOption.map fun setting =>
      ⟨path, setting, analyzeTool, [("path", .str path)],
        ((given? category).map Text.lower).getD setting.config.defaultCategory⟩
  | .search category path term _ =>
    (Setting.ofPath environment stage options path).toOption.map fun setting =>
      ⟨path, setting, searchTool,
        [("path", .str path), ("component_type", .str category), ("search_term", .str term)],
        setting.config.defaultCategory⟩
  | .call name arguments path =>
    (Setting.ofPath environment stage options path).toOption.bind fun setting =>
      match Json.parse arguments with
      | .ok (.object fields) => some ⟨path, setting, name, fields, setting.config.defaultCategory⟩
      | _ => none
  | .serve .. | .tools | .version => none

namespace ToolCall

def outcome (call : ToolCall) (environment : Environment) (finish : Occasion) : Outcome :=
  callToolUntil call.setting.log (call.setting.stage.listener environment) environment.occasion finish
    call.setting.stage.place call.name (some (.object call.fields)) call.defaultCategory

/-- The file that gets the messages of a call. -/
def logFile? (call : ToolCall) : Option Location :=
  call.setting.stage.diagnostics.bind Diagnostics.file

end ToolCall

theorem callAndPrint_place (environment : Environment) (setting : Setting) (spec : CommandSpec) (name : Text)
    (fields : List (Text × Json)) (category : Text) (present : Answer → Except Terminal.MarkupFault Prints) :
    (callAndPrint environment setting spec name fields category present).place =
      (callTool setting.log (setting.stage.listener environment) environment.occasion setting.stage.place name
        (some (.object fields)) category).place := by
  rw [callAndPrint]
  split
  · split
    · rw [Stage.succeed]
      split <;> rfl
    · rfl
  all_goals rfl

theorem Command.toolCall?_setting {command : Command} {call : ToolCall}
    (calls : command.toolCall? environment stage options = some call) :
    Setting.ofPath environment stage options call.path = .ok call.setting := by
  have given {path : Text} {setting : Setting}
      (set : (Setting.ofPath environment stage options path).toOption = some setting) :
      Setting.ofPath environment stage options path = .ok setting := by
    cases found : Setting.ofPath environment stage options path with
    | error run => rw [found] at set; cases set
    | ok other => rw [found] at set; cases set; rfl
  cases command with
  | analyze path category jsonOnly =>
    obtain ⟨setting, set, rfl⟩ := Option.map_eq_some_iff.mp calls
    exact given set
  | search category path term jsonOnly =>
    obtain ⟨setting, set, rfl⟩ := Option.map_eq_some_iff.mp calls
    exact given set
  | call name arguments path =>
    obtain ⟨setting, set, rest⟩ := Option.bind_eq_some_iff.mp calls
    split at rest <;> cases rest
    exact given set
  | serve path host port => cases calls
  | tools => cases calls
  | version => cases calls

/-- A command that calls a tool leaves the files as the call does. -/
theorem Command.run_place {command : Command} {call : ToolCall}
    (calls : command.toolCall? environment stage options = some call) :
    (command.run environment stage options).place = (call.outcome environment environment.occasion).place := by
  have set := toolCall?_setting calls
  cases command with
  | analyze path category jsonOnly =>
    obtain ⟨setting, -, rfl⟩ := Option.map_eq_some_iff.mp calls
    simp only [run, set]
    exact callAndPrint_place environment setting _ _ _ _ _
  | search category path term jsonOnly =>
    obtain ⟨setting, -, rfl⟩ := Option.map_eq_some_iff.mp calls
    simp only [run, set]
    exact callAndPrint_place environment setting _ _ _ _ _
  | call name arguments path =>
    obtain ⟨setting, -, rest⟩ := Option.bind_eq_some_iff.mp calls
    split at rest <;> cases rest
    next read =>
      simp only [run, set, read]
      exact callAndPrint_place environment setting _ _ _ _ _
  | serve path host port => cases calls
  | tools => cases calls
  | version => cases calls

/-- The files that a run leaves are those of the call of a tool that it makes. The call, however long it takes, is
recorded by the log that the options, the environment and the settings choose, in this order: the lines of its
start and of its completion come to the file of the log's directory that could be opened when messages had been
set up, or neither does, and nothing else is changed but the log file, to which messages come besides. A directory
that the settings name is taken from where their file is, wherever the run takes place. -/
theorem run_records {environment : Environment} {stage : Stage} {arguments : List Text} {options : Options}
    {command : Command} {call : ToolCall} {finish : Occasion} {answer : Answer}
    (asked : Wish.ofArguments environment.logDirectory stage.place arguments = .ok (.run options command))
    (calls : command.toolCall? environment stage options = some call)
    (answered : (call.outcome environment finish).result = .ok answer) :
    (run environment stage arguments).place = (call.outcome environment environment.occasion).place ∧
    (∃ parsed request, parse program.options false arguments = .ok parsed ∧
      Request.ofCall call.name (some (.object call.fields)) call.defaultCategory = .ok request ∧
      let log := chosenLog (parsed.has silentOption.long) (parsed.value? logDirectoryOption.long)
        environment.logDirectory call.setting.config
      let begun := call.setting.stage.place
      Place.Records call.logFile? stage.place (call.outcome environment finish).place
        (log.lineAt environment.occasion begun request.startEvent) (log.lineAt finish begun answer.completion)) ∧
    ∃ file, stage.place.configFile environment.homes (.ofText call.path) = .ok file ∧
      file.isAbsolute = true ∧ call.setting.config.root = file.parent ∧
      ∀ occasion place current,
        let directory := call.setting.config.root.join call.setting.config.usageLogDirectory
        UsageLog.opened? directory occasion { place with current := current } =
          UsageLog.opened? directory occasion place := by
  obtain ⟨parsed, read, same⟩ := Wish.ofArguments_run asked
  obtain ⟨loads, log, diagnostics, messages, configured⟩ :=
    Setting.ofPath_eq_ok (Command.toolCall?_setting calls)
  obtain ⟨file, resolved, absolute, root⟩ := Place.loadConfig_root loads
  obtain ⟨others, bytes⟩ := Diagnostics.configure_contents configured
  have adds := Diagnostics.listener_addsTo environment.noteTime call.setting.stage.diagnostics
  obtain ⟨request, made, records⟩ := callToolUntil_records adds answered
  refine ⟨?_, ⟨parsed, request, read, made, ?_⟩, file, resolved, absolute, root, ?_⟩
  · rw [run, asked]
    exact Command.run_place calls
  · intro chosen begun
    rw [show chosen = call.setting.log from (log.trans (usageLogOf_eq same _)).symm]
    refine records.since (fun location apart => others location ?_) bytes
    simpa [messages] using apart
  · intro occasion place current directory
    have away : directory.anchor ≠ .here := by
      rw [Path.isAbsolute, bne_iff_ne] at absolute
      simp only [directory, Path.join, root]
      split
      · exact absolute
      · assumption
    exact UsageLog.opened?_resembles (Place.resembles_elsewhere away place current)

/-- A run whose usage log is in the directory that an option names. -/
theorem run_records_named_directory :
    let place : Place := ⟨.directory [("a.py".toList, .file (Utf8.encode "modal"))], []⟩
    let environment : Environment := ⟨⟨"/".toList, []⟩, none, ⟨⟨2024, 1, 1, 0, 0, 0, 0⟩, 1⟩, []⟩
    let arguments : List Text := ["--log-dir", ".logs", "search", "modal"]
    let options : Options := ⟨false, false, some ".logs", none⟩
    let command : Command := .search "modal" "." [] false
    let usage : Location := [".logs".toList, "usage-2024-01-01.log".toList]
    let after := (run environment ⟨place, none⟩ arguments).place
    ∃ call ∈ command.toolCall? environment ⟨place, none⟩ options,
      ∃ request answer, Request.ofCall call.name (some (.object call.fields)) call.defaultCategory = .ok request ∧
        (call.outcome environment environment.occasion).result = .ok answer ∧
        after.contentAt? usage = some (Utf8.encode
          (UsageLog.line environment.occasion ⟨.root, []⟩ request.startEvent ++
            UsageLog.line environment.occasion ⟨.root, []⟩ answer.completion)) ∧
        ∀ location, location ≠ usage → after.contentAt? location = place.contentAt? location := by
  intro place environment arguments options command usage after
  have asked : Wish.ofArguments environment.logDirectory place arguments = .ok (.run options command) := rfl
  obtain ⟨call, calls, answers, messages, stands, opened, current⟩ :
      ∃ call ∈ command.toolCall? environment ⟨place, none⟩ options,
        (call.outcome environment environment.occasion).result.toOption.isSome ∧ call.logFile? = none ∧
        call.setting.stage.place.hasCurrent = true ∧
        UsageLog.opened? (.ofText ".logs") environment.occasion call.setting.stage.place = some usage ∧
        call.setting.stage.place.currentPath = ⟨.root, []⟩ := by decide +kernel
  have given : ∀ parsed ∈ (parse program.options false arguments).toOption,
      parsed.has silentOption.long = false ∧ parsed.value? logDirectoryOption.long = some ".logs" := by
    decide +kernel
  have unmade : place.contentAt? usage = none := by decide +kernel
  cases answered : (call.outcome environment environment.occasion).result with
  | error fault => rw [answered] at answers; cases answers
  | ok answer =>
    obtain ⟨same, ⟨parsed, request, read, made, records⟩, -⟩ := @run_records environment ⟨place, none⟩ arguments
      options command call environment.occasion answer asked calls answered
    obtain ⟨logged, named⟩ := given parsed (by rw [read]; rfl)
    have ran : after = (call.outcome environment environment.occasion).place := same
    clear_value after
    subst ran
    rw [logged, named, messages] at records
    obtain ⟨lines, others⟩ := records.both stands opened opened
    rw [unmade, current] at lines
    exact ⟨call, calls, request, answer, made, answered, lines, others⟩

/-- A run without a usage log makes a usage file of the directory above and writes to it where that is the log
file, here the one message of the search. -/
theorem run_grows_log_file_above :
    let place : Place := ⟨.directory [("w".toList, .directory [("a.py".toList, .file (Utf8.encode "modal"))])],
      ["w".toList]⟩
    let environment : Environment := ⟨⟨"/".toList, []⟩, none, ⟨⟨2024, 1, 1, 0, 0, 0, 0⟩, 1⟩, []⟩
    let arguments : List Text :=
      ["--verbose", "--no-usage-log", "--log-file", "../usage-2024-01-01.log", "search", "modal"]
    let options : Options := ⟨true, true, none, some (.ofText "../usage-2024-01-01.log")⟩
    let command : Command := .search "modal" "." [] false
    let usage : Location := ["usage-2024-01-01.log".toList]
    let after := (run environment ⟨place, none⟩ arguments).place
    Wish.ofArguments environment.logDirectory place arguments = .ok (.run options command) ∧
      (∃ call ∈ command.toolCall? environment ⟨place, none⟩ options,
        call.setting.log = .silent ∧ (call.outcome environment environment.occasion).result.toOption.isSome) ∧
      after.locate false (UsageLog.fileFor (.ofText "..") environment.occasion.now) = .ok usage ∧
      place.contentAt? usage = none ∧ (after.contentAt? usage).map List.length = some 69 := by
  intro place environment arguments options command usage after
  refine ⟨rfl, ?_, ?_, ?_, ?_⟩
  all_goals decide +kernel

end CommandLine

end ProjectSurvey
