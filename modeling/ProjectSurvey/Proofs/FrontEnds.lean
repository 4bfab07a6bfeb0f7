import ProjectSurvey.Proofs.AnswerPayload
import ProjectSurvey.Proofs.CallFaults
import ProjectSurvey.Proofs.CommandLines
import ProjectSurvey.Proofs.ServiceRequests

/-! The command line, the service and a call of a tool agree: whichever way a tool is asked, the payload
of the answer, or the message about what the caller did wrong, is the same. -/

namespace ProjectSurvey

open CommandLine

/-- Whether the texts that arguments hold for the parameters of the tools are whole. Those that a JSON text holds
are: halves of a surrogate pair that stand side by side in it are one character. -/
def ArgumentsAreWhole (arguments : List (Text × Json)) : Prop :=
  ∀ parameter ∈ Request.parameterNames, ∀ text, Json.field? arguments parameter = some (.str text) → text.IsWhole

section Arguments

variable {arguments : List (Text × Json)} (single : (arguments.map (·.1)).Nodup) (whole : ArgumentsAreWhole arguments)

include single whole

theorem textArgument_readFields {parameter : Text} (known : parameter ∈ Request.parameterNames) :
    textArgument (Json.readFields arguments) parameter = textArgument arguments parameter := by
  have plain : ∀ parameter ∈ Request.parameterNames, parameter.IsPlain := by decide
  simp only [textArgument, Json.field?_readFields (plain parameter known) single]
  cases found : Json.field? arguments parameter with
  | none => rfl
  | some value =>
    cases value with
    | str text =>
      have same := Text.rejoined_of_isWhole (whole parameter known text found)
      simp only [Option.map_some, Json.reread, Json.merged, same]
    | null => rfl
    | bool => rfl
    | int => rfl
    | float => rfl
    | array => rfl
    | object => rfl

/-- A call with arguments that have been written and read back makes the same request. -/
theorem ofCall_readFields (name category : Text) :
    Request.ofCall name (some (.object (Json.readFields arguments))) category =
      Request.ofCall name (some (.object arguments)) category := by
  have same := @textArgument_readFields arguments single whole
  simp only [Request.ofCall, Request.ofFields, same (show "path".toList ∈ Request.parameterNames by decide),
    same (show "component_type".toList ∈ Request.parameterNames by decide),
    same (show "search_term".toList ∈ Request.parameterNames by decide)]

end Arguments

theorem callTool_congr {log : UsageLog} {listener : Listener} {occasion : Occasion} {place : Place}
    {name category : Text} {arguments others : Option Json}
    (same : Request.ofCall name arguments category = Request.ofCall name others category) :
    callTool log listener occasion place name arguments category =
      callTool log listener occasion place name others category := by
  rw [callTool, callTool, same]

namespace CommandLine

section Runs

variable {environment : Environment} {stage : Stage} {path : Text} {config : Config} {quiet : Bool}

/-- The usage log of a command, which may be turned off. -/
def logOf (environment : Environment) (config : Config) (quiet : Bool) : UsageLog :=
  usageLogOf (Options.leading quiet environment.logDirectory) config

/-- A stage on which messages go to the console alone. -/
def Stage.onConsole (place : Place) (verbose : Bool) : Stage :=
  ⟨place, some ⟨Diagnostics.levelFor verbose, none⟩⟩

theorem Setting.ofPath_loaded
    (loads : stage.place.loadConfig environment.homes (.ofText path) = .ok config) :
    Setting.ofPath environment stage (Options.leading quiet environment.logDirectory) path =
      .ok ⟨config, logOf environment config quiet, .onConsole stage.place config.verbose⟩ := by
  rw [Setting.ofPath, loads]
  rfl

theorem Stage.succeed_isPlain (stage : Stage) {text : Text} (plain : text.IsPlain) :
    stage.succeed [text] = stage.finish 0 text [] none := by
  have printable : unprintable? text = none := Text.unencodable?_of_isPlain _ plain
  simp [Stage.succeed, printable]

theorem isPlain_printedJson (json : Json) : (printedJson json).IsPlain :=
  Text.isPlain_append.mpr ⟨Json.isPlain_pretty json, by decide⟩

/-- The end of a run that prints the result of a call as JSON. -/
def Stage.conclude (stage : Stage) (spec : CommandSpec) : Except CallFault Answer → Run
  | .ok answer => stage.finish 0 (printedJson answer.payload) [] none
  | .error (.unknownTool name) => stage.fail (CallFault.unknownTool name).message
  | .error (.argumentNotText parameter kind) =>
    stage.misuse spec
      (.invalid argumentsOption.long (CallFault.argumentNotText parameter kind).message)
  | .error fault => stage.abort (.call fault)

theorem callAndPrint_onConsole (log : UsageLog) (place : Place) (spec : CommandSpec) (name : Text)
    (arguments : List (Text × Json)) (category : Text) :
    let outcome := callTool log .silent environment.occasion place name (some (.object arguments)) category
    callAndPrint environment ⟨config, log, .onConsole place config.verbose⟩ spec name arguments category
        (shown true) =
      (Stage.onConsole outcome.place config.verbose).conclude spec outcome.result := by
  intro outcome
  have told : callTool log (Stage.listener (.onConsole place config.verbose) environment)
      environment.occasion (Stage.onConsole place config.verbose).place name (some (.object arguments))
      category = outcome := rfl
  rw [callAndPrint]
  simp only [told]
  cases outcome.result with
  | ok answer => exact Stage.succeed_isPlain _ (isPlain_printedJson _)
  | error fault => cases fault <;> rfl

/-- A search prints what the tool gives for its category and its term. -/
theorem run_search (loads : stage.place.loadConfig environment.homes (.ofText path) = .ok config)
    {category : Text} (plain : category.head? ≠ some '-') (pathPlain : path.head? ≠ some '-')
    (term : Text) :
    let outcome := callTool (logOf environment config quiet) .silent environment.occasion stage.place
      searchTool (some (.object [("path".toList, .str path), ("component_type".toList, .str category),
        ("search_term".toList, .str term)])) config.defaultCategory
    run environment stage (searchLine quiet category path term) =
      (Stage.onConsole outcome.place config.verbose).conclude searchSpec outcome.result := by
  rw [run, wish_search quiet _ _ plain pathPlain term]
  simp only [Command.run, Setting.ofPath_loaded loads]
  exact callAndPrint_onConsole _ _ _ _ _ _

/-- An analysis prints what the tool gives, with the category that is named for its default. -/
theorem run_analyze (loads : stage.place.loadConfig environment.homes (.ofText path) = .ok config)
    (pathPlain : path.head? ≠ some '-') (category : Option Text) :
    let outcome := callTool (logOf environment config quiet) .silent environment.occasion stage.place
      analyzeTool (some (.object [("path".toList, .str path)]))
      (((given? category).map Text.lower).getD config.defaultCategory)
    run environment stage (analyzeLine quiet path category) =
      (Stage.onConsole outcome.place config.verbose).conclude analyzeSpec outcome.result := by
  rw [run, wish_analyze quiet _ _ pathPlain category]
  simp only [Command.run, Setting.ofPath_loaded loads]
  exact callAndPrint_onConsole _ _ _ _ _ _

/-- A call prints what the tool gives for the arguments as they are read. -/
theorem run_call (loads : stage.place.loadConfig environment.homes (.ofText path) = .ok config)
    {name : Text} (plain : name.head? ≠ some '-') {arguments : List (Text × Json)}
    (bounded : (Json.object arguments).IsBounded Json.depthLimit) :
    let outcome := callTool (logOf environment config quiet) .silent environment.occasion stage.place name
      (some (.object (Json.readFields arguments))) config.defaultCategory
    run environment stage (callLine quiet name (Json.object arguments).render path) =
      (Stage.onConsole outcome.place config.verbose).conclude callSpec outcome.result := by
  rw [run, wish_call quiet _ _ plain]
  simp only [Command.run, Setting.ofPath_loaded loads, bounded.parse_render.1, Json.reread_object_merged]
  exact callAndPrint_onConsole _ _ _ _ _ _

end Runs

end CommandLine

theorem serve_call (service : Service) (listener : Listener) (occasion : Occasion) (place : Place)
    (line name : Text) {arguments : List (Text × Json)}
    (bounded : (Json.object arguments).IsBounded Json.depthLimit)
    (short : (Json.object arguments).render.length ≤ greatestLength) :
    (service.serve listener occasion place (.toCall line name (Json.object arguments).render)).response =
      Response.ofCall (callTool service.log listener occasion place name
        (some (.object (Json.readFields arguments))) service.defaultCategory).result := by
  have short : (Utf8.encode (Json.object arguments).render).length ≤ greatestLength := by
    rwa [Utf8.length_encode_of_isPlain (Json.isPlain_render _)]
  have dispatched := (Dispatch.ofRequest_toCall line name short).trans (Dispatch.ofBody_render name bounded)
  have complete (request : ServiceRequest) (response : Except ServiceFault Response) (events : List Event)
      (after : Place) : (Served.complete listener request response events after).response = response := by
    cases response <;> rfl
  rw [Service.serve]
  have post : (ServiceRequest.toCall line name (Json.object arguments).render).method = .post := rfl
  simp only [post, dispatched, complete]

/-- Whether a text is read as the payload of an answer; unless a count in it is too long to be read, it
is, with halves of surrogate pairs put together. -/
def Answer.IsReadIn (answer : Answer) (text : Text) : Prop :=
  (∀ n ∈ answer.counts, (Text.ofNat n).length ≤ Json.digitLimit) →
    Json.parse text = .ok answer.payload.reread ∧
      (answer.payload.IsExact → Json.parse text = .ok answer.payload)

/-- Whether a run ends well with the payload of an answer as its output. -/
structure CommandLine.Run.Prints (run : Run) (answer : Answer) : Prop where
  exit : run.exit = 0
  output : run.output = printedJson answer.payload
  errors : run.errors = []
  fault : run.fault = none

/-- Whether a run shows what a call has come to. -/
def CommandLine.Run.Shows (run : Run) (outcome : Outcome) : Prop :=
  run.place = outcome.place ∧
    match outcome.result with
    | .ok answer => run.Prints answer ∧ answer.IsReadIn run.output
    | .error fault => run.exit = 1 ∧ run.output = [] ∧ run.fault = some (.call fault)

/-- Whether a run and a response of the service show the same result of a call: the payload of its
answer, or the message about what the caller did wrong. -/
def ShowAlike (run : Run) (response : Except ServiceFault Response) : Except CallFault Answer → Prop
  | .ok answer =>
    run.Prints answer ∧ answer.IsReadIn run.output ∧
      response = .ok ⟨200, answer.payload⟩ ∧ answer.IsReadIn answer.payload.render
  | .error (.unknownTool name) =>
    let message := (CallFault.unknownTool name).message
    run.exit = 1 ∧ run.output = [] ∧ run.fault = none ∧
      run.errors = Text.withEscapedSurrogates ("Error: " ++ message ++ "\n") ∧
      response = .ok (.failure 404 message)
  | .error (.argumentNotText parameter kind) =>
    let message := (CallFault.argumentNotText parameter kind).message
    run.exit = 2 ∧ run.output = [] ∧ run.fault = none ∧
      run.errors = (Refusal.command callSpec (.invalid argumentsOption.long message)).message ∧
      response = .ok (.failure 400 message)
  | .error (.unsurveyable fault) =>
    run.exit = 1 ∧ run.output = [] ∧ run.fault = some (.call (.unsurveyable fault)) ∧
      response = .error (.call (.unsurveyable fault))
  | .error _ => False

theorem isReadIn_printed {log : UsageLog} {listener : Listener} {occasion : Occasion} {place : Place}
    {name category : Text} {arguments : Option Json} {answer : Answer}
    (answered : (callTool log listener occasion place name arguments category).result = .ok answer) :
    answer.IsReadIn (printedJson answer.payload) ∧ answer.IsReadIn answer.payload.render := by
  have read (short : ∀ n ∈ answer.counts, (Text.ofNat n).length ≤ Json.digitLimit) :=
    Answer.isReadable_payload (callTool_isScored answered) short
  constructor
  · intro short
    have parsed := Json.parse_pretty (read short)
    exact ⟨parsed, fun exact => parsed.trans (congrArg Except.ok exact.reread_eq)⟩
  · intro short
    have parsed := (Json.parse_render (read short)).1
    exact ⟨parsed, fun exact => parsed.trans (congrArg Except.ok exact.reread_eq)⟩

private theorem isPlain_kind : ∀ value : Json, value.kind.IsPlain
  | .null => (by decide : Text.IsPlain "NoneType")
  | .bool _ => (by decide : Text.IsPlain "bool")
  | .int _ => (by decide : Text.IsPlain "int")
  | .float _ => (by decide : Text.IsPlain "float")
  | .str _ => (by decide : Text.IsPlain "str")
  | .array _ => (by decide : Text.IsPlain "list")
  | .object _ => (by decide : Text.IsPlain "dict")

private theorem message_notText (parameter kind : Text) :
    (CallFault.argumentNotText parameter kind).message =
      "Argument '" ++ parameter ++ "' must be a string, got " ++ kind := rfl

private theorem message_invalid (reason : Text) :
    (Refusal.command callSpec (.invalid argumentsOption.long reason)).message =
      callSpec.usage ++ "\n" ++ "Try '" ++ callSpec.path ++ " --help' for help.\n" ++ "\n" ++ "Error: "
        ++ ("Invalid value for " ++ "--args" ++ ": " ++ reason) ++ "\n" := rfl

theorem isPlain_notText {parameter : Text} (known : parameter ∈ Request.parameterNames) (value : Json) :
    (Refusal.command callSpec (.invalid argumentsOption.long
      (CallFault.argumentNotText parameter value.kind).message)).message.IsPlain := by
  have names : ∀ parameter ∈ Request.parameterNames, parameter.IsPlain := by decide
  have usage : callSpec.usage.IsPlain ∧ callSpec.path.IsPlain := by decide
  rw [message_invalid, message_notText]
  simp only [Text.isPlain_append, usage, names parameter known, isPlain_kind value, and_true, true_and]
  decide

section Conclusions

variable {occasion : Occasion} {place : Place} {name category : Text} (verbose : Bool)

/-- A call whose arguments have been checked fails only for what cannot be recorded or surveyed. -/
theorem callTool_fault {log : UsageLog} {listener : Listener} {arguments : Option Json}
    {request : Request} {fault : CallFault}
    (made : Request.ofCall name arguments category = .ok request)
    (failed : (callTool log listener occasion place name arguments category).result = .error fault) :
    fault.isCallers = false := by
  cases callers : fault.isCallers with
  | false => rfl
  | true => cases made.symm.trans (callTool_comesTo.refusal failed callers)

theorem conclude_shows {log : UsageLog} {arguments : Option Json} {request : Request}
    (made : Request.ofCall name arguments category = .ok request) (spec : CommandSpec) :
    let outcome := callTool log .silent occasion place name arguments category
    ((Stage.onConsole outcome.place verbose).conclude spec outcome.result).Shows outcome := by
  intro outcome
  cases result : outcome.result with
  | ok answer =>
    have read := (isReadIn_printed result).1
    exact ⟨rfl, by rw [result]; exact ⟨⟨rfl, rfl, rfl, rfl⟩, read⟩⟩
  | error fault =>
    have others := callTool_fault made result
    refine ⟨by cases fault <;> rfl, ?_⟩
    rw [result]
    cases fault <;> first | exact ⟨rfl, rfl, rfl⟩ | cases others

theorem conclude_showsAlike {arguments : List (Text × Json)} :
    let outcome := callTool .silent .silent occasion place name (some (.object arguments)) category
    ShowAlike ((Stage.onConsole outcome.place verbose).conclude callSpec outcome.result)
      (Response.ofCall outcome.result) outcome.result := by
  intro outcome
  cases result : outcome.result with
  | ok answer =>
    have read := isReadIn_printed result
    exact ⟨⟨rfl, rfl, rfl, rfl⟩, read.1, rfl, read.2⟩
  | error fault =>
    cases made : Request.ofCall name (some (.object arguments)) category with
    | ok request =>
      have silent := callTool_silent occasion place name (some (.object arguments)) category
      rw [made] at silent
      obtain ⟨cause, _, rfl⟩ := mapError_fails.mp (silent.symm.trans result)
      exact ⟨rfl, rfl, rfl, rfl⟩
    | error refusal =>
      have refused : outcome.result = .error refusal := by
        simp only [outcome, callTool, made]
      cases refused.symm.trans result
      rcases Request.ofFields_fault made with rfl | ⟨parameter, known, value, rfl⟩
      · exact ⟨rfl, rfl, rfl, rfl, rfl⟩
      · exact ⟨rfl, rfl, rfl, Text.withEscapedSurrogates_of_isPlain (isPlain_notText known value), rfl⟩

end Conclusions

theorem ShowAlike.response_eq {run : Run} {response : Except ServiceFault Response}
    {result : Except CallFault Answer} (alike : ShowAlike run response result) :
    response = Response.ofCall result := by
  cases result with
  | ok answer => exact alike.2.2.1
  | error fault =>
    cases fault with
    | unknownTool => exact alike.2.2.2.2
    | argumentNotText => exact alike.2.2.2.2
    | unsurveyable => exact alike.2.2.2
    | argumentsNotObject => exact alike.elim
    | unrecordable => exact alike.elim

end ProjectSurvey
