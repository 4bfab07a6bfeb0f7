import ProjectSurvey.Guidance
import ProjectSurvey.UsageLog

/-! The two tools, called by name with JSON arguments. Arguments are checked before anything is
done; then the start of the call is recorded, the tool is run, and its completion is recorded. -/

namespace ProjectSurvey

def analyzeTool : Text := "analyze_architecture"

def searchTool : Text := "find_similar_code"

/-- A text argument of a tool. -/
structure Parameter where
  name : Text
  description : Text
  default? : Option Text

structure Tool where
  name : Text
  description : Text
  parameters : List Parameter

def tools : List Tool := [
  { name := analyzeTool
    description := "Analyze project architecture, detect language, and return validation rules"
    parameters := [
      ⟨"path", "Project path to analyze (defaults to the working directory)", none⟩] },
  { name := searchTool
    description := "Find existing similar components, functions, or patterns in the project"
    parameters := [
      ⟨"component_type",
        "Type of component/code to find (e.g., 'modal', 'button', 'api', 'form', 'service')",
        some componentCategory⟩,
      ⟨"search_term", "Specific term to search for in code (optional)", some []⟩,
      ⟨"path", "Project path to search in (defaults to the working directory)", none⟩] }]

def Parameter.toJson (parameter : Parameter) : Json :=
  let fields : List (Text × Json) :=
    [("type", .str "string"), ("description", .str parameter.description)]
  match parameter.default? with
  | some value => .object (fields ++ [("default".toList, .str value)])
  | none => .object fields

def Tool.toJson (tool : Tool) : Json :=
  .object [("name", .str tool.name), ("description", .str tool.description),
    ("inputSchema", .object [("type", .str "object"),
      ("properties", .object (tool.parameters.map fun parameter =>
        (parameter.name, parameter.toJson)))])]

def toolListing : Json :=
  .object [("tools", .array (tools.map (·.toJson)))]

inductive Request where
  | analyze (path : Option Text)
  | search (path : Option Text) (category term : Text)
  deriving DecidableEq, Repr

/-- Why a call gives no answer. -/
inductive CallFault where
  | unknownTool (name : Text)
  | argumentsNotObject
  | argumentNotText (name kind : Text)
  /-- The events of the call cannot be recorded. -/
  | unrecordable (fault : Fault)
  | unsurveyable (fault : SurveyFault)
  deriving DecidableEq, Repr

def CallFault.message : CallFault → Text
  | .unknownTool name => "Unknown tool: " ++ name
  | .argumentsNotObject => "Tool arguments must be a JSON object"
  | .argumentNotText name kind => "Argument '" ++ name ++ "' must be a string, got " ++ kind
  | .unrecordable fault => fault.systemText
  | .unsurveyable (.unwalkable fault) => fault.systemText
  | .unsurveyable (.undetectable fault) => fault.message

/-- The text argument called `name`, which may be left out or null. -/
def textArgument (arguments : List (Text × Json)) (name : Text) : Except CallFault (Option Text) :=
  match Json.field? arguments name with
  | none | some .null => .ok none
  | some (.str text) => .ok (some text)
  | some other => .error (.argumentNotText name other.kind)

namespace Request

/-- The request that a tool's name and the fields of its arguments make. -/
def ofFields (name : Text) (arguments : List (Text × Json)) (defaultCategory : Text) :
    Except CallFault Request :=
  if name = analyzeTool then do
    let path ← textArgument arguments "path"
    .ok (.analyze (given? path))
  else if name = searchTool then do
    let path ← textArgument arguments "path"
    let category ← textArgument arguments "component_type"
    let term ← textArgument arguments "search_term"
    .ok (.search (given? path) ((given? category).getD defaultCategory) (term.getD []))
  else .error (.unknownTool name)

/-- The request that a tool's name and its arguments make; arguments may be left out. -/
def ofCall (name : Text) (arguments : Option Json) (defaultCategory : Text) :
    Except CallFault Request :=
  match arguments with
  | none | some .null => ofFields name [] defaultCategory
  | some (.object fields) => ofFields name fields defaultCategory
  | some _ => .error .argumentsNotObject

def optionalText (value : Option Text) : Json :=
  (value.map .str).getD .null

def startEvent : Request → Event
  | .analyze path =>
    ⟨"ARCHITECTURE_ANALYZED", [("tool", .str analyzeTool), ("projectPath", optionalText path)]⟩
  | .search path category term =>
    ⟨"SIMILAR_CODE_SEARCH", [("tool", .str searchTool), ("projectPath", optionalText path),
      ("componentType", .str category), ("searchTerm", .str term)]⟩

end Request

def Json.count (n : Nat) : Json :=
  .int n

/-- The answer of a tool: an analysis with the category that its guidance is for, or the findings of
a search. -/
inductive Answer where
  | analysis (analysis : Analysis) (category : Text)
  | findings (found : Findings)

namespace Answer

/-- The answer as it is given to the caller. -/
def payload : Answer → Json
  | .analysis survey category =>
    .object [("summary", survey.toJson),
      ("instructions", .str (architectureInstructions survey)),
      ("guidance", .str (patternGuidance survey category))]
  | .findings found =>
    .object [("componentType", .str found.category), ("searchTerm", .str found.term),
      ("exactMatches", .count found.exactMatches.length),
      ("termMatches", .count found.termMatches.length),
      ("patterns", .count found.idioms.length),
      ("guidance", .str (searchGuidance found none)),
      ("results", found.toJson)]

def completion : Answer → Event
  | .analysis survey _ =>
    ⟨"ARCHITECTURE_COMPLETE", [("detectedLanguage", .str survey.profile.name),
      ("componentsFound", .count survey.components.length)]⟩
  | .findings found =>
    ⟨"SIMILAR_CODE_COMPLETE", [("exactMatches", .count found.exactMatches.length),
      ("termMatches", .count found.termMatches.length),
      ("patternsFound", .count found.idioms.length)]⟩

end Answer

namespace Request

/-- Runs a tool; gives the place after what it has to say. -/
def run (listener : Listener) (place : Place) (defaultCategory : Text) :
    Request → Place × Except SurveyFault Answer
  | .analyze path =>
    let (place, found) := analyzeAndTell listener place path
    (place, found.map fun analysis => .analysis analysis defaultCategory)
  | .search path category term =>
    let (place, found) := searchAndTell listener place ⟨path, some category, some term⟩
    (place, (found.map Answer.findings).mapError .unwalkable)

end Request

structure Outcome where
  result : Except CallFault Answer
  /-- The events in the order in which they were handed to the log. -/
  events : List Event
  place : Place

/-- Completes a call whose start has been recorded. -/
def completeCall (log : UsageLog) (listener : Listener) (occasion : Occasion)
    (defaultCategory : Text) (request : Request) (place : Place) : Outcome :=
  match request.run listener place defaultCategory with
  | (place, .error fault) => ⟨.error (.unsurveyable fault), [request.startEvent], place⟩
  | (place, .ok answer) =>
    let events := [request.startEvent, answer.completion]
    match log.record occasion place answer.completion with
    | .error fault => ⟨.error (.unrecordable fault), events, place⟩
    | .ok completed => ⟨.ok answer, events, listener completed.place completed.notes⟩

/-- Calls a tool by name. -/
def callTool (log : UsageLog) (listener : Listener) (occasion : Occasion) (place : Place)
    (name : Text) (arguments : Option Json) (defaultCategory : Text) : Outcome :=
  match Request.ofCall name arguments defaultCategory with
  | .error fault => ⟨.error fault, [], place⟩
  | .ok request =>
    match log.record occasion place request.startEvent with
    | .error fault => ⟨.error (.unrecordable fault), [request.startEvent], place⟩
    | .ok started =>
      completeCall log listener occasion defaultCategory request
        (listener started.place started.notes)

end ProjectSurvey
