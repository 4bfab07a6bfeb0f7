import ProjectSurvey.Proofs.CallFaults
import ProjectSurvey.Proofs.SourceListing
import ProjectSurvey.Proofs.TextPieces

/-! The checks of a call and its events. Nothing is recorded before every argument has passed its check, and
what is recorded at the end agrees with what the caller is given. -/

namespace ProjectSurvey

/-- The fields of the arguments of a call, which may be left out or null. -/
def argumentFields? : Option Json → Option (List (Text × Json))
  | none | some .null => some []
  | some (.object fields) => some fields
  | some _ => none

/-- The text arguments of a tool in the order of their checks. -/
def checkedParameters (tool : Text) : List Text :=
  if tool = analyzeTool then ["path"] else if tool = searchTool then Request.parameterNames else []

/-- Whether a value is given for a parameter that is neither null nor a text. -/
def IsMistyped (fields : List (Text × Json)) (parameter : Text) (value : Json) : Prop :=
  Json.field? fields parameter = some value ∧ value ≠ .null ∧ ∀ text, value ≠ .str text

/-- Whether such a value is the first one among several parameters. -/
def FirstMistyped (fields : List (Text × Json)) (parameters : List Text) (parameter : Text)
    (value : Json) : Prop :=
  ∃ before after, parameters = before ++ parameter :: after ∧
    (∀ earlier ∈ before, ∀ other, ¬ IsMistyped fields earlier other) ∧ IsMistyped fields parameter value

/-- The text of a field, if it has one and that is not empty. -/
def textAt? (fields : List (Text × Json)) (name : Text) : Option Text :=
  match Json.field? fields name with
  | some (.str text) => if text = [] then none else some text
  | _ => none

/-- The value that is found in another by the names of fields, from the outermost inwards. -/
def Json.under? : List Text → Json → Option Json
  | [], value => some value
  | name :: names, .object fields => (Json.field? fields name).bind (under? names)
  | _ :: _, _ => none

/-- Whether the events of a call are those of an analysis with the given fields: the path that is asked for,
then the language and the number of components, as the payload tells them too. -/
def AccountsForAnalysis (fields : List (Text × Json)) (payload : Json) (events : List Event) : Prop :=
  ∃ language components instructions,
    payload.under? ["summary", "detectedLanguage"] = some language ∧
    payload.under? ["summary", "existingPatterns", "components"] = some (.array components) ∧
    payload.under? ["instructions"] = some (.str instructions) ∧
    ("\n- Detected " ++ Text.ofNat components.length ++ " existing components\n" : Text) <:+: instructions ∧
    events = [
      ⟨"ARCHITECTURE_ANALYZED", [("tool", .str analyzeTool),
        ("projectPath", Request.optionalText (textAt? fields "path"))]⟩,
      ⟨"ARCHITECTURE_COMPLETE", [("detectedLanguage", language),
        ("componentsFound", .int components.length)]⟩]

/-- Whether the events of a call are those of a search with the given fields: what is asked for, then the
numbers of matches and idioms, as the payload tells them too. -/
def AccountsForSearch (fields : List (Text × Json)) (defaultCategory : Text) (payload : Json)
    (events : List Event) : Prop :=
  ∃ exactMatches termMatches idioms,
    payload.under? ["results", "exactMatches"] = some (.array exactMatches) ∧
    payload.under? ["results", "termMatches"] = some (.array termMatches) ∧
    payload.under? ["results", "patterns"] = some (.array idioms) ∧
    payload.under? ["exactMatches"] = some (.int exactMatches.length) ∧
    payload.under? ["termMatches"] = some (.int termMatches.length) ∧
    payload.under? ["patterns"] = some (.int idioms.length) ∧
    events = [
      ⟨"SIMILAR_CODE_SEARCH", [("tool", .str searchTool),
        ("projectPath", Request.optionalText (textAt? fields "path")),
        ("componentType", .str ((textAt? fields "component_type").getD defaultCategory)),
        ("searchTerm", .str ((textAt? fields "search_term").getD []))]⟩,
      ⟨"SIMILAR_CODE_COMPLETE", [("exactMatches", .int exactMatches.length),
        ("termMatches", .int termMatches.length), ("patternsFound", .int idioms.length)]⟩]

variable {fields : List (Text × Json)} {parameter name : Text}

theorem textArgument_eq_error {fault : CallFault} : textArgument fields parameter = .error fault ↔
    ∃ value, IsMistyped fields parameter value ∧ fault = .argumentNotText parameter value.kind := by
  simp only [textArgument, IsMistyped]
  cases Json.field? fields parameter with
  | none => simp
  | some value => cases value <;> simp [eq_comm]

theorem given?_of_textArgument {text : Option Text} (read : textArgument fields name = .ok text) :
    given? text = textAt? fields name := by
  simp only [textArgument] at read
  simp only [textAt?]
  cases found : Json.field? fields name with
  | none =>
    rw [found] at read
    cases read
    rfl
  | some value =>
    rw [found] at read
    cases value with
    | null => cases read; rfl
    | str text =>
      cases read
      cases text <;> rfl
    | _ => cases read

theorem getD_of_textArgument {text : Option Text} (read : textArgument fields name = .ok text) :
    text.getD [] = (textAt? fields name).getD [] := by
  rw [← given?_of_textArgument read]
  cases text with
  | none => rfl
  | some text => cases text <;> rfl

theorem not_firstMistyped_nil {value : Json} : ¬ FirstMistyped fields [] parameter value := by
  rintro ⟨before, after, whole, -⟩
  exact List.cons_ne_nil _ _ (List.append_eq_nil_iff.mp whole.symm).2

theorem firstMistyped_cons {first : Text} {rest : List Text} {value : Json} :
    FirstMistyped fields (first :: rest) parameter value ↔
      parameter = first ∧ IsMistyped fields first value ∨
        (∀ other, ¬ IsMistyped fields first other) ∧ FirstMistyped fields rest parameter value := by
  constructor
  · rintro ⟨before, after, whole, passed, mistyped⟩
    cases before with
    | nil =>
      cases whole
      exact .inl ⟨rfl, mistyped⟩
    | cons head before =>
      cases whole
      obtain ⟨typed, passed⟩ := List.forall_mem_cons.mp passed
      exact .inr ⟨typed, before, after, rfl, passed, mistyped⟩
  · rintro (⟨rfl, mistyped⟩ | ⟨typed, before, after, rfl, passed, mistyped⟩)
    · exact ⟨[], rest, rfl, List.forall_mem_nil _, mistyped⟩
    · exact ⟨first :: before, after, rfl, List.forall_mem_cons.mpr ⟨typed, passed⟩, mistyped⟩

theorem bind_textArgument {α : Type} {first : Text} {rest : List Text} {next : Option Text → Except CallFault α}
    {kind : Text} (later : ∀ text, next text = .error (.argumentNotText parameter kind) ↔
      ∃ value, FirstMistyped fields rest parameter value ∧ kind = value.kind) :
    textArgument fields first >>= next = .error (.argumentNotText parameter kind) ↔
      ∃ value, FirstMistyped fields (first :: rest) parameter value ∧ kind = value.kind := by
  simp only [firstMistyped_cons]
  cases checked : textArgument fields first with
  | error fault =>
    obtain ⟨value, mistyped, rfl⟩ := textArgument_eq_error.mp checked
    constructor
    · intro failed
      cases failed
      exact ⟨value, .inl ⟨rfl, mistyped⟩, rfl⟩
    · rintro ⟨other, ⟨rfl, found, -⟩ | ⟨typed, -⟩, rfl⟩
      · cases found.symm.trans mistyped.1
        rfl
      · exact absurd mistyped (typed value)
  | ok text =>
    have typed (other : Json) : ¬ IsMistyped fields first other := by
      intro mistyped
      cases checked.symm.trans (textArgument_eq_error.mpr ⟨other, mistyped, rfl⟩)
    refine (later text).trans ⟨?_, ?_⟩
    · rintro ⟨value, among, same⟩
      exact ⟨value, .inr ⟨typed, among⟩, same⟩
    · rintro ⟨value, ⟨-, mistyped⟩ | ⟨-, among⟩, same⟩
      · exact absurd mistyped (typed value)
      · exact ⟨value, among, same⟩

namespace Request

variable {category : Text}

theorem ofFields_mistyped {kind : Text} :
    ofFields name fields category = .error (.argumentNotText parameter kind) ↔
      ∃ value, FirstMistyped fields (checkedParameters name) parameter value ∧ kind = value.kind := by
  have settled {request : Request} :
      (Except.ok request : Except CallFault Request) = .error (.argumentNotText parameter kind) ↔
      ∃ value, FirstMistyped fields [] parameter value ∧ kind = value.kind := by
    constructor
    · intro failed
      cases failed
    · rintro ⟨value, among, -⟩
      exact absurd among not_firstMistyped_nil
  simp only [ofFields, checkedParameters]
  split
  · exact bind_textArgument fun _ => settled
  split
  · exact bind_textArgument fun _ => bind_textArgument fun _ => bind_textArgument fun _ => settled
  · constructor
    · intro failed
      cases failed
    · rintro ⟨value, among, -⟩
      exact absurd among not_firstMistyped_nil

private theorem bind_textArgument_unknown {first other : Text} {next : Option Text → Except CallFault Request}
    (later : ∀ text, next text ≠ .error (.unknownTool other)) :
    textArgument fields first >>= next ≠ .error (.unknownTool other) := by
  intro failed
  cases checked : textArgument fields first with
  | error fault =>
    rw [checked] at failed
    cases failed
    obtain ⟨_, impossible⟩ := textArgument_fault checked
    cases impossible
  | ok text =>
    rw [checked] at failed
    exact later text failed

theorem ofFields_unknown {other : Text} : ofFields name fields category = .error (.unknownTool other) ↔
    other = name ∧ name ≠ analyzeTool ∧ name ≠ searchTool := by
  have settled {request : Request} : (Except.ok request : Except CallFault Request) ≠ .error (.unknownTool other) := by
    intro failed
    cases failed
  simp only [ofFields]
  split
  · next analysis =>
    exact ⟨fun failed => absurd failed (bind_textArgument_unknown fun _ => settled), fun h => absurd analysis h.2.1⟩
  split
  · next search =>
    exact ⟨fun failed => absurd failed (bind_textArgument_unknown fun _ => bind_textArgument_unknown fun _ =>
      bind_textArgument_unknown fun _ => settled), fun h => absurd search h.2.2⟩
  · next noAnalysis noSearch =>
    constructor
    · intro failed
      cases failed
      exact ⟨rfl, noAnalysis, noSearch⟩
    · rintro ⟨rfl, -, -⟩
      rfl

private theorem bind_succeeds {ε α β : Type} {first : Except ε α} {next : α → Except ε β} {result : β}
    (succeeded : first >>= next = .ok result) : ∃ value, first = .ok value ∧ next value = .ok result := by
  cases first with
  | error fault => cases succeeded
  | ok value => exact ⟨value, rfl, succeeded⟩

theorem ofFields_eq_ok {request : Request} (made : ofFields name fields category = .ok request) :
    name = analyzeTool ∧ request = .analyze (textAt? fields "path") ∨
      name = searchTool ∧ request = .search (textAt? fields "path")
        ((textAt? fields "component_type").getD category) ((textAt? fields "search_term").getD []) := by
  simp only [ofFields] at made
  split at made
  · next analysis =>
    obtain ⟨path, readPath, made⟩ := bind_succeeds made
    cases made
    exact .inl ⟨analysis, by rw [given?_of_textArgument readPath]⟩
  split at made
  · next search =>
    obtain ⟨path, readPath, made⟩ := bind_succeeds made
    obtain ⟨wanted, readWanted, made⟩ := bind_succeeds made
    obtain ⟨term, readTerm, made⟩ := bind_succeeds made
    cases made
    refine .inr ⟨search, ?_⟩
    rw [given?_of_textArgument readPath, given?_of_textArgument readWanted, getD_of_textArgument readTerm]
  · cases made

variable {arguments : Option Json}

theorem ofCall_of_fields (given : argumentFields? arguments = some fields) :
    ofCall name arguments category = ofFields name fields category := by
  simp only [argumentFields?] at given
  split at given
  all_goals
    cases given
    try rfl

theorem argumentFields?_eq_none : argumentFields? arguments = none ↔
    ∃ value, arguments = some value ∧ value ≠ .null ∧ ∀ fields, value ≠ .object fields := by
  cases arguments with
  | none => simp [argumentFields?]
  | some value => cases value <;> simp [argumentFields?]

theorem ofCall_of_no_fields (given : argumentFields? arguments = none) :
    ofCall name arguments category = .error .argumentsNotObject := by
  obtain ⟨value, rfl, noNull, noObject⟩ := argumentFields?_eq_none.mp given
  cases value with
  | null => exact absurd rfl noNull
  | object fields => exact absurd rfl (noObject fields)
  | _ => rfl

/-- The fields of a call are checked only once it is clear that there are any. -/
theorem ofCall_eq_error {fault : CallFault} : ofCall name arguments category = .error fault ↔
    argumentFields? arguments = none ∧ fault = .argumentsNotObject ∨
      ∃ fields, argumentFields? arguments = some fields ∧ ofFields name fields category = .error fault := by
  cases given : argumentFields? arguments with
  | none => simp [ofCall_of_no_fields given, eq_comm]
  | some fields => simp [ofCall_of_fields given]

end Request

section Answers

variable {listener : Listener} {place after : Place} {category : Text} {answer : Answer}

theorem Request.run_analyze {path : Option Text}
    (ran : (Request.analyze path).run listener place category = (after, .ok answer)) :
    ∃ survey, answer = .analysis survey category := by
  simp only [run, Prod.mk.injEq] at ran
  cases surveyed : (analyzeAndTell listener place path).2 with
  | error fault =>
    rw [surveyed] at ran
    cases ran.2
  | ok survey =>
    rw [surveyed] at ran
    cases ran.2
    exact ⟨survey, rfl⟩

theorem Request.run_search {path : Option Text} {wanted term : Text}
    (ran : (Request.search path wanted term).run listener place category = (after, .ok answer)) :
    ∃ found, answer = .findings found := by
  simp only [run, Prod.mk.injEq] at ran
  cases searched : (searchAndTell listener place ⟨path, some wanted, some term⟩).2 with
  | error fault =>
    rw [searched] at ran
    cases ran.2
  | ok found =>
    rw [searched] at ran
    cases ran.2
    exact ⟨found, rfl⟩

theorem accountsForAnalysis {survey : Analysis} :
    AccountsForAnalysis fields (Answer.analysis survey category).payload
      [(Request.analyze (textAt? fields "path")).startEvent, (Answer.analysis survey category).completion] := by
  refine ⟨.str survey.profile.name, survey.components.map (·.toJson), architectureInstructions survey,
    rfl, rfl, rfl, ?_, ?_⟩
  · have start : "\n- Detected ".toList = '\n' :: "- Detected ".toList := rfl
    have stop : " existing components\n".toList = " existing components".toList ++ ['\n'] := rfl
    rw [List.length_map, start, stop, ← List.append_assoc, List.cons_append]
    exact @Text.infix_unlines [_, _, _, _, _, _, _, _] [_, _, _, _] (List.cons_ne_nil _ _) (List.cons_ne_nil _ _) _
  · rw [List.length_map]
    rfl

theorem accountsForSearch {found : Findings} :
    AccountsForSearch fields category (Answer.findings found).payload
      [(Request.search (textAt? fields "path") ((textAt? fields "component_type").getD category)
        ((textAt? fields "search_term").getD [])).startEvent, (Answer.findings found).completion] := by
  refine ⟨found.exactMatches.map (·.toJson), found.termMatches.map (·.toJson), found.idioms.map (·.toJson),
    rfl, rfl, rfl, ?_⟩
  simp only [List.length_map]
  exact ⟨rfl, rfl, rfl, rfl⟩

end Answers

section Calls

variable {log : UsageLog} {listener : Listener} {occasion : Occasion} {place : Place} {arguments : Option Json}
  {category : Text}

theorem callTool_callers {fault : CallFault} (callers : fault.isCallers = true) :
    (callTool log listener occasion place name arguments category).result = .error fault ↔
      Request.ofCall name arguments category = .error fault := by
  constructor
  · exact fun failed => callTool_comesTo.refusal failed callers
  · intro refusal
    simp only [callTool, refusal]

/-- A call with wrong arguments, or of a tool that does not exist, does nothing. -/
theorem callTool_eventless {fault : CallFault} (callers : fault.isCallers = true)
    (failed : (callTool log listener occasion place name arguments category).result = .error fault) :
    (callTool log listener occasion place name arguments category).events = [] ∧
      (callTool log listener occasion place name arguments category).place = place := by
  rw [callTool_callers callers] at failed
  simp only [callTool, failed, and_self]

theorem callTool_accounts {answer : Answer} (given : argumentFields? arguments = some fields)
    (answered : (callTool log listener occasion place name arguments category).result = .ok answer) :
    name = analyzeTool ∧ AccountsForAnalysis fields answer.payload
        (callTool log listener occasion place name arguments category).events ∨
      name = searchTool ∧ AccountsForSearch fields category answer.payload
        (callTool log listener occasion place name arguments category).events := by
  obtain ⟨request, made, events, started, after, ran⟩ := callTool_answered answered
  rw [Request.ofCall_of_fields given] at made
  rw [events]
  obtain ⟨called, rfl⟩ | ⟨called, rfl⟩ := Request.ofFields_eq_ok made
  · obtain ⟨survey, rfl⟩ := Request.run_analyze ran
    exact .inl ⟨called, accountsForAnalysis⟩
  · obtain ⟨found, rfl⟩ := Request.run_search ran
    exact .inr ⟨called, accountsForSearch⟩

/-- Exactly three faults are the caller's, and a call that ends in one of them has done nothing. A call that
gives an answer has recorded two events, and they agree with the answer. -/
theorem callTool_events (log : UsageLog) (listener : Listener) (occasion : Occasion) (place : Place)
    (name : Text) (arguments : Option Json) (category : Text) :
    let outcome := callTool log listener occasion place name arguments category
    (outcome.result = .error .argumentsNotObject ↔
      ∃ value, arguments = some value ∧ value ≠ .null ∧ ∀ fields, value ≠ .object fields) ∧
    (∀ parameter kind, outcome.result = .error (.argumentNotText parameter kind) ↔
      ∃ fields, argumentFields? arguments = some fields ∧
        ∃ value, FirstMistyped fields (checkedParameters name) parameter value ∧ kind = value.kind) ∧
    (∀ parameter kind, (CallFault.argumentNotText parameter kind).message =
      "Argument '" ++ parameter ++ "' must be a string, got " ++ kind) ∧
    (∀ other, outcome.result = .error (.unknownTool other) ↔
      ∃ fields, argumentFields? arguments = some fields ∧
        other = name ∧ name ≠ analyzeTool ∧ name ≠ searchTool) ∧
    (∀ fault, outcome.result = .error fault → fault.isCallers = true →
      outcome.events = [] ∧ outcome.place = place) ∧
    ∀ answer, outcome.result = .ok answer → ∃ fields, argumentFields? arguments = some fields ∧
      (name = analyzeTool ∧ AccountsForAnalysis fields answer.payload outcome.events ∨
        name = searchTool ∧ AccountsForSearch fields category answer.payload outcome.events) := by
  intro outcome
  have refusal {fault : CallFault} (callers : fault.isCallers = true) (other : fault ≠ .argumentsNotObject) :
      outcome.result = .error fault ↔ ∃ fields, argumentFields? arguments = some fields ∧
        Request.ofFields name fields category = .error fault := by
    rw [callTool_callers callers, Request.ofCall_eq_error, or_iff_right fun given => other given.2]
  refine ⟨?_, fun parameter kind => ?_, fun _ _ => rfl, fun other => ?_,
    fun fault failed callers => callTool_eventless callers failed, ?_⟩
  · rw [callTool_callers rfl, Request.ofCall_eq_error, ← Request.argumentFields?_eq_none]
    refine ⟨?_, fun given => .inl ⟨given, rfl⟩⟩
    rintro (⟨given, -⟩ | ⟨fields, -, failed⟩)
    · exact given
    · obtain impossible | ⟨_, _, _, impossible⟩ := Request.ofFields_fault failed <;> cases impossible
  · have refused := @refusal (.argumentNotText parameter kind) rfl (by simp)
    simpa only [Request.ofFields_mistyped] using refused
  · have refused := @refusal (.unknownTool other) rfl (by simp)
    simpa only [Request.ofFields_unknown] using refused
  · intro answer answered
    obtain ⟨request, made, -⟩ := callTool_answered answered
    cases given : argumentFields? arguments with
    | none => cases (Request.ofCall_of_no_fields given).symm.trans made
    | some fields => exact ⟨fields, rfl, callTool_accounts given answered⟩

end Calls

/-- A search with an empty category is told by its default, and one for a number is not begun. -/
theorem callTool_events_search :
    let place : Place := ⟨.directory [("a.py".toList, .file (Utf8.encode "def f:\n Store()"))], []⟩
    let fields : List (Text × Json) := [("component_type", .str []), ("search_term", .str "store")]
    let wrong : List (Text × Json) := [("search_term", .int 5), ("path", .bool false)]
    let call (arguments : List (Text × Json)) := callTool .silent .silent ⟨⟨2024, 1, 1, 0, 0, 0, 0⟩, 1⟩ place
      searchTool (some (.object arguments)) componentCategory
    (∃ answer, (call fields).result = .ok answer ∧
      AccountsForSearch fields componentCategory answer.payload (call fields).events) ∧
    (call wrong).result = .error (.argumentNotText "path" "bool") ∧ (call wrong).events = [] := by
  intro place fields wrong call
  have answers : ∃ answer, (call fields).result = .ok answer := by
    have rooted : place.rootAt none = .ok ⟨.root, []⟩ := rfl
    have walked : place.walk ⟨.root, []⟩ = .ok [⟨.root, ["a.py"]⟩] := by
      rw [Place.walk_of_met rfl (show _ = arrange [⟨"a.py", none⟩] from rfl) (.refl _) (by decide)]
      decide +kernel
    obtain ⟨sources, told⟩ : ∃ sources, place.sources ⟨.root, []⟩ sourceExtensions = .ok sources := by
      simp only [Place.sources, Place.sourceFiles, walked]
      exact ⟨_, rfl⟩
    refine ⟨.findings (.ofSources componentCategory "store" sources), ?_⟩
    simp only [call]
    rw [callTool_silent]
    show Except.mapError _ (Request.answer place componentCategory (.search none componentCategory "store")) = _
    simp only [Request.answer, search, rooted, bind, Except.bind, told]
    rfl
  obtain ⟨answer, answered⟩ := answers
  have refused : (call wrong).result = .error (.argumentNotText "path" "bool") := by
    rfl
  refine ⟨⟨answer, answered, ?_⟩, refused, ?_⟩
  · have accounts := (callTool_events .silent .silent ⟨⟨2024, 1, 1, 0, 0, 0, 0⟩, 1⟩ place searchTool
      (some (.object fields)) componentCategory).2.2.2.2.2 answer answered
    obtain ⟨_, given, ⟨impossible, -⟩ | ⟨-, accounts⟩⟩ := accounts
    · exact absurd impossible (by decide)
    · cases given
      exact accounts
  · exact ((callTool_events .silent .silent ⟨⟨2024, 1, 1, 0, 0, 0, 0⟩, 1⟩ place searchTool
      (some (.object wrong)) componentCategory).2.2.2.2.1 _ refused rfl).1

end ProjectSurvey
