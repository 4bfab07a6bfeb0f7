import ProjectSurvey.Proofs.WalkListing
import ProjectSurvey.Tool

/-! How a call of a tool can end: in an answer, in a fault that the caller can mend, in one of the survey, or in
one of the log. The faults of a survey are told apart by what they come from. -/

namespace ProjectSurvey

/-- Whether a fault is one that the caller can mend: an unknown tool or wrong arguments. -/
def CallFault.isCallers : CallFault → Bool
  | .unknownTool _ | .argumentsNotObject | .argumentNotText .. => true
  | .unrecordable _ | .unsurveyable _ => false

private theorem bind_fails {ε α β : Type} {first : Except ε α} {next : α → Except ε β} {fault : ε} :
    first >>= next = .error fault ↔
      first = .error fault ∨ ∃ value, first = .ok value ∧ next value = .error fault := by
  cases first <;> simp [bind, Except.bind]

theorem mapError_fails {ε δ α : Type} {value : Except ε α} {change : ε → δ} {fault : δ} :
    value.mapError change = .error fault ↔ ∃ cause, value = .error cause ∧ change cause = fault := by
  cases value <;> simp [Except.mapError]

private theorem mapError_succeeds {ε δ α : Type} {outcome : Except ε α} {change : ε → δ} {value : α} :
    outcome.mapError change = .ok value ↔ outcome = .ok value := by
  cases outcome <;> simp [Except.mapError]

theorem textArgument_fault {arguments : List (Text × Json)} {name : Text} {fault : CallFault}
    (failed : textArgument arguments name = .error fault) :
    ∃ value : Json, fault = .argumentNotText name value.kind := by
  simp only [textArgument] at failed
  split at failed <;> cases failed
  exact ⟨_, rfl⟩

namespace Request

def parameterNames : List Text := ["path", "component_type", "search_term"]

theorem ofFields_fault {name : Text} {arguments : List (Text × Json)} {category : Text}
    {fault : CallFault} (failed : ofFields name arguments category = .error fault) :
    fault = .unknownTool name ∨
      ∃ parameter ∈ parameterNames, ∃ value : Json, fault = .argumentNotText parameter value.kind := by
  have wrong {parameter : Text} (known : parameter ∈ parameterNames)
      (failed : textArgument arguments parameter = .error fault) :
      ∃ parameter ∈ parameterNames, ∃ value : Json, fault = .argumentNotText parameter value.kind :=
    ⟨parameter, known, textArgument_fault failed⟩
  simp only [ofFields] at failed
  split at failed
  · rcases bind_fails.mp failed with path | ⟨_, _, failed⟩
    · exact .inr (wrong (by decide) path)
    · cases failed
  split at failed
  · rcases bind_fails.mp failed with path | ⟨_, _, failed⟩
    · exact .inr (wrong (by decide) path)
    rcases bind_fails.mp failed with wanted | ⟨_, _, failed⟩
    · exact .inr (wrong (by decide) wanted)
    rcases bind_fails.mp failed with term | ⟨_, _, failed⟩
    · exact .inr (wrong (by decide) term)
    · cases failed
  · cases failed
    exact .inl rfl

theorem ofFields_callers {name : Text} {arguments : List (Text × Json)} {category : Text}
    {fault : CallFault} (failed : ofFields name arguments category = .error fault) :
    fault.isCallers = true := by
  rcases ofFields_fault failed with rfl | ⟨_, _, _, rfl⟩ <;> rfl

theorem ofCall_fault {name : Text} {arguments : Option Json} {category : Text} {fault : CallFault}
    (failed : ofCall name arguments category = .error fault) : fault.isCallers = true := by
  simp only [ofCall] at failed
  split at failed
  · exact ofFields_callers failed
  · exact ofFields_callers failed
  · exact ofFields_callers failed
  · cases failed; rfl

def answer (place : Place) (category : Text) : Request → Except SurveyFault Answer
  | .analyze path => (ProjectSurvey.analyze place path).map fun found => .analysis found category
  | .search path wanted term =>
    ((ProjectSurvey.search place ⟨path, some wanted, some term⟩).map Answer.findings).mapError .unwalkable

theorem run_silent (place : Place) (category : Text) (request : Request) :
    request.run .silent place category = (place, request.answer place category) := by
  cases request with
  | analyze path => simp only [run, analyzeAndTell_silent, answer]
  | search path wanted term => simp only [run, searchAndTell_silent, answer]

end Request

/-- A call that records and tells nothing gives the answer to its request at the place as it is. -/
theorem callTool_silent (occasion : Occasion) (place : Place) (name : Text) (arguments : Option Json)
    (category : Text) :
    (callTool .silent .silent occasion place name arguments category).result =
      (Request.ofCall name arguments category).bind fun request =>
        (request.answer place category).mapError .unsurveyable := by
  simp only [callTool]
  cases Request.ofCall name arguments category with
  | error fault => rfl
  | ok request =>
    simp only [UsageLog.record, Listener.silent, completeCall, Except.bind, Request.run_silent]
    cases request.answer place category <;> rfl

/-- A call of a tool that may take its time: its completion is recorded on an occasion of its own. -/
def callToolUntil (log : UsageLog) (listener : Listener) (start finish : Occasion) (place : Place) (name : Text)
    (arguments : Option Json) (defaultCategory : Text) : Outcome :=
  match Request.ofCall name arguments defaultCategory with
  | .error fault => ⟨.error fault, [], place⟩
  | .ok request =>
    match log.record start place request.startEvent with
    | .error fault => ⟨.error (.unrecordable fault), [request.startEvent], place⟩
    | .ok started =>
      completeCall log listener finish defaultCategory request (listener started.place started.notes)

theorem callToolUntil_same (log : UsageLog) (listener : Listener) (occasion : Occasion) :
    callToolUntil log listener occasion occasion = callTool log listener occasion := rfl

section Outcomes

variable (log : UsageLog) (listener : Listener) (start finish : Occasion) (place : Place) (name : Text)
  (arguments : Option Json) (category : Text)

/-- All that a call of a tool can come to, when its start is recorded on one occasion and its completion on
another. -/
inductive CallComesTo : Outcome → Prop
  | refused {fault : CallFault} (refusal : Request.ofCall name arguments category = .error fault) :
    CallComesTo ⟨.error fault, [], place⟩
  | unstarted {request : Request} {fault : Fault}
    (made : Request.ofCall name arguments category = .ok request)
    (unrecorded : log.record start place request.startEvent = .error fault) :
    CallComesTo ⟨.error (.unrecordable fault), [request.startEvent], place⟩
  | unsurveyed {request : Request} {started : UsageLog.Recorded} {after : Place} {fault : SurveyFault}
    (made : Request.ofCall name arguments category = .ok request)
    (recorded : log.record start place request.startEvent = .ok started)
    (ran : request.run listener (listener started.place started.notes) category = (after, .error fault)) :
    CallComesTo ⟨.error (.unsurveyable fault), [request.startEvent], after⟩
  | unfinished {request : Request} {started : UsageLog.Recorded} {after : Place} {answer : Answer}
    {fault : Fault} (made : Request.ofCall name arguments category = .ok request)
    (recorded : log.record start place request.startEvent = .ok started)
    (ran : request.run listener (listener started.place started.notes) category = (after, .ok answer))
    (unrecorded : log.record finish after answer.completion = .error fault) :
    CallComesTo ⟨.error (.unrecordable fault), [request.startEvent, answer.completion], after⟩
  | answered {request : Request} {started completed : UsageLog.Recorded} {after : Place} {answer : Answer}
    (made : Request.ofCall name arguments category = .ok request)
    (recorded : log.record start place request.startEvent = .ok started)
    (ran : request.run listener (listener started.place started.notes) category = (after, .ok answer))
    (closed : log.record finish after answer.completion = .ok completed) :
    CallComesTo ⟨.ok answer, [request.startEvent, answer.completion],
      listener completed.place completed.notes⟩

variable {log listener start finish place name arguments category}

theorem completeCall_comesTo {request : Request} {started : UsageLog.Recorded}
    (made : Request.ofCall name arguments category = .ok request)
    (recorded : log.record start place request.startEvent = .ok started) :
    CallComesTo log listener start finish place name arguments category
      (completeCall log listener finish category request (listener started.place started.notes)) := by
  rw [completeCall]
  split
  · next after fault ran => exact .unsurveyed made recorded ran
  · next after answer ran =>
    cases closed : log.record finish after answer.completion with
    | error fault => exact .unfinished made recorded ran closed
    | ok completed => exact .answered made recorded ran closed

theorem callToolUntil_comesTo :
    CallComesTo log listener start finish place name arguments category
      (callToolUntil log listener start finish place name arguments category) := by
  rw [callToolUntil]
  split
  · next fault refusal => exact .refused refusal
  · next request made =>
    split
    · next fault unrecorded => exact .unstarted made unrecorded
    · next started recorded => exact completeCall_comesTo made recorded

theorem callTool_comesTo :
    CallComesTo log listener start start place name arguments category
      (callTool log listener start place name arguments category) := by
  rw [← callToolUntil_same]
  exact callToolUntil_comesTo

/-- Only a call that is refused ends in a fault that its caller can mend. -/
theorem CallComesTo.refusal {outcome : Outcome} {fault : CallFault}
    (comes : CallComesTo log listener start finish place name arguments category outcome)
    (failed : outcome.result = .error fault) (callers : fault.isCallers = true) :
    Request.ofCall name arguments category = .error fault := by
  cases comes with
  | refused refusal => cases failed; exact refusal
  | unstarted | unsurveyed | unfinished => cases failed; cases callers
  | answered => cases failed

/-- A call that gives an answer has gone all the way. -/
theorem CallComesTo.completion {outcome : Outcome} {answer : Answer}
    (comes : CallComesTo log listener start finish place name arguments category outcome)
    (answered : outcome.result = .ok answer) :
    ∃ request started after completed, Request.ofCall name arguments category = .ok request ∧
      log.record start place request.startEvent = .ok started ∧
      request.run listener (listener started.place started.notes) category = (after, .ok answer) ∧
      log.record finish after answer.completion = .ok completed ∧
      outcome = ⟨.ok answer, [request.startEvent, answer.completion],
        listener completed.place completed.notes⟩ := by
  cases comes with
  | refused | unstarted | unsurveyed | unfinished => cases answered
  | answered made recorded ran closed =>
    cases answered
    exact ⟨_, _, _, _, made, recorded, ran, closed, rfl⟩

/-- A call that gives an answer has recorded its start and its completion. -/
theorem callTool_answered {answer : Answer}
    (answered : (callTool log listener start place name arguments category).result = .ok answer) :
    ∃ request, Request.ofCall name arguments category = .ok request ∧
      (callTool log listener start place name arguments category).events =
        [request.startEvent, answer.completion] ∧
      ∃ started after, request.run listener started category = (after, .ok answer) := by
  obtain ⟨request, started, after, completed, made, recorded, ran, closed, whole⟩ :=
    callTool_comesTo.completion answered
  exact ⟨request, made, by rw [whole], _, after, ran⟩

end Outcomes

theorem sources_fails {place : Place} {root : Path} (extensions : List Text) :
    (∃ fault, place.sources root extensions = .error fault) ↔
      ∃ fault, place.walk root = .error fault := by
  simp only [Place.sources, Place.sourceFiles, bind, Except.bind]
  cases place.walk root <;> simp

/-- Whether the manifest of a project is read and found to be nested too deep. -/
def Place.HasDeepManifest (place : Place) (root : Path) : Prop :=
  ∃ names text container, place.list root = .ok names ∧ manifestName ∈ names ∧
    place.readText (root.descend [manifestName]) = .ok text ∧
    Json.parse text = .error (.tooDeep container)

theorem readText_isExpected {place : Place} {path : Path} {fault : DetectionFault}
    (failed : place.readText path = .error fault) : fault.isExpected = true := by
  rcases bind_fails.mp failed with unread | ⟨bytes, _, failed⟩
  · obtain ⟨_, _, rfl⟩ := mapError_fails.mp unread
    rfl
  · rcases bind_fails.mp failed with undecoded | ⟨_, _, failed⟩
    · obtain ⟨_, _, rfl⟩ := mapError_fails.mp undecoded
      rfl
    · cases failed

/-- Detection goes wrong with a sound only for a manifest that is nested too deep. -/
theorem detectLanguage_unexpected {place : Place} {root : Path} :
    (∃ fault, detectLanguage place root = .error fault ∧ fault.isExpected = false) ↔
      place.HasDeepManifest root := by
  constructor
  · rintro ⟨fault, failed, unexpected⟩
    rcases bind_fails.mp failed with unlisted | ⟨names, listed, failed⟩
    · obtain ⟨_, _, rfl⟩ := mapError_fails.mp unlisted
      cases unexpected
    · have listed := mapError_succeeds.mp listed
      split at failed
      · next manifest =>
        rcases bind_fails.mp failed with unread | ⟨text, read, failed⟩
        · cases unexpected.symm.trans (readText_isExpected unread)
        · rcases bind_fails.mp failed with unparsed | ⟨_, _, failed⟩
          · obtain ⟨cause, stopped, rfl⟩ := mapError_fails.mp unparsed
            cases cause with
            | malformed => cases unexpected
            | tooManyDigits => cases unexpected
            | tooDeep container =>
              exact ⟨names, text, container, listed, List.contains_iff_mem.mp manifest, read, stopped⟩
          · split at failed <;> cases failed
      · split at failed
        · cases failed
        · rcases bind_fails.mp failed with unwalked | ⟨_, _, failed⟩
          · obtain ⟨_, _, rfl⟩ := mapError_fails.mp unwalked
            cases unexpected
          · cases failed
  · rintro ⟨names, text, container, listed, manifest, read, unparsed⟩
    refine ⟨.unparsable (.tooDeep container), ?_, rfl⟩
    simp only [detectLanguage, listed, Except.mapError, List.contains_iff_mem, manifest,
      manifestLanguage, read, unparsed, bind, Except.bind, ite_true]

/-- Classifying a project fails only for a manifest that is nested too deep. -/
theorem classify_fails {place : Place} {root : Path} :
    (∃ fault, classify place root = .error fault) ↔ place.HasDeepManifest root := by
  rw [← detectLanguage_unexpected]
  simp only [classify]
  cases detectLanguage place root with
  | ok language => simp
  | error fault => cases expected : fault.isExpected <;> simp [expected]

namespace Request

def path : Request → Option Text
  | .analyze path => path
  | .search path _ _ => path

/-- What the survey that a request asks for cannot cope with. -/
inductive Breaks (place : Place) : Request → Prop
  /-- No root is named, and the current directory has been removed. -/
  | rootless {request : Request} {fault : Fault} : place.rootAt request.path = .error fault → Breaks place request
  /-- The root is written with a character that no name can hold. -/
  | unnameable {request : Request} {root : Path} {c : Char} : place.rootAt request.path = .ok root →
      c ∈ root.toText → isNameable c = false → Breaks place request
  /-- Looking at what the walk meets in a directory leads to a name that is too long. -/
  | tooLong {request : Request} {root : Path} {base : Node} {x : Location} :
      place.rootAt request.path = .ok root → place.find root = .ok base → base.Meets x →
      (place.list (root.descend x.dropLast)).isOk = true → place.find (root.descend x) = .error .nameTooLong →
      Breaks place request
  /-- The manifest of a project that is to be analysed is nested too deep. -/
  | tooDeep {path : Option Text} {root : Path} : place.rootAt path = .ok root → place.HasDeepManifest root →
      Breaks place (.analyze path)

theorem breaks_iff {place : Place} {request : Request} :
    request.Breaks place ↔ (∃ fault, place.rootAt request.path = .error fault) ∨
      ∃ root, place.rootAt request.path = .ok root ∧ ((∃ fault, place.walk root = .error fault) ∨
        (∃ path, request = .analyze path) ∧ place.HasDeepManifest root) := by
  simp only [Place.walk_fails]
  constructor
  · intro breaks
    cases breaks with
    | rootless failed => exact .inl ⟨_, failed⟩
    | unnameable rooted member refused => exact .inr ⟨_, rooted, .inl (.inl ⟨_, member, refused⟩)⟩
    | tooLong rooted found met listed long => exact .inr ⟨_, rooted, .inl (.inr ⟨_, _, found, met, listed, long⟩)⟩
    | tooDeep rooted deep => exact .inr ⟨_, rooted, .inr ⟨⟨_, rfl⟩, deep⟩⟩
  · rintro (⟨_, failed⟩ | ⟨_, rooted, broken⟩)
    · exact .rootless failed
    · obtain (⟨_, member, refused⟩ | ⟨_, _, found, met, listed, long⟩) | ⟨⟨_, rfl⟩, deep⟩ := broken
      · exact .unnameable rooted member refused
      · exact .tooLong rooted found met listed long
      · exact .tooDeep rooted deep

/-- A request is not answered exactly when its survey breaks. -/
theorem answer_fails {place : Place} (category : Text) {request : Request} :
    (∃ fault, request.answer place category = .error fault) ↔ request.Breaks place := by
  rw [breaks_iff]
  cases request with
  | analyze path =>
    simp only [answer, Request.path, Request.analyze.injEq, exists_eq', true_and]
    simp only [← classify_fails, ← sources_fails sourceExtensions, ProjectSurvey.analyze, bind, Except.bind]
    cases place.rootAt path with
    | error fault => simp [Except.mapError, Except.map]
    | ok root =>
      simp only [Except.mapError, reduceCtorEq, exists_false, false_or, Except.ok.injEq, exists_eq_left']
      cases classify place root with
      | error fault => simp [Except.map]
      | ok profile => cases place.sources root sourceExtensions <;> simp [Except.map]
  | search path wanted term =>
    simp only [answer, Request.path, reduceCtorEq, exists_false, false_and, or_false]
    simp only [← sources_fails sourceExtensions, ProjectSurvey.search, bind, Except.bind]
    cases place.rootAt path with
    | error fault => simp [Except.mapError, Except.map]
    | ok root =>
      simp only [reduceCtorEq, exists_false, false_or, Except.ok.injEq, exists_eq_left']
      cases place.sources root sourceExtensions <;> simp [Except.mapError, Except.map]

end Request

/-- A call ends in a fault that no caller can mend exactly when its arguments make a request whose
survey breaks. -/
theorem callTool_breaks_iff (occasion : Occasion) (place : Place) (name : Text)
    (arguments : Option Json) (category : Text) :
    (∃ fault, (callTool .silent .silent occasion place name arguments category).result = .error fault ∧
        fault.isCallers = false) ↔
      ∃ request, Request.ofCall name arguments category = .ok request ∧ request.Breaks place := by
  rw [callTool_silent]
  cases made : Request.ofCall name arguments category with
  | error fault =>
    have callers := Request.ofCall_fault made
    simp [Except.bind, callers]
  | ok request =>
    simp only [Except.bind, Except.ok.injEq, exists_eq_left']
    rw [← Request.answer_fails category]
    cases request.answer place category with
    | error fault => simp [Except.mapError, CallFault.isCallers]
    | ok answer => simp [Except.mapError]

/-- A path with a NUL character in it ends a search in a fault of the survey. -/
theorem callTool_breaks_at_nul :
    ¬ ∀ occasion place name arguments category,
      (∃ answer, (callTool .silent .silent occasion place name arguments category).result = .ok answer) ∨
        ∃ fault, (callTool .silent .silent occasion place name arguments category).result = .error fault ∧
          fault.isCallers = true := by
  intro always
  have outcome : (callTool .silent .silent ⟨⟨2024, 1, 1, 0, 0, 0, 0⟩, 1⟩ ⟨.directory [], []⟩ searchTool
      (some (.object [("path".toList, .str ['a', Char.ofNat 0, 'b'])])) componentCategory).result =
      .error (.unsurveyable (.unwalkable .nulCharacter)) := rfl
  rcases always ⟨⟨2024, 1, 1, 0, 0, 0, 0⟩, 1⟩ ⟨.directory [], []⟩ searchTool
    (some (.object [("path".toList, .str ['a', Char.ofNat 0, 'b'])])) componentCategory with
    ⟨_, answered⟩ | ⟨_, failed, callers⟩
  · cases outcome.symm.trans answered
  · cases outcome.symm.trans failed
    cases callers

end ProjectSurvey
