import ProjectSurvey.Proofs.CommandRecords
import ProjectSurvey.Proofs.FrontEnds
import ProjectSurvey.Proofs.ReportTexts
import ProjectSurvey.Proofs.SurveyAgreement

/-! Runs that print for people beside those that print for programs. Both make the same call of a tool, and what is
printed for programs can always be written. What is printed for people may hold what cannot, and the root of an
analysis is read as markup, which may have a tag that closes nothing. -/

namespace ProjectSurvey

open Text

/-- Whether an answer is made from source files. -/
def Answer.IsFrom (sources : List Source) : Answer → Prop
  | .analysis survey _ =>
    survey.profile ∈ Profile.unknown :: Profile.known ∧ survey = .ofSources survey.root survey.profile sources
  | .findings found => found = .ofSources found.category found.term sources

instance (sources : List Source) : (answer : Answer) → Decidable (answer.IsFrom sources)
  | .analysis survey _ => inferInstanceAs (Decidable (survey.profile ∈ _ ∧ survey = _))
  | .findings found => inferInstanceAs (Decidable (found = _))

namespace CommandLine

variable {environment : Environment} {stage : Stage} {options : Options}

def Run.EndsWell (run : Run) : Prop :=
  run.exit = 0 ∧ run.fault = none

/-- Whether a command gets an answer, and that from the given source files. -/
def Command.Surveys (command : Command) (environment : Environment) (stage : Stage) (options : Options)
    (sources : List Source) : Prop :=
  ∃ call ∈ command.toolCall? environment stage options, ∃ answer,
    (call.outcome environment environment.occasion).result = .ok answer ∧ answer.IsFrom sources

/-- Whether a command prints for programs, if it is one that prints either way. -/
def Command.jsonOnly? : Command → Option Bool
  | .analyze _ _ jsonOnly => some jsonOnly
  | .search _ _ _ jsonOnly => some jsonOnly
  | _ => none

theorem Stage.unprintable?_eq_none {text : Text} : unprintable? text = none ↔ text.IsWritable := by
  rw [unprintable?, unencodable?_eq_none]
  simp only [IsWritable, Option.any_true, Option.isSome_eq_false_iff, Option.isNone_iff_eq_none]

theorem Stage.succeed_endsWell (stage : Stage) (prints : Prints) :
    (stage.succeed prints).EndsWell ↔ ∀ text ∈ prints, text.IsWritable := by
  rw [succeed]
  cases found : prints.findSome? unprintable? with
  | none =>
    refine iff_of_true ⟨rfl, rfl⟩ fun text member => unprintable?_eq_none.mp ?_
    exact List.findSome?_eq_none_iff.mp found text member
  | some cause =>
    obtain ⟨text, member, refused⟩ := List.exists_of_findSome?_eq_some found
    refine iff_of_false (by rintro ⟨⟨⟩, -⟩) fun writable => ?_
    rw [unprintable?_eq_none.mpr (writable text member)] at refused
    cases refused

/-- A call and what is printed of it end well exactly if there is an answer and all that is printed of it can be
written. -/
theorem callAndPrint_endsWell {setting : Setting} {spec : CommandSpec} {name : Text} {fields : List (Text × Json)}
    {category : Text} {present : Answer → Except Terminal.MarkupFault Prints} :
    (callAndPrint environment setting spec name fields category present).EndsWell ↔
      ∃ answer prints, (callTool setting.log (setting.stage.listener environment) environment.occasion
          setting.stage.place name (some (.object fields)) category).result = .ok answer ∧
        present answer = .ok prints ∧ ∀ text ∈ prints, text.IsWritable := by
  rw [callAndPrint]
  split
  · next answer answered =>
    split
    · next prints shown => simp [answered, shown, Stage.succeed_endsWell]
    · next fault refused => simp [answered, refused, Run.EndsWell, Stage.abort, Stage.finish]
  all_goals simp [*, Run.EndsWell, Stage.abort, Stage.fail, Stage.misuse, Stage.finish]

theorem callAndPrint_exit {setting : Setting} {spec : CommandSpec} {name : Text} {fields : List (Text × Json)}
    {category : Text} {present : Answer → Except Terminal.MarkupFault Prints} :
    let run := callAndPrint environment setting spec name fields category present
    run.exit = 0 ↔ run.EndsWell := by
  refine ⟨fun ended => ⟨ended, ?_⟩, And.left⟩
  revert ended
  rw [callAndPrint]
  split
  · split
    · rw [Stage.succeed]
      split <;> simp [Stage.finish]
    · simp [Stage.abort, Stage.finish]
  all_goals simp [Stage.abort, Stage.fail, Stage.misuse, Stage.finish]

theorem Setting.ofPath_error {path : Text} {run : Run}
    (failed : Setting.ofPath environment stage options path = .error run) : run.exit = 1 := by
  simp only [ofPath] at failed
  split at failed
  · cases failed
    split <;> rfl
  · split at failed <;> cases failed
    rfl

/-- A command that prints either way ends well exactly if it is answered and all that is printed can be written. -/
theorem Command.run_prints {command : Command} {jsonOnly : Bool} (kind : command.jsonOnly? = some jsonOnly) :
    ((command.run environment stage options).exit = 0 ↔ (command.run environment stage options).EndsWell) ∧
    ((command.run environment stage options).EndsWell ↔
      ∃ call ∈ command.toolCall? environment stage options, ∃ answer prints,
        (call.outcome environment environment.occasion).result = .ok answer ∧
        shown jsonOnly answer = .ok prints ∧ ∀ text ∈ prints, text.IsWritable) := by
  cases command
  case analyze path _ _ | search _ path _ _ =>
    cases kind
    cases set : Setting.ofPath environment stage options path with
    | error run =>
      have failed := Setting.ofPath_error set
      simp [Command.run, set, Command.toolCall?, Run.EndsWell, failed, Except.toOption]
    | ok setting =>
      simp only [Command.run, set, Command.toolCall?, Except.toOption, Option.map_some, Option.mem_some,
        exists_eq_left']
      exact ⟨callAndPrint_exit, callAndPrint_endsWell⟩
  all_goals cases kind

end CommandLine

/-- The text of a path holds no characters but those that it is read from, slashes and dots. -/
theorem Path.forall_mem_ofText {holds : Char → Prop} (slash : holds '/') (dot : holds '.') {text : Text}
    (inside : ∀ c ∈ text, holds c) : ∀ c ∈ (Path.ofText text).toText, holds c := by
  have parts : ∀ part ∈ partsOf text, ∀ c ∈ part, holds c := fun part member c within =>
    inside c (Text.subset_of_mem_splitWhere _ text part (List.mem_filter.mp member).1 within)
  have joined : ∀ c ∈ Text.join "/" (partsOf text), holds c :=
    Text.forall_mem_join (List.forall_mem_singleton.mpr slash) parts
  rw [ofText]
  cases anchorOf text with
  | here =>
    cases named : partsOf text with
    | nil => exact List.forall_mem_singleton.mpr dot
    | cons part later => rwa [named] at joined
  | root => exact List.forall_mem_cons.mpr ⟨slash, joined⟩
  | doubleRoot => exact List.forall_mem_cons.mpr ⟨slash, List.forall_mem_cons.mpr ⟨slash, joined⟩⟩

theorem Place.openForAppending_current {place opened : Place} {path : Path} {location : Location}
    (done : place.openForAppending path = .ok (opened, location)) : opened.current = place.current := by
  have keeps : Yields (fun result => result.1.current = place.current) (place.openForAppending path) := by
    refine (yields_any _).bind fun there _ => ?_
    split
    · exact yields_ok.mpr rfl
    · exact yields_error _
    · exact yields_ok.mpr rfl
  exact keeps _ done

theorem Diagnostics.configure_current {place after : Place} {verbose : Bool} {file : Option Path}
    {diagnostics : Diagnostics} (done : configure place verbose file = (after, diagnostics, none)) :
    after.current = place.current := by
  simp only [configure] at done
  split at done
  · cases done
    rfl
  · split at done
    · next opening =>
      cases done
      obtain ⟨_, -, opening⟩ := openFile_eq_ok opening
      exact Place.openForAppending_current opening
    · cases done

theorem UsageLog.record_current {log : UsageLog} {occasion : Occasion} {place : Place} {event : Event}
    {recorded : Recorded} (done : log.record occasion place event = .ok recorded) :
    recorded.place.current = place.current := by
  cases log with
  | silent =>
    cases done
    rfl
  | daily directory =>
    rw [record_place done]
    exact (write_gains directory occasion place event).current

theorem classify_mem {place : Place} {root : Path} {profile : Profile} (told : classify place root = .ok profile) :
    profile ∈ Profile.unknown :: Profile.known := by
  rw [classify] at told
  split at told
  · next language _ =>
    cases told
    rw [Profile.named]
    cases found : Profile.known.find? (·.name == language) with
    | none => exact List.mem_cons_self
    | some profile => exact List.mem_cons_of_mem _ (List.mem_of_find?_eq_some found)
  · split at told
    · cases told
      exact List.mem_cons_self
    · cases told

theorem Request.run_analyze_from {listener : Listener} {place after : Place} {category : Text} {path : Option Text}
    {answer : Answer} (ran : (Request.analyze path).run listener place category = (after, .ok answer)) :
    ∃ root profile sources, place.rootAt path = .ok root ∧ profile ∈ Profile.unknown :: Profile.known ∧
      answer = .analysis (.ofSources root.toText profile sources) category := by
  simp only [run, analyzeAndTell] at ran
  split at ran
  · cases ran
  · next root rooted =>
    cases told : classify place root with
    | error fault =>
      simp only [told] at ran
      cases ran
    | ok profile =>
      simp only [told] at ran
      split at ran
      · cases ran
      · next sources _ =>
        cases ran
        exact ⟨root, profile, sources, rooted, classify_mem told, rfl⟩

theorem Request.run_search_from {listener : Listener} {place after : Place} {category : Text} {path : Option Text}
    {wanted term : Text} {answer : Answer}
    (ran : (Request.search path wanted term).run listener place category = (after, .ok answer)) :
    ∃ sources, answer = .findings (.ofSources ((given? (some wanted)).getD componentCategory).lower term sources) := by
  simp only [run, searchAndTell] at ran
  split at ran
  · cases ran
  · split at ran
    · cases ran
    · next sources _ =>
      cases ran
      exact ⟨sources, rfl⟩

theorem Place.rootAt_given (place : Place) (path : Option Text) : place.rootAt (given? path) = place.rootAt path := by
  have twice : given? (given? path) = given? path := by simp [given?, Option.filter_filter]
  rw [rootAt, rootAt, twice]

/-- A call that gives an answer has run its request where it started. -/
theorem callTool_current {log : UsageLog} {listener : Listener} {file : Option Location}
    (adds : listener.AddsTo file) {occasion : Occasion} {place : Place} {name category : Text}
    {arguments : Option Json} {answer : Answer}
    (answered : (callTool log listener occasion place name arguments category).result = .ok answer) :
    ∃ request started after, Request.ofCall name arguments category = .ok request ∧
      started.current = place.current ∧ request.run listener started category = (after, .ok answer) := by
  obtain ⟨request, started, after, completed, made, recorded, ran, closed, -⟩ :=
    callTool_comesTo.completion answered
  exact ⟨request, _, after, made, (adds _ _).current.trans (UsageLog.record_current recorded), ran⟩

namespace CommandLine

variable {environment : Environment} {stage : Stage} {options : Options}

theorem setting_current {path : Text} {setting : Setting}
    (set : Setting.ofPath environment stage options path = .ok setting) :
    setting.stage.place.current = stage.place.current := by
  obtain ⟨-, -, diagnostics, -, configured⟩ := Setting.ofPath_eq_ok set
  exact Diagnostics.configure_current configured

/-- The call of a command runs its request in the directory in which the command is run. -/
theorem ToolCall.outcome_runs {command : Command} {call : ToolCall} {answer : Answer}
    (calls : command.toolCall? environment stage options = some call)
    (answered : (call.outcome environment environment.occasion).result = .ok answer) :
    ∃ request started after,
      Request.ofCall call.name (some (.object call.fields)) call.defaultCategory = .ok request ∧
      started.current = stage.place.current ∧
      request.run (call.setting.stage.listener environment) started call.defaultCategory = (after, .ok answer) := by
  rw [outcome, callToolUntil_same] at answered
  have adds := Diagnostics.listener_addsTo environment.noteTime call.setting.stage.diagnostics
  obtain ⟨request, started, after, made, same, ran⟩ := callTool_current adds answered
  exact ⟨request, started, after, made, same.trans (setting_current (Command.toolCall?_setting calls)), ran⟩

theorem analyze_answer {path : Text} {category : Option Text} {jsonOnly : Bool} {call : ToolCall} {answer : Answer}
    (calls : (Command.analyze path category jsonOnly).toolCall? environment stage options = some call)
    (answered : (call.outcome environment environment.occasion).result = .ok answer) :
    ∃ root profile sources category, profile ∈ Profile.unknown :: Profile.known ∧
      (∀ other, stage.place.rootAt (some path) = .ok other → other = root) ∧
      answer = .analysis (.ofSources root.toText profile sources) category := by
  obtain ⟨request, started, after, made, same, ran⟩ := ToolCall.outcome_runs calls answered
  obtain ⟨setting, -, rfl⟩ := Option.map_eq_some_iff.mp calls
  cases made
  obtain ⟨root, profile, sources, rooted, known, rfl⟩ := Request.run_analyze_from ran
  rw [Place.rootAt_given] at rooted
  exact ⟨root, profile, sources, _, known, fun other here => (Place.rootAt_eq_of_ok same here rooted).symm, rfl⟩

theorem search_answer {category path term : Text} {jsonOnly : Bool} {call : ToolCall} {answer : Answer}
    (calls : (Command.search category path term jsonOnly).toolCall? environment stage options = some call)
    (answered : (call.outcome environment environment.occasion).result = .ok answer) :
    let wanted := (given? (some category)).getD call.setting.config.defaultCategory
    ∃ sources, answer = .findings (.ofSources ((given? (some wanted)).getD componentCategory).lower term sources) := by
  obtain ⟨request, started, after, made, -, ran⟩ := ToolCall.outcome_runs calls answered
  obtain ⟨setting, -, rfl⟩ := Option.map_eq_some_iff.mp calls
  have asked (default : Text) : Request.ofCall searchTool (some (.object [("path".toList, .str path),
      ("component_type".toList, .str category), ("search_term".toList, .str term)])) default =
    .ok (.search (given? (some path)) ((given? (some category)).getD default) term) := rfl
  cases (asked setting.config.defaultCategory).symm.trans made
  exact Request.run_search_from ran

theorem exit_of_programs {command : Command} (kind : command.jsonOnly? = some true) :
    (command.run environment stage options).exit = 0 ↔ ∃ call ∈ command.toolCall? environment stage options,
      ∃ answer, (call.outcome environment environment.occasion).result = .ok answer := by
  obtain ⟨exit, ends⟩ := @Command.run_prints environment stage options command true kind
  rw [exit, ends]
  constructor
  · rintro ⟨call, calls, answer, prints, answered, -⟩
    exact ⟨call, calls, answer, answered⟩
  · rintro ⟨call, calls, answer, answered⟩
    have writable := (isPlain_printedJson answer.payload).isWritable
    exact ⟨call, calls, answer, _, answered, rfl, List.forall_mem_singleton.mpr writable⟩

theorem endsWell_for_programs {arguments : List Text} {options : Options} {command : Command}
    (asked : Wish.ofArguments environment.logDirectory stage.place arguments = .ok (.run options command))
    (kind : command.jsonOnly? = some true)
    (answers : ∃ call ∈ command.toolCall? environment stage options,
      (call.outcome environment environment.occasion).result.toOption.isSome) :
    (run environment stage arguments).EndsWell := by
  obtain ⟨call, calls, answers⟩ := answers
  cases answered : (call.outcome environment environment.occasion).result with
  | error fault =>
    rw [answered] at answers
    cases answers
  | ok answer =>
    have exit := (exit_of_programs kind).mpr ⟨call, calls, answer, answered⟩
    rw [run, asked]
    exact (Command.run_prints kind).1.mp exit

/-- A command that prints either way surveys source files exactly if it is answered. -/
theorem surveys_of_answers {command : Command} (made : ∀ call ∈ command.toolCall? environment stage options,
    ∀ answer, (call.outcome environment environment.occasion).result = .ok answer →
      ∃ sources, answer.IsFrom sources) :
    (∃ call ∈ command.toolCall? environment stage options, ∃ answer,
      (call.outcome environment environment.occasion).result = .ok answer) ↔
      ∃ sources, command.Surveys environment stage options sources := by
  constructor
  · rintro ⟨call, calls, answer, answered⟩
    obtain ⟨sources, own⟩ := made call calls answer answered
    exact ⟨sources, call, calls, answer, answered, own⟩
  · rintro ⟨sources, call, calls, answer, answered, -⟩
    exact ⟨call, calls, answer, answered⟩

/-- A command that surveys source files prints its answer. -/
theorem Command.Surveys.prints {command other : Command} {sources : List Source}
    (surveys : command.Surveys environment stage options sources) (kind : other.jsonOnly? = some false)
    (same : other.toolCall? environment stage options = command.toolCall? environment stage options) :
    ∃ call ∈ command.toolCall? environment stage options, ∃ answer,
      (call.outcome environment environment.occasion).result = .ok answer ∧ answer.IsFrom sources ∧
      ((other.run environment stage options).EndsWell ↔
        ∃ prints, answerReport answer = .ok prints ∧ ∀ text ∈ prints, text.IsWritable) := by
  obtain ⟨call, calls, answer, answered, made⟩ := surveys
  refine ⟨call, calls, answer, answered, made, ?_⟩
  rw [(Command.run_prints kind).2, same]
  constructor
  · rintro ⟨again, recalled, answerAgain, prints, answeredAgain, shown, writable⟩
    cases calls.symm.trans recalled
    cases answered.symm.trans answeredAgain
    exact ⟨prints, shown, writable⟩
  · rintro ⟨prints, shown, writable⟩
    exact ⟨call, calls, answer, prints, answered, shown, writable⟩

theorem search_endsWell {category path term : Text} {sources : List Source}
    (surveys : (Command.search category path term true).Surveys environment stage options sources)
    (wanted : ∀ config, stage.place.loadConfig environment.homes (.ofText path) = .ok config →
      ((given? (some category)).getD config.defaultCategory).IsWritable)
    (asked : term.IsWritable) (writable : ∀ source ∈ sources, source.IsWritable) :
    ((Command.search category path term false).run environment stage options).EndsWell := by
  have default : componentCategory.IsWritable := by decide
  have kind : (Command.search category path term false).jsonOnly? = some false := rfl
  obtain ⟨call, calls, answer, answered, made, ends⟩ := surveys.prints kind rfl
  have loaded := (Setting.ofPath_eq_ok (Command.toolCall?_setting calls)).1
  obtain ⟨own, rfl⟩ := search_answer calls answered
  obtain ⟨setting, -, rfl⟩ := Option.map_eq_some_iff.mp calls
  have named := wanted setting.config loaded
  have lowered : (((given? (some ((given? (some category)).getD setting.config.defaultCategory))).getD
      componentCategory).lower).IsWritable := by
    refine isWritable_lower ?_
    cases chosen : given? (some ((given? (some category)).getD setting.config.defaultCategory)) with
    | none => exact default
    | some text =>
      cases (Option.filter_eq_some_iff.mp chosen).1
      exact named
  have told := isWritable_findingsReport (Findings.isWritable_ofSources writable lowered asked)
  exact ends.mpr ⟨_, rfl, made ▸ told⟩

theorem analyze_endsWell {path : Text} {category : Option Text} {sources : List Source}
    (surveys : (Command.analyze path category true).Surveys environment stage options sources)
    {root : Path} (rooted : stage.place.rootAt (some path) = .ok root) (named : root.toText.IsWritable)
    (writable : ∀ source ∈ sources, source.IsWritable) :
    ((Command.analyze path category false).run environment stage options).EndsWell ↔
      ∃ shown, Terminal.ofMarkup root.toText = .ok shown := by
  have kind : (Command.analyze path category false).jsonOnly? = some false := rfl
  obtain ⟨call, calls, answer, answered, made, ends⟩ := surveys.prints kind rfl
  obtain ⟨_, profile, own, wanted, known, only, rfl⟩ := analyze_answer calls answered
  cases only root rooted
  have told := isWritable_analysisReport
    (Analysis.isWritable_ofSources writable _ (Profile.isWritable_of_mem known)) named wanted
  have reads := @analysisReport_reads (.ofSources root.toText profile own) wanted
  refine ends.trans (Iff.trans ?_ reads)
  constructor
  · rintro ⟨prints, shown, -⟩
    exact ⟨prints, shown⟩
  · rintro ⟨prints, shown⟩
    exact ⟨prints, shown, told prints (made.2 ▸ shown)⟩

/-- A search that prints for programs what it finds in source files ends well for people too, if all that is named
or asked for and the files can be written. So does an analysis exactly if its root can be read as markup, such as
one without brackets. -/
theorem ends_well_for_people (environment : Environment) (stage : Stage) (options : Options) (path : Text) :
    (∀ category term,
      let search (jsonOnly : Bool) : Command := .search category path term jsonOnly
      (((search true).run environment stage options).exit = 0 ↔
        ∃ sources, (search true).Surveys environment stage options sources) ∧
      ∀ sources, (search true).Surveys environment stage options sources →
        (∀ config, stage.place.loadConfig environment.homes (.ofText path) = .ok config →
          ((given? (some category)).getD config.defaultCategory).IsWritable) →
        term.IsWritable → (∀ source ∈ sources, source.IsWritable) →
        ((search false).run environment stage options).EndsWell) ∧
    ∀ category,
      let analyze (jsonOnly : Bool) : Command := .analyze path category jsonOnly
      (((analyze true).run environment stage options).exit = 0 ↔
        ∃ sources, (analyze true).Surveys environment stage options sources) ∧
      (∀ sources root, (analyze true).Surveys environment stage options sources →
        stage.place.rootAt (some path) = .ok root → root.toText.IsWritable →
        (∀ source ∈ sources, source.IsWritable) →
        (((analyze false).run environment stage options).EndsWell ↔
          ∃ shown, Terminal.ofMarkup root.toText = .ok shown)) ∧
      (path ≠ [] → path.IsWritable → '[' ∉ path →
        ∃ root, stage.place.rootAt (some path) = .ok root ∧ root.toText.IsWritable ∧
          ∃ shown, Terminal.ofMarkup root.toText = .ok shown) := by
  refine ⟨fun category term => ⟨?_, fun sources => search_endsWell⟩,
    fun category => ⟨?_, fun sources root surveys => analyze_endsWell surveys, ?_⟩⟩
  · refine (exit_of_programs rfl).trans (surveys_of_answers fun call calls answer answered => ?_)
    obtain ⟨sources, rfl⟩ := search_answer calls answered
    exact ⟨sources, rfl⟩
  · refine (exit_of_programs rfl).trans (surveys_of_answers fun call calls answer answered => ?_)
    obtain ⟨root, profile, sources, wanted, known, -, rfl⟩ := analyze_answer calls answered
    exact ⟨sources, known, rfl⟩
  · intro given writable absent
    have root : stage.place.rootAt (some path) = .ok (.ofText path) := by
      obtain ⟨c, rest, rfl⟩ := List.exists_cons_of_ne_nil given
      rfl
    have bracketless : '[' ∉ (Path.ofText path).toText := fun inside =>
      Path.forall_mem_ofText (by decide) (by decide) (fun c member (same : c = '[') => absent (same ▸ member)) '['
        inside rfl
    exact ⟨_, root, Path.forall_mem_ofText (by decide) (by decide) writable,
      _, Terminal.ofMarkup_of_not_mem bracketless⟩

/-- Both end well in a project of one file. -/
theorem ends_well_for_people_one_file :
    let place : Place := ⟨.directory [("a.py".toList, .file (Utf8.encode "class Modal"))], []⟩
    let environment : Environment := ⟨⟨"/".toList, []⟩, none, ⟨⟨2024, 1, 1, 0, 0, 0, 0⟩, 1⟩, []⟩
    let options : Options := ⟨false, true, none, none⟩
    let search (jsonOnly : Bool) : Command := .search "modal" "." "class" jsonOnly
    let analyze (jsonOnly : Bool) : Command := .analyze "." none jsonOnly
    ((search true).run environment ⟨place, none⟩ options).exit = 0 ∧
      ((search false).run environment ⟨place, none⟩ options).EndsWell ∧
      ((analyze true).run environment ⟨place, none⟩ options).exit = 0 ∧
      ((analyze false).run environment ⟨place, none⟩ options).EndsWell := by
  intro place environment options search analyze
  let sources : List Source := [⟨⟨.here, ["a.py".toList]⟩, "a.py", "class Modal"⟩]
  have answers (command : Command) (made : ∃ call ∈ command.toolCall? environment ⟨place, none⟩ options,
      ∃ answer ∈ (call.outcome environment environment.occasion).result.toOption, answer.IsFrom sources) :
      command.Surveys environment ⟨place, none⟩ options sources := by
    obtain ⟨call, calls, answer, given, made⟩ := made
    cases answered : (call.outcome environment environment.occasion).result with
    | error fault =>
      rw [answered] at given
      cases given
    | ok other =>
      rw [answered] at given
      cases given
      exact ⟨call, calls, answer, answered, made⟩
  have searched := answers (search true) (by decide +kernel)
  have analyzed := answers (analyze true) (by decide +kernel)
  have writable : ∀ source ∈ sources, source.IsWritable := by
    have file : Text.IsWritable "a.py" ∧ Text.IsWritable "class Modal" := by decide
    exact List.forall_mem_singleton.mpr ⟨file.1, file.2⟩
  obtain ⟨search, analyze⟩ := ends_well_for_people environment ⟨place, none⟩ options "."
  obtain ⟨exit, ends⟩ := search "modal" "class"
  obtain ⟨exitToo, endsToo, plain⟩ := analyze none
  obtain ⟨root, rooted, named, shown⟩ := plain (by decide) (by decide) (by decide)
  refine ⟨exit.mpr ⟨sources, searched⟩, ends sources searched ?_ (by decide) writable,
    exitToo.mpr ⟨sources, analyzed⟩, (endsToo sources root analyzed rooted named writable).mpr shown⟩
  intro config _
  have wanted : Text.IsWritable "modal" := by decide
  exact wanted

/-- An analysis of a directory by the name of a tag that closes nothing ends well for programs alone, and so does a
search for half of a surrogate pair. -/
theorem ends_well_for_programs_alone :
    let environment : Environment := ⟨⟨"/".toList, []⟩, none, ⟨⟨2024, 1, 1, 0, 0, 0, 0⟩, 1⟩, []⟩
    let result (arguments : List Text) : Run :=
      run environment ⟨⟨.directory [], []⟩, none⟩ ("--no-usage-log".toList :: arguments)
    ((result ["analyze", "[/b]", "--json-only"]).EndsWell ∧ (result ["analyze", "[/b]"]).exit = 1 ∧
      (result ["analyze", "[/b]"]).fault = some (.markup (.notOpen "/b"))) ∧
    (result ["search", [Text.charOf 0xDCFF], "--json-only"]).EndsWell ∧
      (result ["search", [Text.charOf 0xDCFF]]).exit = 1 ∧
      (result ["search", [Text.charOf 0xDCFF]]).fault = some (.unprintable ⟨23, 24, 0xDCFF⟩) := by
  intro environment result
  refine ⟨⟨?_, by decide +kernel, by decide +kernel⟩, ?_, by decide +kernel, by decide +kernel⟩
  · have asked : Wish.ofArguments none ⟨.directory [], []⟩ ["--no-usage-log", "analyze", "[/b]", "--json-only"] =
      .ok (.run ⟨false, true, none, none⟩ (.analyze "[/b]" none true)) := rfl
    exact endsWell_for_programs asked rfl (by decide)
  · have asked : Wish.ofArguments none ⟨.directory [], []⟩
        ["--no-usage-log", "search", [Text.charOf 0xDCFF], "--json-only"] =
      .ok (.run ⟨false, true, none, none⟩ (.search [Text.charOf 0xDCFF] "." [] true)) := rfl
    exact endsWell_for_programs asked rfl (by decide +kernel)

end CommandLine

end ProjectSurvey
