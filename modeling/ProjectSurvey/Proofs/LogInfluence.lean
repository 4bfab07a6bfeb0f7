import ProjectSurvey.Proofs.CallFaults
import ProjectSurvey.Proofs.SurveyAgreement
import ProjectSurvey.Proofs.UsageWrite

/-! How far the usage log influences an answer. The line for the start of a call is written before the
survey begins, so the survey is one of the place with that line in it. -/

namespace ProjectSurvey

/-- What a call shows its caller: the payload of the answer, or the fault. -/
def Outcome.shown (outcome : Outcome) : Except CallFault Json :=
  outcome.result.map Answer.payload

namespace Request

variable {place after : Place} {file : Option Location} {category : Text}

def shown (place : Place) (category : Text) (request : Request) : Except SurveyFault Json :=
  (request.answer place category).map Answer.payload

/-- Whether what a place has gained escapes the survey of a request: its sources are kept, and those who
ask for an analysis are told of the same language. -/
structure Overlooks (place after : Place) (file : Option Location) (request : Request) : Prop where
  sources : ∀ root, place.rootAt request.path = .ok root → place.KeepsSources after file root
  language : ∀ path root, request = .analyze path → place.rootAt path = .ok root → place.KeepsLanguage after file root

/-- A request is answered alike where its survey overlooks what a place has gained. -/
theorem Overlooks.answer {request : Request} (overlooks : request.Overlooks place after file)
    (gains : place.Gains after file) (standing : after.hasCurrent = place.hasCurrent)
    (sound : place.tree.isSound = true) :
    request.answer after category = request.answer place category := by
  have rooted := Place.rootAt_eq gains.current standing
  cases request with
  | search path wanted term =>
    simp only [Request.answer, ProjectSurvey.search, rooted]
    cases found : place.rootAt path with
    | error fault => rfl
    | ok root =>
      have sources := (overlooks.sources root found).sources gains sound
      simp only [bind, Except.bind, sources]
  | analyze path =>
    simp only [Request.answer, ProjectSurvey.analyze, rooted]
    cases found : place.rootAt path with
    | error fault => rfl
    | ok root =>
      have keeps := overlooks.sources root found
      have sources := keeps.sources gains sound
      have language := (overlooks.language path root rfl found).classify keeps gains sound
      simp only [bind, Except.bind, Except.mapError, sources, language]

end Request

section Daily

variable {directory : Path} (occasion : Occasion) (place : Place) {name category : Text}
  {arguments : Option Json} {request : Request}

theorem callTool_refused {log : UsageLog} {fault : CallFault}
    (refused : Request.ofCall name arguments category = .error fault) :
    (callTool log .silent occasion place name arguments category).shown = .error fault := by
  simp only [Outcome.shown, callTool, refused, Except.map]

theorem callTool_unrecorded (made : Request.ofCall name arguments category = .ok request)
    (stands : place.hasCurrent = true) (unnameable : ¬ directory.IsNameable) :
    ∃ fault, (callTool (.daily directory) .silent occasion place name arguments category).shown =
      .error (.unrecordable fault) := by
  have unrecorded : ∃ fault, UsageLog.record (.daily directory) occasion place request.startEvent =
      .error fault := UsageLog.record_eq_error.mpr ⟨stands, unnameable⟩
  obtain ⟨fault, failed⟩ := unrecorded
  exact ⟨fault, by simp only [Outcome.shown, callTool, made, failed, Except.map]⟩

/-- A call with a daily log gives the answer to its request at the place after the line for its start. -/
theorem callTool_recorded (made : Request.ofCall name arguments category = .ok request)
    (nameable : place.hasCurrent = true → directory.IsNameable) :
    (callTool (.daily directory) .silent occasion place name arguments category).shown =
      (request.shown (UsageLog.write directory occasion place request.startEvent).1 category).mapError
        .unsurveyable := by
  obtain ⟨notes, started⟩ := UsageLog.record_eq_ok nameable occasion request.startEvent
  simp only [Outcome.shown, callTool, made, started, completeCall, Listener.silent,
    Request.run_silent, Request.shown]
  cases request.answer (UsageLog.write directory occasion place request.startEvent).1 category with
  | error fault => rfl
  | ok answer =>
    have later : (UsageLog.write directory occasion place request.startEvent).1.hasCurrent = true →
        directory.IsNameable := by rwa [UsageLog.write_hasCurrent]
    obtain ⟨more, completed⟩ := UsageLog.record_eq_ok later occasion answer.completion
    simp only [completed, Except.map, Except.mapError]

theorem callTool_unlogged (made : Request.ofCall name arguments category = .ok request) :
    (callTool .silent .silent occasion place name arguments category).shown =
      (request.shown place category).mapError .unsurveyable := by
  rw [Outcome.shown, callTool_silent, made]
  simp only [Except.bind, Request.shown]
  cases request.answer place category <;> rfl

end Daily

/-- A call with a daily log shows what it shows without one exactly if it is refused before anything is
recorded, or a path can name the log's directory, unless there is no current directory, and the survey comes
to the same with the first line written. That is so wherever the survey overlooks what the line has changed. -/
theorem callTool_daily_iff {place : Place} (sound : place.tree.isSound = true) (directory : Path)
    (occasion : Occasion) (name : Text) (arguments : Option Json) (category : Text) :
    ((callTool (.daily directory) .silent occasion place name arguments category).shown =
        (callTool .silent .silent occasion place name arguments category).shown ↔
      ∀ request, Request.ofCall name arguments category = .ok request →
        (place.hasCurrent = true → directory.IsNameable) ∧
          request.shown (UsageLog.write directory occasion place request.startEvent).1 category =
            request.shown place category) ∧
    ∀ request after, Request.ofCall name arguments category = .ok request →
      after = (UsageLog.write directory occasion place request.startEvent).1 →
      request.Overlooks place after (UsageLog.fileAt? directory occasion after) →
        request.shown after category = request.shown place category := by
  constructor
  · cases made : Request.ofCall name arguments category with
    | error fault =>
      rw [callTool_refused occasion place made, callTool_refused occasion place made]
      simp
    | ok request =>
      rw [callTool_unlogged occasion place made]
      simp only [Except.ok.injEq, forall_eq']
      by_cases nameable : place.hasCurrent = true → directory.IsNameable
      · rw [callTool_recorded occasion place made nameable]
        refine ⟨fun same => ⟨nameable, ?_⟩, fun same => by rw [same.2]⟩
        cases first : request.shown (UsageLog.write directory occasion place request.startEvent).1
            category <;>
          cases second : request.shown place category <;>
          simp_all [Except.mapError]
      · obtain ⟨stands, unnameable⟩ := Classical.not_imp.mp nameable
        obtain ⟨fault, failed⟩ := callTool_unrecorded occasion place made stands unnameable
        rw [failed]
        simp only [nameable, false_and, iff_false]
        cases request.shown place category <;> simp [Except.mapError]
  · intro request after _ written overlooks
    have gains := UsageLog.write_gains directory occasion place request.startEvent
    have standing := UsageLog.write_hasCurrent directory occasion place request.startEvent
    rw [← written] at gains standing
    simp only [Request.shown, overlooks.answer gains standing sound]

/-- An analysis is not influenced by a log that is kept in a hidden directory of the project. -/
theorem callTool_daily_hidden :
    let place : Place := ⟨.directory [("main.py".toList, .file [])], []⟩
    let occasion : Occasion := ⟨⟨2024, 1, 1, 0, 0, 0, 0⟩, 1⟩
    (callTool (.daily (.ofText defaultLogDirectory)) .silent occasion place analyzeTool none
        componentCategory).shown =
      (callTool .silent .silent occasion place analyzeTool none componentCategory).shown := by
  intro place occasion
  have sound : place.tree.isSound = true := by decide
  have agree := callTool_daily_iff sound (.ofText defaultLogDirectory) occasion
    analyzeTool none componentCategory
  refine agree.1.mpr fun request made => ⟨fun _ => Path.isNameable_iff.mpr (List.all_eq_true.mp rfl), ?_⟩
  have asked : request = .analyze none := by cases made; rfl
  subst asked
  have rooted : place.rootAt none = .ok ⟨.root, []⟩ := rfl
  have located : place.locate false ⟨.root, []⟩ = .ok [] := rfl
  have root : place.find ⟨.root, []⟩ = .ok place.tree := rfl
  let logged := (UsageLog.write (.ofText defaultLogDirectory) occasion place (Request.analyze none).startEvent).1
  have file : UsageLog.fileAt? (.ofText defaultLogDirectory) occasion logged =
      some [defaultLogDirectory, "usage-2024-01-01.log".toList] := by decide +kernel
  have listed : logged.list ⟨.root, []⟩ = .ok ["main.py".toList, defaultLogDirectory] := by
    decide +kernel
  have loggedAt : logged.locate false ⟨.root, []⟩ = .ok [] := by decide +kernel
  have hidden (x : Location) : ¬ place.Appears (some [defaultLogDirectory, "usage-2024-01-01.log".toList])
      ⟨.root, []⟩ x := by
    rintro ⟨here, again, stands, _, kept⟩
    cases located.symm.trans again
    cases stands
    exact absurd (kept defaultLogDirectory (by simp)) (by decide)
  refine agree.2 _ logged made rfl ⟨?_, ?_⟩
  · intro here same
    cases rooted.symm.trans same
    rw [file]
    refine Place.keepsSources_of_hidden ⟨_, root⟩ ?_ ?_ hidden
    · intro base x found met
      cases root.symm.trans found
      cases met with
      | entry member =>
        cases (Prod.mk.inj (List.mem_singleton.mp member)).1
        exact ⟨_, rfl⟩
      | deeper member _ below =>
        cases (Prod.mk.inj (List.mem_singleton.mp member)).2
        cases below
    · intro location new
      cases new
      rfl
  · intro path here same again
    cases same
    cases rooted.symm.trans again
    rw [file]
    refine ⟨?_, fun location reached => (by cases reached), .inr hidden⟩
    intro here name again marks _
    cases located.symm.trans again
    by_contra come
    obtain ⟨node, stands⟩ := Option.ne_none_iff_exists'.mp come
    have inside := (Place.mem_names loggedAt listed name).mpr (by rw [stands]; rfl)
    have unmarked : ∀ name ∈ ["main.py".toList, defaultLogDirectory], marksLanguage name = false := by
      decide
    cases (unmarked name inside).symm.trans marks

/-- The directory of the log can keep a call from being answered. -/
theorem callTool_daily_differs :
    ¬ ∀ place directory occasion name arguments category, place.tree.isSound = true →
      (callTool (.daily directory) .silent occasion place name arguments category).shown =
        (callTool .silent .silent occasion place name arguments category).shown := by
  intro always
  have made : Request.ofCall searchTool none componentCategory =
      .ok (.search none componentCategory []) := rfl
  have same := always ⟨.directory [], []⟩ (.ofText [Char.ofNat 0]) ⟨⟨2024, 1, 1, 0, 0, 0, 0⟩, 1⟩
    searchTool none componentCategory rfl
  have unnameable : ¬ (Path.ofText [Char.ofNat 0]).IsNameable := fun named =>
    absurd (named [Char.ofNat 0] (by decide) (Char.ofNat 0) (by decide)) (by decide)
  obtain ⟨fault, failed⟩ := callTool_unrecorded ⟨⟨2024, 1, 1, 0, 0, 0, 0⟩, 1⟩ ⟨.directory [], []⟩ made
    rfl unnameable
  rw [failed, callTool_unlogged _ _ made] at same
  generalize Request.shown ⟨.directory [], []⟩ componentCategory (.search none componentCategory []) =
    outcome at same
  cases outcome <;> cases same

end ProjectSurvey
