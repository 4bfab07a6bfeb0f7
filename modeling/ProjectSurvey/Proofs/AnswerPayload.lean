import ProjectSurvey.Proofs.CallFaults
import ProjectSurvey.Proofs.JsonReading

/-! The payload of an answer is a value that is read back, as long as its counts are not too long to be
read. -/

namespace ProjectSurvey

open Json

namespace Json

theorem isReadable_ofTexts {depth : Nat} (texts : List Text) : IsReadable (depth + 1) (ofTexts texts) := by
  apply IsReadable.array
  intro item member
  obtain ⟨text, _, rfl⟩ := List.mem_map.mp member
  exact .str

theorem isReadable_array {depth : Nat} {α : Type} {toJson : α → Json} {items : List α}
    (all : ∀ item ∈ items, IsReadable depth (toJson item)) :
    IsReadable (depth + 1) (.array (items.map toJson)) :=
  .array (List.forall_mem_map.mpr all)

theorem isReadable_object {depth : Nat} {fields : List (Text × Json)} (names : List Text)
    (named : fields.map (·.1) = names) (distinct : (names.map Text.rejoined).Nodup)
    (all : fields.Forall fun field => IsReadable depth field.2) :
    IsReadable (depth + 1) (.object fields) := by
  refine .object ?_ (List.forall_iff_forall_mem.mp all)
  rwa [← named, List.map_map] at distinct

end Json

section Records

variable {depth : Nat}

theorem Component.isReadable (component : Component) : IsReadable (depth + 1) component.toJson :=
  isReadable_object ["name", "file", "type"] rfl (by decide) ⟨.str, .str, .str⟩

theorem Hook.isReadable (hook : Hook) : IsReadable (depth + 1) hook.toJson :=
  isReadable_object ["name", "file"] rfl (by decide) ⟨.str, .str⟩

theorem Import.isReadable (record : Import) : IsReadable (depth + 1) record.toJson :=
  isReadable_object ["module", "file", "statement"] rfl (by decide) ⟨.str, .str, .str⟩

theorem Idiom.isReadable (idiom : Idiom) : IsReadable (depth + 1) idiom.toJson := by
  rw [Idiom.toJson]
  cases idiom.example? with
  | none => exact isReadable_object ["type", "pattern", "file"] rfl (by decide) ⟨.str, .str, .str⟩
  | some found =>
    exact isReadable_object ["type", "pattern", "file", "example"] rfl (by decide)
      ⟨.str, .str, .str, .str⟩

theorem ExactMatch.isReadable {found : ExactMatch} (score : found.score = exactScore) :
    IsReadable (depth + 1) found.toJson := by
  have short : IsReadable depth (.int found.score) := by
    rw [score]
    exact .int (by decide)
  exact isReadable_object ["file", "snippet", "score"] rfl (by decide) ⟨.str, .str, short⟩

theorem TermMatch.isReadable {found : TermMatch} (score : found.score = termScore) :
    IsReadable (depth + 1) found.toJson := by
  have short : IsReadable depth (.int found.score) := by
    rw [score]
    exact .int (by decide)
  exact isReadable_object ["file", "searchTerm", "snippet", "score"] rfl (by decide)
    ⟨.str, .str, .str, short⟩

theorem Analysis.isReadable (analysis : Analysis) : IsReadable (depth + 4) analysis.toJson := by
  have found : IsReadable (depth + 3) (.object [
      ("components", .array (analysis.components.map (·.toJson))),
      ("hooks", .array (analysis.hooks.map (·.toJson))),
      ("imports", .array (analysis.imports.map (·.toJson))),
      ("patterns", .array (analysis.idioms.map (·.toJson)))]) :=
    isReadable_object ["components", "hooks", "imports", "patterns"] rfl (by decide)
      ⟨isReadable_array fun component _ => component.isReadable,
        isReadable_array fun hook _ => hook.isReadable,
        isReadable_array fun record _ => record.isReadable,
        isReadable_array fun idiom _ => idiom.isReadable⟩
  exact isReadable_object
    ["root", "detectedLanguage", "layers", "folderPattern", "fileExtensions", "configFiles",
      "allowedLanguages", "existingPatterns"] rfl (by decide)
    ⟨.str, .str, isReadable_ofTexts _, isReadable_ofTexts _, isReadable_ofTexts _, isReadable_ofTexts _,
      isReadable_ofTexts _, found⟩

/-- Whether every match has the score of its kind. -/
def Findings.IsScored (found : Findings) : Prop :=
  (∀ exact ∈ found.exactMatches, exact.score = exactScore) ∧
    ∀ mention ∈ found.termMatches, mention.score = termScore

theorem Findings.isScored_ofSources (category term : Text) (sources : List Source) :
    (ofSources category term sources).IsScored := by
  constructor
  · intro exact member
    obtain ⟨source, _, made⟩ := List.mem_filterMap.mp member
    simp only [exactMatch?, Option.ite_none_right_eq_some, Option.some.injEq] at made
    rw [← made.2]
  · intro mention member
    obtain ⟨source, _, made⟩ := List.mem_filterMap.mp member
    simp only [termMatch?, Option.ite_none_right_eq_some, Option.some.injEq] at made
    rw [← made.2]

theorem Findings.isReadable {found : Findings} (scored : found.IsScored) :
    IsReadable (depth + 3) found.toJson :=
  isReadable_object ["componentType", "searchTerm", "exactMatches", "termMatches", "imports", "patterns"]
    rfl (by decide)
    ⟨.str, .str, isReadable_array fun exact member => ExactMatch.isReadable (scored.1 exact member),
      isReadable_array fun mention member => TermMatch.isReadable (scored.2 mention member),
      isReadable_array fun record _ => record.isReadable, isReadable_array fun idiom _ => idiom.isReadable⟩

end Records

namespace Answer

def counts : Answer → List Nat
  | .analysis .. => []
  | .findings found => [found.exactMatches.length, found.termMatches.length, found.idioms.length]

/-- Whether an answer is one that a tool gives. -/
def IsScored : Answer → Prop
  | .analysis .. => True
  | .findings found => found.IsScored

theorem isReadable_payload {answer : Answer} (scored : answer.IsScored)
    (short : ∀ n ∈ answer.counts, (Text.ofNat n).length ≤ digitLimit) :
    answer.payload.IsReadable depthLimit := by
  cases answer with
  | analysis survey category =>
    exact isReadable_object ["summary", "instructions", "guidance"] rfl (by decide)
      ⟨survey.isReadable, .str, .str⟩
  | findings found =>
    have count {n : Nat} (member : n ∈ (Answer.findings found).counts) :
        IsReadable (depthLimit - 1) (.count n) := .int (short n member)
    exact isReadable_object
      ["componentType", "searchTerm", "exactMatches", "termMatches", "patterns", "guidance", "results"]
      rfl (by decide)
      ⟨.str, .str, count (by simp [counts]), count (by simp [counts]), count (by simp [counts]), .str,
        Findings.isReadable scored⟩

end Answer

theorem Request.run_isScored {request : Request} {listener : Listener} {place after : Place}
    {category : Text} {answer : Answer}
    (ran : request.run listener place category = (after, .ok answer)) : answer.IsScored := by
  cases request with
  | analyze path =>
    simp only [run, Prod.mk.injEq] at ran
    cases found : (analyzeAndTell listener place path).2 with
    | error fault =>
      rw [found] at ran
      cases ran.2
    | ok analysis =>
      rw [found] at ran
      cases ran.2
      trivial
  | search path wanted term =>
    simp only [run, searchAndTell, Prod.mk.injEq] at ran
    cases rooted : place.rootAt path with
    | error fault =>
      rw [rooted] at ran
      cases ran.2
    | ok root =>
      simp only [rooted] at ran
      cases told : place.tellSources listener root sourceExtensions with
      | mk later outcome =>
        cases outcome with
        | error fault =>
          rw [told] at ran
          cases ran.2
        | ok sources =>
          rw [told] at ran
          cases ran.2
          exact Findings.isScored_ofSources _ _ sources

/-- Whatever answer a call gives, only its counts can keep the payload from being read back. -/
theorem callTool_isScored {log : UsageLog} {listener : Listener} {occasion : Occasion} {place : Place}
    {name : Text} {arguments : Option Json} {category : Text} {answer : Answer}
    (answered : (callTool log listener occasion place name arguments category).result = .ok answer) :
    answer.IsScored := by
  obtain ⟨request, -, -, started, after, ran⟩ := callTool_answered answered
  exact Request.run_isScored ran

end ProjectSurvey
