import Mathlib.Data.List.Basic
import ProjectSurvey.Analysis

/-! The records that a survey makes of its sources. Each of them names the file that it comes from, and
nothing else in it depends on how that file is called. -/

namespace ProjectSurvey

def Source.renamed (move : Text → Text) (source : Source) : Source :=
  { source with file := move source.file }

/-- Whether each record that is made of a source names its file, which is `file` of the record, and another
name of the file makes no difference but that. -/
structure MakesRecords {ρ : Type} (make : Source → List ρ) (file : ρ → Text)
    (rename : (Text → Text) → ρ → ρ) : Prop where
  named : ∀ source, ∀ record ∈ make source, file record = source.file
  renamed : ∀ move source, make (source.renamed move) = (make source).map (rename move)

namespace MakesRecords

variable {ρ : Type} {make : Source → List ρ} {file : ρ → Text} {rename : (Text → Text) → ρ → ρ}
  (records : MakesRecords make file rename)

include records

theorem filter (wanted : Text → Bool) (sources : List Source) :
    (sources.flatMap make).filter (wanted ∘ file) = (sources.filter (wanted ·.file)).flatMap make := by
  induction sources with
  | nil => rfl
  | cons source sources ih =>
    rw [List.flatMap_cons, List.filter_append, ih, List.filter_cons]
    by_cases kept : wanted source.file = true
    · have all : (make source).filter (wanted ∘ file) = make source := by
        rw [List.filter_eq_self]
        intro record member
        rwa [Function.comp_apply, records.named source record member]
      rw [all, if_pos kept, List.flatMap_cons]
    · have none : (make source).filter (wanted ∘ file) = [] := by
        rw [List.filter_eq_nil_iff]
        intro record member
        rwa [Function.comp_apply, records.named source record member]
      rw [none, if_neg kept, List.nil_append]

theorem map (move : Text → Text) (sources : List Source) :
    (sources.map (Source.renamed move)).flatMap make = (sources.flatMap make).map (rename move) := by
  rw [List.flatMap_map, List.map_flatMap]
  simp only [records.renamed]

end MakesRecords

def Component.renamed (move : Text → Text) (record : Component) : Component :=
  { record with file := move record.file }

def Hook.renamed (move : Text → Text) (record : Hook) : Hook :=
  { record with file := move record.file }

def Import.renamed (move : Text → Text) (record : Import) : Import :=
  { record with file := move record.file }

def Idiom.renamed (move : Text → Text) (record : Idiom) : Idiom :=
  { record with file := move record.file }

def ExactMatch.renamed (move : Text → Text) (record : ExactMatch) : ExactMatch :=
  { record with file := move record.file }

def TermMatch.renamed (move : Text → Text) (record : TermMatch) : TermMatch :=
  { record with file := move record.file }

private theorem makesRecords_of_map {ρ α : Type} {make : Source → List ρ} {file : ρ → Text}
    {rename : (Text → Text) → ρ → ρ} (find : Text → List α) (record : Text → Text → α → ρ)
    (made : ∀ source, make source = (find source.text).map (record source.text source.file))
    (named : ∀ text name x, file (record text name x) = name)
    (renamed : ∀ move text name x, record text (move name) x = rename move (record text name x)) :
    MakesRecords make file rename := by
  constructor
  · intro source found member
    rw [made] at member
    obtain ⟨x, -, rfl⟩ := List.mem_map.mp member
    exact named source.text source.file x
  · intro move source
    rw [made, made, List.map_map]
    apply List.map_congr_left
    intro x _
    exact renamed move source.text source.file x

theorem components_records :
    MakesRecords (fun source => (Inventory.ofText source.text source.file).components) (·.file)
      Component.renamed :=
  makesRecords_of_map componentNames
    (fun text name x => (⟨x, name, roleBy (judgedRules text.lower) x.lower⟩ : Component))
    (fun _ => rfl) (fun _ _ _ => rfl) fun _ _ _ _ => rfl

theorem hooks_records :
    MakesRecords (fun source => (Inventory.ofText source.text source.file).hooks) (·.file) Hook.renamed :=
  makesRecords_of_map hookNames (fun _ name x => (⟨x, name⟩ : Hook))
    (fun _ => rfl) (fun _ _ _ => rfl) fun _ _ _ _ => rfl

theorem imports_records :
    MakesRecords (fun source => (Inventory.ofText source.text source.file).imports) (·.file)
      Import.renamed :=
  makesRecords_of_map externalImports (fun _ name found => (⟨found.1, name, found.2⟩ : Import))
    (fun _ => rfl) (fun _ _ _ => rfl) fun _ _ _ _ => rfl

theorem relevantImports_records (category : Text) :
    MakesRecords (fun source => relevantImports source.text source.file category) (·.file)
      Import.renamed :=
  makesRecords_of_map
    (fun text => (externalImports text).filter fun found => isRelevant category.lower found.1 found.2)
    (fun _ name found => (⟨found.1, name, found.2⟩ : Import))
    (fun _ => rfl) (fun _ _ _ => rfl) fun _ _ _ _ => rfl

theorem idioms_records (category : Option Text) :
    MakesRecords (fun source => idiomsOf source.text source.file category) (·.file) Idiom.renamed :=
  makesRecords_of_map (fun text => (rulesFor category).filter (·.fires text))
    (fun text name rule => (⟨rule.kind, rule.label, name, rule.exampleFrom text⟩ : Idiom))
    (fun _ => rfl) (fun _ _ _ => rfl) fun _ _ _ _ => rfl

private theorem makesRecords_of_ite {ρ : Type} {make : Source → Option ρ} {file : ρ → Text}
    {rename : (Text → Text) → ρ → ρ} (fits : Source → Bool) (record : Source → ρ)
    (made : ∀ source, make source = if fits source then some (record source) else none)
    (named : ∀ source, file (record source) = source.file)
    (same : ∀ move source, fits (source.renamed move) = fits source)
    (renamed : ∀ move source, record (source.renamed move) = rename move (record source)) :
    MakesRecords (fun source => (make source).toList) file rename := by
  constructor
  · intro source found member
    rw [Option.mem_toList, made, Option.ite_none_right_eq_some] at member
    obtain ⟨-, same⟩ := member
    cases same
    exact named source
  · intro move source
    simp only [made, same, renamed]
    split <;> rfl

theorem exactMatches_records (category : Text) :
    MakesRecords (fun source => (exactMatch? category source).toList) (·.file) ExactMatch.renamed :=
  makesRecords_of_ite
    (fun source => category.occursIn source.path.name.lower || category.occursIn source.text.lower)
    (fun source => ⟨source.file, declarationSnippet source.text category, exactScore⟩)
    (fun _ => rfl) (fun _ => rfl) (fun _ _ => rfl) fun _ _ => rfl

theorem termMatches_records (term : Text) :
    MakesRecords (fun source => (termMatch? term source).toList) (·.file) TermMatch.renamed :=
  makesRecords_of_ite (fun source => !term.lower.isEmpty && term.lower.occursIn source.text.lower)
    (fun source => ⟨source.file, term, termSnippet source.text term, termScore⟩)
    (fun _ => rfl) (fun _ => rfl) (fun _ _ => rfl) fun _ _ => rfl

namespace Analysis

/-- The analysis with the records of wanted files only. -/
def select (wanted : Text → Bool) (analysis : Analysis) : Analysis :=
  { analysis with
    components := analysis.components.filter (wanted ·.file)
    hooks := analysis.hooks.filter (wanted ·.file)
    imports := analysis.imports.filter (wanted ·.file)
    idioms := analysis.idioms.filter (wanted ·.file) }

/-- The analysis with other names for the files of its records. -/
def renamed (move : Text → Text) (analysis : Analysis) : Analysis :=
  { analysis with
    components := analysis.components.map (·.renamed move)
    hooks := analysis.hooks.map (·.renamed move)
    imports := analysis.imports.map (·.renamed move)
    idioms := analysis.idioms.map (·.renamed move) }

theorem ofSources_eq (root : Text) (profile : Profile) (sources : List Source) :
    ofSources root profile sources =
      { root, profile
        components := sources.flatMap fun source => (Inventory.ofText source.text source.file).components
        hooks := sources.flatMap fun source => (Inventory.ofText source.text source.file).hooks
        imports := sources.flatMap fun source => (Inventory.ofText source.text source.file).imports
        idioms := sources.flatMap fun source => idiomsOf source.text source.file none } := by
  simp only [ofSources, Inventory.ofSources, List.flatMap_map]

theorem select_ofSources (wanted : Text → Bool) (root : Text) (profile : Profile) (sources : List Source) :
    (ofSources root profile sources).select wanted =
      ofSources root profile (sources.filter (wanted ·.file)) := by
  rw [ofSources_eq, ofSources_eq, ← components_records.filter, ← hooks_records.filter,
    ← imports_records.filter, ← (idioms_records none).filter]
  rfl

theorem ofSources_renamed (move : Text → Text) (root : Text) (profile : Profile) (sources : List Source) :
    ofSources root profile (sources.map (Source.renamed move)) =
      (ofSources root profile sources).renamed move := by
  rw [ofSources_eq, ofSources_eq, components_records.map, hooks_records.map, imports_records.map,
    (idioms_records none).map]
  rfl

end Analysis

namespace Findings

def select (wanted : Text → Bool) (found : Findings) : Findings :=
  { found with
    exactMatches := found.exactMatches.filter (wanted ·.file)
    termMatches := found.termMatches.filter (wanted ·.file)
    imports := found.imports.filter (wanted ·.file)
    idioms := found.idioms.filter (wanted ·.file) }

def renamed (move : Text → Text) (found : Findings) : Findings :=
  { found with
    exactMatches := found.exactMatches.map (·.renamed move)
    termMatches := found.termMatches.map (·.renamed move)
    imports := found.imports.map (·.renamed move)
    idioms := found.idioms.map (·.renamed move) }

theorem ofSources_eq (category term : Text) (sources : List Source) :
    ofSources category term sources =
      { category, term
        exactMatches := sources.flatMap fun source => (exactMatch? category source).toList
        termMatches := sources.flatMap fun source => (termMatch? term source).toList
        imports := sources.flatMap fun source => relevantImports source.text source.file category
        idioms := sources.flatMap fun source => idiomsOf source.text source.file (some category) } := by
  simp only [ofSources, List.filterMap_eq_flatMap_toList]

theorem select_ofSources (wanted : Text → Bool) (category term : Text) (sources : List Source) :
    (ofSources category term sources).select wanted =
      ofSources category term (sources.filter (wanted ·.file)) := by
  rw [ofSources_eq, ofSources_eq, ← (exactMatches_records category).filter,
    ← (termMatches_records term).filter, ← (relevantImports_records category).filter,
    ← (idioms_records (some category)).filter]
  rfl

theorem ofSources_renamed (move : Text → Text) (category term : Text) (sources : List Source) :
    ofSources category term (sources.map (Source.renamed move)) =
      (ofSources category term sources).renamed move := by
  rw [ofSources_eq, ofSources_eq, (exactMatches_records category).map, (termMatches_records term).map,
    (relevantImports_records category).map, (idioms_records (some category)).map]
  rfl

end Findings

theorem analyze_eq_ok {place : Place} {path : Option Text} {found : Analysis}
    (analyzed : analyze place path = .ok found) :
    ∃ root profile sources, place.rootAt path = .ok root ∧ place.sources root sourceExtensions = .ok sources ∧
      found = .ofSources root.toText profile sources := by
  simp only [analyze, bind, Except.bind] at analyzed
  cases rooted : place.rootAt path with
  | error fault => simp only [rooted, Except.mapError] at analyzed; cases analyzed
  | ok root =>
    simp only [rooted, Except.mapError] at analyzed
    cases classified : classify place root with
    | error fault => simp only [classified] at analyzed; cases analyzed
    | ok profile =>
      cases told : place.sources root sourceExtensions with
      | error fault => simp only [classified, told] at analyzed; cases analyzed
      | ok sources =>
        simp only [classified, told] at analyzed
        cases analyzed
        exact ⟨root, profile, sources, rfl, told, rfl⟩

theorem search_eq_ok {place : Place} {query : Query} {found : Findings}
    (searched : search place query = .ok found) :
    ∃ root sources, place.rootAt query.path = .ok root ∧ place.sources root sourceExtensions = .ok sources ∧
      found = .ofSources query.smallCategory (query.term.getD []) sources := by
  simp only [search, bind, Except.bind] at searched
  cases rooted : place.rootAt query.path with
  | error fault => rw [rooted] at searched; cases searched
  | ok root =>
    simp only [rooted] at searched
    cases told : place.sources root sourceExtensions with
    | error fault => rw [told] at searched; cases searched
    | ok sources =>
      rw [told] at searched
      cases searched
      exact ⟨root, sources, rfl, told, rfl⟩

end ProjectSurvey
