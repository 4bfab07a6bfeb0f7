import ProjectSurvey.Proofs.SmallText
import ProjectSurvey.Proofs.SourceListing
import ProjectSurvey.Proofs.SourceRecords

/-! The inventory, the analysis and the search of a project go through its sources on their own, one
source after another. Step by step they stay in agreement, so that in the end they hold the same records
of the same files. -/

namespace ProjectSurvey

/-- Whether an import has to do with a category: its statement or the name of its package contains it, or
the name contains another word for it, all in small letters. -/
def Import.Concerns (category : Text) (record : Import) : Prop :=
  category.lower <:+: record.package.lower ∨ category.lower <:+: record.statement.lower ∨
    ∃ word ∈ packageAliases category.lower, word <:+: record.package.lower

instance (category : Text) (record : Import) : Decidable (record.Concerns category) :=
  inferInstanceAs (Decidable (_ ∨ _ ∨ _))

theorem Import.concerns_lower {category : Text} {record : Import} :
    record.Concerns category.lower ↔ record.Concerns category := by
  rw [Concerns, Text.lower_lower, Concerns]

theorem Import.concerns_iff {category : Text} {record : Import} :
    record.Concerns category ↔ isRelevant category.lower record.package record.statement = true := by
  simp only [Concerns, isRelevant, Text.anyOccursIn, Bool.or_eq_true, List.any_eq_true, Text.occursIn_iff,
    or_assoc]

theorem relevantImports_eq_filter (text file category : Text) :
    relevantImports text file category =
      (Inventory.ofText text file).imports.filter (·.Concerns category) := by
  simp only [relevantImports, Inventory.ofText, List.filter_map]
  congr 1
  apply List.filter_congr
  intro found _
  rw [Function.comp_apply, Bool.eq_iff_iff, decide_eq_true_eq, Import.concerns_iff]

/-- The inventory with the records of one more source. -/
def Inventory.visit (inventory : Inventory) (source : Source) : Inventory :=
  let more := Inventory.ofText source.text source.file
  { components := inventory.components ++ more.components
    hooks := inventory.hooks ++ more.hooks
    imports := inventory.imports ++ more.imports }

def Analysis.visit (analysis : Analysis) (source : Source) : Analysis :=
  let more := Inventory.ofText source.text source.file
  { analysis with
    components := analysis.components ++ more.components
    hooks := analysis.hooks ++ more.hooks
    imports := analysis.imports ++ more.imports
    idioms := analysis.idioms ++ idiomsOf source.text source.file none }

def Findings.visit (findings : Findings) (source : Source) : Findings :=
  { findings with
    exactMatches := findings.exactMatches ++ (exactMatch? findings.category source).toList
    termMatches := findings.termMatches ++ (termMatch? findings.term source).toList
    imports := findings.imports ++ relevantImports source.text source.file findings.category
    idioms := findings.idioms ++ idiomsOf source.text source.file (some findings.category) }

theorem Inventory.ofSources_concat (sources : List Source) (source : Source) :
    ofSources (sources ++ [source]) = (ofSources sources).visit source := by
  simp only [ofSources, visit, List.flatMap_map, List.flatMap_append, List.flatMap_singleton]

theorem Analysis.ofSources_concat (root : Text) (profile : Profile) (sources : List Source) (source : Source) :
    ofSources root profile (sources ++ [source]) = (ofSources root profile sources).visit source := by
  simp only [ofSources_eq, visit, List.flatMap_append, List.flatMap_singleton]

theorem Findings.ofSources_concat (category term : Text) (sources : List Source) (source : Source) :
    ofSources category term (sources ++ [source]) = (ofSources category term sources).visit source := by
  simp only [ofSources_eq, visit, List.flatMap_append, List.flatMap_singleton]

/-- What an inventory, an analysis and the findings of a search have in common once all of them have been
through the same sources. -/
structure ScansAgree (inventory : Inventory) (analysis : Analysis) (findings : Findings) : Prop where
  components : analysis.components = inventory.components
  hooks : analysis.hooks = inventory.hooks
  imports : analysis.imports = inventory.imports
  relevant : findings.imports = analysis.imports.filter (·.Concerns findings.category)

namespace ScansAgree

variable {inventory : Inventory} {analysis : Analysis} {findings : Findings}

theorem visit (agree : ScansAgree inventory analysis findings) (source : Source) :
    ScansAgree (inventory.visit source) (analysis.visit source) (findings.visit source) where
  components := by rw [Inventory.visit, Analysis.visit, agree.components]
  hooks := by rw [Inventory.visit, Analysis.visit, agree.hooks]
  imports := by rw [Inventory.visit, Analysis.visit, agree.imports]
  relevant := by
    rw [Findings.visit, Analysis.visit, List.filter_append, agree.relevant, relevantImports_eq_filter]

theorem ofSources (root : Text) (profile : Profile) (category term : Text) (sources : List Source) :
    ScansAgree (.ofSources sources) (.ofSources root profile sources) (.ofSources category term sources) := by
  induction sources using List.reverseRecOn with
  | nil => exact ⟨rfl, rfl, rfl, rfl⟩
  | append_singleton sources source ih =>
    rw [Inventory.ofSources_concat, Analysis.ofSources_concat, Findings.ofSources_concat]
    exact ih.visit source

end ScansAgree

namespace Findings

/-- Whether the matches of either kind name files in the order in which they are listed, and none of them
more often than it is listed. -/
structure Follows (findings : Findings) (files : List Text) : Prop where
  exactMatches : (findings.exactMatches.map (·.file)).Sublist files
  termMatches : (findings.termMatches.map (·.file)).Sublist files

namespace Follows

private theorem sublist_singleton {ρ : Type} {made : Option ρ} {file : ρ → Text} {name : Text}
    (named : ∀ record ∈ made.toList, file record = name) : (made.toList.map file).Sublist [name] := by
  cases made with
  | none => exact List.nil_sublist _
  | some record =>
    have called := named record (List.mem_singleton_self record)
    rw [Option.toList_some, List.map_singleton, called]

theorem visit {findings : Findings} {files : List Text} (follows : findings.Follows files) (source : Source) :
    (findings.visit source).Follows (files ++ [source.file]) where
  exactMatches := by
    rw [Findings.visit, List.map_append]
    apply follows.exactMatches.append
    exact sublist_singleton ((exactMatches_records findings.category).named source)
  termMatches := by
    rw [Findings.visit, List.map_append]
    apply follows.termMatches.append
    exact sublist_singleton ((termMatches_records findings.term).named source)

theorem ofSources (category term : Text) (sources : List Source) :
    (Findings.ofSources category term sources).Follows (sources.map (·.file)) := by
  induction sources using List.reverseRecOn with
  | nil => exact ⟨.slnil, .slnil⟩
  | append_singleton sources source ih =>
    rw [Findings.ofSources_concat, List.map_append]
    exact ih.visit source

end Follows

end Findings

theorem relativeText_injective {x y : Location} (someX : x ≠ []) (someY : y ≠ [])
    (slashlessX : ∀ name ∈ x, '/' ∉ name) (slashlessY : ∀ name ∈ y, '/' ∉ name)
    (same : relativeText x = relativeText y) : x = y := by
  rw [← pieces_relativeText someX slashlessX, same, pieces_relativeText someY slashlessY]

namespace Place

variable {place : Place} {root : Path}

theorem slashless_of_mem_visits (sound : place.tree.isSound = true) (slashless : place.tree.isSlashless = true)
    {x : Location} (member : x ∈ place.visits root) : x ≠ [] ∧ (∀ name ∈ x, '/' ∉ name) ∧ parentPart ∉ x := by
  cases found : place.find root with
  | error fault =>
    rw [visits_of_error found] at member
    cases member
  | ok base =>
    have met := ((mem_visits sound found).mp member).1
    refine ⟨met.ne_nil, ?_, parentPart_not_mem_of_met sound found met⟩
    obtain ⟨here, -, stands⟩ := find_eq_ok.mp found
    obtain ⟨-, -, shape, shown, -⟩ := (Node.meets_iff (sound_of_find sound found)).mp met
    obtain ⟨node, below, -⟩ := Node.shapeAt?_eq_some.mp shown
    have baseSlashless := (Node.slashless_of_at? slashless stands).2
    exact (Node.slashless_of_at? baseSlashless below).1

/-- No two sources of a project are called the same. -/
theorem sources_distinct (sound : place.tree.isSound = true) (slashless : place.tree.isSlashless = true)
    {extensions : List Text} {sources : List Source} (told : place.sources root extensions = .ok sources) :
    (sources.map (·.file)).Nodup := by
  rw [sources_eq_visits told, List.Nodup, List.pairwise_map, List.pairwise_filterMap]
  apply (visits_ordered sound).imp_of_mem
  intro x y memberX memberY before first firstTold second secondTold same
  obtain ⟨someX, slashlessX, apartX⟩ := slashless_of_mem_visits sound slashless memberX
  obtain ⟨someY, slashlessY, apartY⟩ := slashless_of_mem_visits sound slashless memberY
  rw [file_of_sourceAt? apartX firstTold, file_of_sourceAt? apartY secondTold] at same
  exact before.ne (relativeText_injective someX someY slashlessX slashlessY same)

end Place

theorem extract_eq {place : Place} {root : Path} {extensions : List Text} {sources : List Source}
    (told : place.sources root extensions = .ok sources) :
    extract place root extensions = .ok (.ofSources sources) := by
  rw [extract, told]
  rfl

theorem search_eq {place : Place} {query : Query} {root : Path} {sources : List Source}
    (rooted : place.rootAt query.path = .ok root) (told : place.sources root sourceExtensions = .ok sources) :
    search place query = .ok (.ofSources query.smallCategory (query.term.getD []) sources) := by
  simp only [search, rooted, told, bind, Except.bind]

/-- The scans of a project agree. An analysis has the three lists of the inventory below the same root and
the idioms of its sources in their order; a search below that root has those of its imports that concern
the category, and its matches name each file once at most, in the order of the sources. -/
theorem scans_agree {place : Place} (sound : place.tree.isSound = true)
    (slashless : place.tree.isSlashless = true) (path : Option Text) :
    (∀ analysis, analyze place path = .ok analysis → ∃ root, place.rootAt path = .ok root ∧
      extract place root sourceExtensions = .ok ⟨analysis.components, analysis.hooks, analysis.imports⟩ ∧
      (∃ sources, place.sources root sourceExtensions = .ok sources ∧
        analysis.idioms = sources.flatMap fun source => idiomsOf source.text source.file none) ∧
      ∀ category term, ∃ findings, search place ⟨path, category, term⟩ = .ok findings ∧
        findings.imports =
          analysis.imports.filter (·.Concerns ((given? category).getD componentCategory))) ∧
    ∀ category term findings, search place ⟨path, category, term⟩ = .ok findings →
      ∃ root sources, place.rootAt path = .ok root ∧ place.sources root sourceExtensions = .ok sources ∧
        (sources.map (·.file)).Nodup ∧ findings.Follows (sources.map (·.file)) := by
  constructor
  · intro analysis analyzed
    obtain ⟨root, profile, sources, rooted, told, rfl⟩ := analyze_eq_ok analyzed
    have agree := fun category term => ScansAgree.ofSources root.toText profile category term sources
    refine ⟨root, rooted, ?_, ⟨sources, told, ?_⟩, ?_⟩
    · rw [(agree [] []).components, (agree [] []).hooks, (agree [] []).imports]
      exact extract_eq told
    · rw [Analysis.ofSources_eq]
    · intro category term
      refine ⟨_, search_eq rooted told, ?_⟩
      rw [(agree _ _).relevant]
      apply List.filter_congr
      intro record _
      rw [decide_eq_decide]
      exact Import.concerns_lower
  · intro category term findings searched
    obtain ⟨root, sources, rooted, told, rfl⟩ := search_eq_ok searched
    exact ⟨root, sources, rooted, told, Place.sources_distinct sound slashless told, .ofSources _ _ sources⟩

/-- Of two imports a search for modals has the one of popups. -/
theorem scans_agree_modal :
    let place : Place := ⟨.directory [("go.mod", .file []),
      ("a.js", .file (Utf8.encode "import a from 'popup'\nimport b from 'c'"))], []⟩
    ∃ analysis findings, analyze place none = .ok analysis ∧
      search place ⟨none, some "Modal", none⟩ = .ok findings ∧
      findings.imports = analysis.imports.filter (·.Concerns "Modal") ∧
      analysis.imports.map (·.package) = ["popup".toList, "c".toList] ∧
      findings.imports.map (·.package) = ["popup".toList] := by
  intro place
  have rooted : place.rootAt none = .ok ⟨.root, []⟩ := rfl
  have walked : place.walk ⟨.root, []⟩ = .ok [⟨.root, ["a.js"]⟩, ⟨.root, ["go.mod"]⟩] := by
    rw [Place.walk_of_met rfl (show _ = arrange [⟨"go.mod", none⟩, ⟨"a.js", none⟩] from rfl)
      (.swap _ _ _) (by decide)]
    decide +kernel
  have classified : classify place ⟨.root, []⟩ = .ok (.named "go") := rfl
  let popup : Import := ⟨"popup", "a.js", "import a from 'popup'"⟩
  let other : Import := ⟨"c", "a.js", "import b from 'c'"⟩
  have analyzed : analyze place none = .ok ⟨"/", .named "go", [], [], [popup, other], []⟩ := by
    simp only [analyze, rooted, bind, Except.bind, Except.mapError, classified, Place.sources, Place.sourceFiles,
      walked]
    decide +kernel
  have searched : search place ⟨none, some "Modal", none⟩ =
      .ok ⟨"modal", "", [], [], [popup], []⟩ := by
    simp only [search, rooted, bind, Except.bind, Place.sources, Place.sourceFiles, walked]
    decide +kernel
  obtain ⟨_, -, -, -, searches⟩ := (@scans_agree place rfl rfl none).1 _ analyzed
  obtain ⟨findings, again, relevant⟩ := searches (some "Modal") none
  cases searched.symm.trans again
  exact ⟨_, _, analyzed, searched, relevant, rfl, rfl⟩

end ProjectSurvey
