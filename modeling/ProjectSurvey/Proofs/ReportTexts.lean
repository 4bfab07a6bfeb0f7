import ProjectSurvey.CommandLine.Report
import ProjectSurvey.Proofs.DeclarationSnippets
import ProjectSurvey.Proofs.MarkupText
import ProjectSurvey.Proofs.PatternFits
import ProjectSurvey.Proofs.Tally
import ProjectSurvey.Proofs.TerminalText

/-! The texts of the reports for people. Whatever is found in source files is a part of what they hold, and the rest
is fixed or has been asked for, so that the reports can be written wherever the names and the texts of the files and
what has been asked for can. -/

namespace ProjectSurvey

open Text

/-- Whether the name and the text of a source file can be written. -/
structure Source.IsWritable (source : Source) : Prop where
  file : source.file.IsWritable
  text : source.text.IsWritable

structure Component.IsWritable (component : Component) : Prop where
  name : component.name.IsWritable
  file : component.file.IsWritable
  role : component.role.IsWritable

structure Import.IsWritable (found : Import) : Prop where
  package : found.package.IsWritable
  statement : found.statement.IsWritable

structure Idiom.IsWritable (idiom : Idiom) : Prop where
  kind : idiom.kind.IsWritable
  label : idiom.label.IsWritable
  file : idiom.file.IsWritable
  sample : ∀ found ∈ idiom.example?, found.IsWritable

structure ExactMatch.IsWritable (found : ExactMatch) : Prop where
  file : found.file.IsWritable
  snippet : found.snippet.IsWritable

structure TermMatch.IsWritable (found : TermMatch) : Prop where
  file : found.file.IsWritable
  term : found.term.IsWritable

theorem isWritable_of_mem_finds {text : Text} (writable : text.IsWritable) {pattern : Pattern} {parts : List Text}
    (found : parts ∈ pattern.finds text) : ∀ part ∈ parts, part.IsWritable :=
  isWritable_flatten.mp (writable.of_subset (Pattern.isInfix_of_mem_finds pattern text parts found).subset)

theorem isWritable_roleBy (text name : Text) : (roleBy (judgedRules text) name).IsWritable := by
  have roles : ∀ rule ∈ roleRules, rule.role.IsWritable := by decide
  have default : defaultRole.IsWritable := by decide
  rw [roleBy]
  split
  · next rule inText judged =>
    obtain ⟨known, among, same⟩ := List.mem_map.mp (List.mem_of_find?_eq_some judged)
    cases same
    exact roles _ among
  · exact default

theorem isWritable_of_mem_externalImports {text : Text} (writable : text.IsWritable) :
    ∀ found ∈ externalImports text, found.1.IsWritable ∧ found.2.IsWritable := by
  intro found member
  obtain ⟨parts, among, told⟩ := List.mem_filterMap.mp member
  have pieces := isWritable_of_mem_finds writable among
  dsimp only at told
  split at told
  · cases told
  · cases told
    refine ⟨?_, isWritable_flatten.mpr pieces⟩
    cases named : parts[6]? with
    | none => exact isWritable_nil
    | some package => exact pieces package (List.mem_of_getElem? named)

theorem isWritable_declarationSnippet {text : Text} (writable : text.IsWritable) (category : Text) :
    (declarationSnippet text category).IsWritable := by
  rcases exists_first_declaration text category with none | ⟨before, first, rest, lines, apart, declaration⟩
  · rw [declarationSnippet_of_none none]
    exact isWritable_nil
  · obtain ⟨m, -, shown⟩ := declarationSnippet_of_first lines apart declaration
    rw [shown]
    refine isWritable_unlines fun line member => isWritable_of_mem_lines writable line ?_
    rw [lines]
    exact List.mem_append_right _ (List.mem_of_mem_take member)

namespace Source.IsWritable

variable {source : Source} (writable : source.IsWritable)

include writable

theorem component : ∀ found ∈ (Inventory.ofText source.text source.file).components, found.IsWritable := by
  refine List.forall_mem_map.mpr fun name member => ⟨?_, writable.file, isWritable_roleBy _ _⟩
  obtain ⟨parts, found, rfl⟩ := List.mem_map.mp member
  refine isWritable_flatten.mpr fun part inside => ?_
  exact isWritable_of_mem_finds writable.text found part (List.mem_of_mem_drop inside)

theorem importOf : ∀ found ∈ (Inventory.ofText source.text source.file).imports, found.IsWritable := by
  refine List.forall_mem_map.mpr fun told member => ?_
  obtain ⟨package, statement⟩ := isWritable_of_mem_externalImports writable.text told member
  exact ⟨package, statement⟩

theorem relevantImport (category : Text) :
    ∀ found ∈ relevantImports source.text source.file category, found.IsWritable := by
  refine List.forall_mem_map.mpr fun told member => ?_
  obtain ⟨package, statement⟩ :=
    isWritable_of_mem_externalImports writable.text told (List.mem_filter.mp member).1
  exact ⟨package, statement⟩

theorem idiom (category : Option Text) : ∀ found ∈ idiomsOf source.text source.file category, found.IsWritable := by
  have rules : ∀ rule ∈ projectRules ++ categoryRules, rule.kind.IsWritable ∧ rule.label.IsWritable := by
    decide
  refine List.forall_mem_map.mpr fun rule member => ?_
  have known : rule ∈ projectRules ++ categoryRules := by
    have applies := (List.mem_filter.mp member).1
    cases category with
    | none => exact List.mem_append_left _ applies
    | some category => exact List.mem_append_right _ (List.mem_filter.mp applies).1
  refine ⟨(rules rule known).1, (rules rule known).2, writable.file, fun sample shown => ?_⟩
  obtain ⟨pattern, -, found⟩ := Option.bind_eq_some_iff.mp shown
  obtain ⟨parts, first, rfl⟩ := Option.map_eq_some_iff.mp found
  exact writable.text.of_subset (Pattern.isInfix_of_first? first).subset

theorem exactMatch (category : Text) : ∀ found ∈ exactMatch? category source, found.IsWritable := by
  intro found given
  rw [exactMatch?] at given
  split at given
  · cases given
    exact ⟨writable.file, isWritable_declarationSnippet writable.text category⟩
  · cases given

theorem termMatch {term : Text} (asked : term.IsWritable) : ∀ found ∈ termMatch? term source, found.IsWritable := by
  intro found given
  rw [termMatch?] at given
  split at given
  · cases given
    exact ⟨writable.file, asked⟩
  · cases given

end Source.IsWritable

structure Profile.IsWritable (profile : Profile) : Prop where
  name : profile.name.IsWritable
  layers : ∀ layer ∈ profile.layers, layer.IsWritable
  folders : ∀ folder ∈ profile.folders, folder.IsWritable
  configFiles : ∀ file ∈ profile.configFiles, file.IsWritable

/-- Whether what is told of an analysis, but for its root, can be written. -/
structure Analysis.IsWritable (analysis : Analysis) : Prop where
  profile : analysis.profile.IsWritable
  components : ∀ component ∈ analysis.components, component.IsWritable
  imports : ∀ found ∈ analysis.imports, found.IsWritable
  idioms : ∀ idiom ∈ analysis.idioms, idiom.IsWritable

/-- Whether what is told of findings can be written. -/
structure Findings.IsWritable (found : Findings) : Prop where
  category : found.category.IsWritable
  exactMatches : ∀ hit ∈ found.exactMatches, hit.IsWritable
  termMatches : ∀ hit ∈ found.termMatches, hit.IsWritable
  imports : ∀ hit ∈ found.imports, hit.IsWritable
  idioms : ∀ idiom ∈ found.idioms, idiom.IsWritable

theorem Profile.isWritable_of_mem {profile : Profile} (known : profile ∈ unknown :: Profile.known) :
    profile.IsWritable := by
  have all : ∀ profile ∈ unknown :: Profile.known, profile.name.IsWritable ∧
      (∀ layer ∈ profile.layers, layer.IsWritable) ∧ (∀ folder ∈ profile.folders, folder.IsWritable) ∧
      ∀ file ∈ profile.configFiles, file.IsWritable := by decide
  obtain ⟨name, layers, folders, configFiles⟩ := all profile known
  exact ⟨name, layers, folders, configFiles⟩

section Sources

variable {sources : List Source} (writable : ∀ source ∈ sources, source.IsWritable)

include writable

theorem Analysis.isWritable_ofSources (root : Text) {profile : Profile} (told : profile.IsWritable) :
    (Analysis.ofSources root profile sources).IsWritable where
  profile := told
  components := by
    intro component member
    obtain ⟨inventory, among, inside⟩ := List.mem_flatMap.mp member
    obtain ⟨source, here, rfl⟩ := List.mem_map.mp among
    exact (writable source here).component component inside
  imports := by
    intro found member
    obtain ⟨inventory, among, inside⟩ := List.mem_flatMap.mp member
    obtain ⟨source, here, rfl⟩ := List.mem_map.mp among
    exact (writable source here).importOf found inside
  idioms := by
    intro idiom member
    obtain ⟨source, here, inside⟩ := List.mem_flatMap.mp member
    exact (writable source here).idiom none idiom inside

theorem Findings.isWritable_ofSources {category term : Text} (wanted : category.IsWritable)
    (asked : term.IsWritable) : (Findings.ofSources category term sources).IsWritable where
  category := wanted
  exactMatches := by
    intro found member
    obtain ⟨source, here, given⟩ := List.mem_filterMap.mp member
    exact (writable source here).exactMatch category found given
  termMatches := by
    intro found member
    obtain ⟨source, here, given⟩ := List.mem_filterMap.mp member
    exact (writable source here).termMatch asked found given
  imports := by
    intro found member
    obtain ⟨source, here, inside⟩ := List.mem_flatMap.mp member
    exact (writable source here).relevantImport category found inside
  idioms := by
    intro idiom member
    obtain ⟨source, here, inside⟩ := List.mem_flatMap.mp member
    exact (writable source here).idiom (some category) idiom inside

end Sources

theorem isWritable_closedLines {lines : List Text} (writable : ∀ line ∈ lines, line.IsWritable) :
    (closedLines lines).IsWritable :=
  isWritable_append.mpr ⟨isWritable_unlines writable, by decide⟩

theorem isWritable_titled {title : Text} (heading : title.IsWritable) {lines : List Text}
    (writable : ∀ line ∈ lines, line.IsWritable) : ∀ line ∈ titled title lines, line.IsWritable :=
  List.forall_mem_cons.mpr ⟨isWritable_nil, List.forall_mem_cons.mpr ⟨heading, writable⟩⟩

theorem isWritable_block {heading : Text} (above : heading.IsWritable) {lines : List Text}
    (writable : ∀ line ∈ lines, line.IsWritable) : ∀ line ∈ block heading lines, line.IsWritable := by
  rw [block]
  split
  · exact List.forall_mem_nil _
  · exact List.forall_mem_append.mpr ⟨List.forall_mem_cons.mpr ⟨above, writable⟩,
      List.forall_mem_singleton.mpr isWritable_nil⟩

theorem Idiom.IsWritable.lines {idiom : Idiom} (writable : idiom.IsWritable) :
    ∀ line ∈ idiomLines idiom, line.IsWritable := by
  have marks : Text.IsWritable "- " ∧ Text.IsWritable " in " ∧ Text.IsWritable "  Example: " := by decide
  have line : Text.IsWritable ("- " ++ idiom.label ++ " in " ++ idiom.file) := by
    simp only [isWritable_append, marks, writable.label, writable.file, and_self]
  rw [idiomLines]
  split
  · next found shown =>
    have sample := writable.sample found (Option.filter_eq_some_iff.mp shown).1
    exact List.forall_mem_cons.mpr ⟨line, List.forall_mem_singleton.mpr (isWritable_append.mpr ⟨marks.2.2, sample⟩)⟩
  · exact List.forall_mem_singleton.mpr line

theorem isWritable_kindLines {idioms : List Idiom} (writable : ∀ idiom ∈ idioms, idiom.IsWritable) {kind : Text}
    (named : kind.IsWritable) : ∀ line ∈ kindLines idioms kind, line.IsWritable := by
  refine isWritable_titled (isWritable_append.mpr ⟨isWritable_upper named, by decide⟩) ?_
  intro line member
  obtain ⟨idiom, shown, inside⟩ := List.mem_flatMap.mp member
  exact (writable idiom (List.mem_filter.mp (List.mem_of_mem_take shown)).1).lines line inside

theorem isWritable_similarLines {components : List Component}
    (writable : ∀ component ∈ components, component.IsWritable) :
    ∀ line ∈ similarLines components, line.IsWritable := by
  have marks : Text.IsWritable "- " ∧ Text.IsWritable " (" ∧ Text.IsWritable ") in " := by decide
  rw [similarLines]
  split
  · exact List.forall_mem_nil _
  · refine List.forall_mem_append.mpr ⟨isWritable_titled (by decide) ?_,
      isWritable_titled (by decide) (List.forall_mem_nil _)⟩
    refine List.forall_mem_map.mpr fun component member => ?_
    have told := writable component member
    change Text.IsWritable ("- " ++ component.name ++ " (" ++ component.role ++ ") in " ++ component.file)
    simp only [isWritable_append, marks, told.name, told.role, told.file, and_self]

theorem isWritable_commonImportLines {imports : List Import} (writable : ∀ found ∈ imports, found.IsWritable) :
    ∀ line ∈ commonImportLines (commonImports imports), line.IsWritable := by
  have marks : Text.IsWritable "- " ∧ Text.IsWritable " (used " ∧ Text.IsWritable " times)" := by decide
  rw [commonImportLines]
  split
  · exact List.forall_mem_nil _
  · refine isWritable_titled (by decide) (List.forall_mem_map.mpr fun entry member => ?_)
    have counted := mem_of_mem_tally entry (List.mem_mergeSort.mp (List.mem_of_mem_take member))
    obtain ⟨found, among, same⟩ := List.mem_map.mp counted
    have package : entry.1.IsWritable := same ▸ (writable found among).package
    change Text.IsWritable ("- " ++ entry.1 ++ " (used " ++ Text.ofNat entry.2 ++ " times)")
    simp only [isWritable_append, marks, package, isWritable_ofNat, and_self]

theorem Analysis.IsWritable.guidance {analysis : Analysis} (writable : analysis.IsWritable) (category : Text) :
    (patternGuidance analysis category).IsWritable := by
  refine isWritable_closedLines (List.forall_mem_cons.mpr ⟨isWritable_nil, isWritable_titled (by decide) ?_⟩)
  refine List.forall_mem_append.mpr ⟨List.forall_mem_append.mpr ⟨isWritable_similarLines ?_,
    isWritable_commonImportLines writable.imports⟩, ?_⟩
  · exact fun component member => writable.components component (List.mem_filter.mp member).1
  · intro line member
    obtain ⟨kind, known, inside⟩ := List.mem_flatMap.mp member
    obtain ⟨entry, counted, rfl⟩ := List.mem_map.mp known
    obtain ⟨idiom, among, same⟩ := List.mem_map.mp (mem_of_mem_tally entry counted)
    have named : entry.1.IsWritable := same ▸ (writable.idioms idiom among).kind
    exact isWritable_kindLines writable.idioms named line inside

theorem Analysis.IsWritable.instructions {analysis : Analysis} (writable : analysis.IsWritable) :
    (architectureInstructions analysis).IsWritable := by
  have comma : Text.IsWritable ", " := by decide
  have name := writable.profile.name
  have layers : (Text.join ", " analysis.profile.layers).IsWritable := isWritable_join comma writable.profile.layers
  have folders : (Text.join ", " analysis.profile.folders).IsWritable :=
    isWritable_join comma writable.profile.folders
  refine isWritable_unlines ?_
  simp only [List.forall_mem_cons, isWritable_append, isWritable_ofNat, isWritable_upper name, name, layers, folders,
    and_true]
  decide

theorem isWritable_exactMatchLines {found : ExactMatch} (writable : found.IsWritable) :
    ∀ line ∈ exactMatchLines found, line.IsWritable := by
  have marks : Text.IsWritable "- " ∧ Text.IsWritable "  Code preview:" ∧ Text.IsWritable "..." ∧
      Text.IsWritable "" := by decide
  have named : Text.IsWritable ("- " ++ found.file) := isWritable_append.mpr ⟨marks.1, writable.file⟩
  rw [exactMatchLines]
  split
  · exact List.forall_mem_singleton.mpr named
  · have preview := isWritable_append.mpr ⟨writable.snippet.take previewLength, marks.2.2.1⟩
    exact List.forall_mem_cons.mpr ⟨named, List.forall_mem_cons.mpr ⟨marks.2.1, List.forall_mem_cons.mpr ⟨preview,
      List.forall_mem_singleton.mpr marks.2.2.2⟩⟩⟩

theorem isWritable_recommendation (found : Findings) {category : Text} (wanted : category.IsWritable) :
    ∀ line ∈ recommendation found category, line.IsWritable := by
  rw [recommendation]
  split
  · simp only [List.forall_mem_cons, isWritable_append, wanted, and_true]
    decide
  · simp only [List.forall_mem_cons, isWritable_append, wanted, and_true]
    decide

theorem Findings.IsWritable.guidance {found : Findings} (writable : found.IsWritable) :
    (searchGuidance found none).IsWritable := by
  have marks : Text.IsWritable "- " ∧ Text.IsWritable " in " ∧ Text.IsWritable " (search: \"" ∧
      Text.IsWritable "\")" ∧ Text.IsWritable "TERM MATCHES (" := by decide
  have counted {start : Text} (fits : start.IsWritable) (n : Nat) : Text.IsWritable (start ++ Text.ofNat n ++ "):") :=
    isWritable_append.mpr ⟨isWritable_append.mpr ⟨fits, isWritable_ofNat n⟩, by decide⟩
  have exact : ∀ line ∈ exactBlock found.exactMatches, line.IsWritable := by
    rw [exactBlock]
    split
    · exact List.forall_mem_nil _
    · refine List.forall_mem_cons.mpr ⟨counted (by decide) _, fun line member => ?_⟩
      obtain ⟨hit, among, inside⟩ := List.mem_flatMap.mp member
      exact isWritable_exactMatchLines (writable.exactMatches hit among) line inside
  have terms : ∀ line ∈ found.termMatches.map termMatchLine, line.IsWritable := by
    refine List.forall_mem_map.mpr fun hit among => ?_
    have told := writable.termMatches hit among
    change Text.IsWritable ("- " ++ hit.file ++ " (search: \"" ++ hit.term ++ "\")")
    simp only [isWritable_append, marks, told.file, told.term, and_self]
  have imports : ∀ line ∈ ((distinct (found.imports.map (·.statement))).take relevantImportsShown).map
      ("- ".toList ++ ·), Text.IsWritable line := by
    refine List.forall_mem_map.mpr fun statement member => isWritable_append.mpr ⟨marks.1, ?_⟩
    obtain ⟨entry, listed, rfl⟩ := List.mem_map.mp (List.mem_of_mem_take member)
    obtain ⟨hit, among, same⟩ := List.mem_map.mp (mem_of_mem_tally entry listed)
    exact same ▸ (writable.imports hit among).statement
  have idioms : ∀ line ∈ found.idioms.map fun idiom => ("- ".toList ++ idiom.label ++ " in " ++ idiom.file : Text),
      Text.IsWritable line := by
    refine List.forall_mem_map.mpr fun idiom member => ?_
    have told := writable.idioms idiom member
    simp only [isWritable_append, marks, told.label, told.file, and_self]
  refine isWritable_closedLines (List.forall_mem_cons.mpr ⟨by decide, List.forall_mem_cons.mpr
    ⟨isWritable_nil, ?_⟩⟩)
  simp only [List.forall_mem_append]
  exact ⟨⟨⟨⟨exact, isWritable_block (counted marks.2.2.2.2 _) terms⟩,
    isWritable_block (by decide) imports⟩, isWritable_block (by decide) idioms⟩,
    isWritable_recommendation found writable.category⟩

namespace CommandLine

open Terminal

theorem isWritable_withoutOuterBreaks {text : Text} (writable : text.IsWritable) :
    (withoutOuterBreaks text).IsWritable :=
  writable.of_subset (trim_subset _ text)

theorem isWritable_analysisRows {analysis : Analysis} (writable : analysis.profile.IsWritable) :
    ∀ row ∈ analysisRows analysis, Table.IsWritableRow row := by
  have names : Text.IsWritable "Language" ∧ Text.IsWritable "Layers" ∧ Text.IsWritable "Folders" ∧
      Text.IsWritable "Config files" := by decide
  have list {texts : List Text} (fit : ∀ text ∈ texts, text.IsWritable) : (Text.join ", " texts).IsWritable :=
    isWritable_join (by decide) fit
  have configured : ∀ row ∈ if analysis.profile.configFiles.isEmpty then ([] : List (Text × Text)) else
      [("Config files", Text.join ", " analysis.profile.configFiles)], Table.IsWritableRow row := by
    split
    · exact List.forall_mem_nil _
    · exact List.forall_mem_singleton.mpr ⟨names.2.2.2, list writable.configFiles⟩
  refine List.forall_mem_cons.mpr ⟨⟨names.1, writable.name⟩, List.forall_mem_cons.mpr
    ⟨⟨names.2.1, list writable.layers⟩, List.forall_mem_cons.mpr
      ⟨⟨names.2.2.1, list writable.folders⟩, List.forall_mem_append.mpr ⟨configured, ?_⟩⟩⟩⟩
  simp only [List.forall_mem_cons, Table.IsWritableRow, isWritable_ofNat, and_true]
  decide

theorem isWritable_analysisTable {analysis : Analysis} (writable : analysis.profile.IsWritable)
    (root : analysis.root.IsWritable) : Yields (fun table => table.printed.IsWritable) (analysisTable analysis) := by
  refine (isWritable_ofMarkup root).bind fun shown fits => yields_ok.mpr (Table.isWritable_printed ?_ ?_ ?_)
  · rintro title ⟨⟩
    decide
  · rintro row ⟨⟩
  · have name : Text.IsWritable "Root" := by decide
    exact List.forall_mem_cons.mpr ⟨⟨name, fits⟩, isWritable_analysisRows writable⟩

theorem isWritable_analysisReport {analysis : Analysis} (writable : analysis.IsWritable)
    (root : analysis.root.IsWritable) (category : Text) :
    Yields (fun prints => ∀ text ∈ prints, text.IsWritable) (analysisReport analysis category) := by
  refine (isWritable_analysisTable writable.profile root).bind fun table fits => yields_ok.mpr ?_
  have title : Text.IsWritable "Rules" := by decide
  have rules : Text.IsWritable (Panel.printed ⟨"Rules", architectureInstructions analysis, .full⟩) :=
    Panel.isWritable_printed title writable.instructions
  have guidance := isWritable_printed (isWritable_withEmoji (isWritable_withoutOuterBreaks
    (writable.guidance category)))
  exact List.forall_mem_cons.mpr ⟨fits, List.forall_mem_cons.mpr ⟨by decide, List.forall_mem_cons.mpr
    ⟨rules, List.forall_mem_singleton.mpr guidance⟩⟩⟩

/-- The root of an analysis is the one thing in it that may stand in the way of telling it to people. -/
theorem analysisReport_reads {analysis : Analysis} {category : Text} :
    (∃ prints, analysisReport analysis category = .ok prints) ↔ ∃ shown, ofMarkup analysis.root = .ok shown := by
  cases read : ofMarkup analysis.root <;> simp [analysisReport, analysisTable, read, bind, Except.bind]

theorem isWritable_findingsReport {found : Findings} (writable : found.IsWritable) :
    ∀ text ∈ findingsReport found, text.IsWritable := by
  have guidance := isWritable_printed (isWritable_withEmoji writable.guidance)
  refine List.forall_mem_cons.mpr ⟨Panel.isWritable_printed ?_ ?_, List.forall_mem_singleton.mpr guidance⟩
  · exact isWritable_append.mpr ⟨by decide, writable.category⟩
  · simp only [isWritable_append, isWritable_ofNat, and_true]
    decide

end CommandLine

end ProjectSurvey
