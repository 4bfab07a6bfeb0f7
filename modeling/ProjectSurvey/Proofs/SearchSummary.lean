import Mathlib.Data.List.Forall2
import ProjectSurvey.Guidance
import ProjectSurvey.Proofs.Tally
import ProjectSurvey.Proofs.TextPieces

/-! The summary of a search. Much of what a search finds is not shown: what is left of it are the files, the terms,
the beginnings of the snippets of exact matches, the first five statements and the labels of idioms. The advice at
the end is settled by the two kinds of matches alone. -/

namespace ProjectSurvey

variable {found other : Findings}

/-- Whether two exact matches are in the same file and their snippets are the same or, if there is something in both,
begin with the same characters as far as these are shown. -/
structure ExactMatch.ShownAs (other hit : ExactMatch) : Prop where
  file : other.file = hit.file
  snippet : other.snippet = hit.snippet ∨
    other.snippet ≠ [] ∧ hit.snippet ≠ [] ∧ other.snippet.take 200 = hit.snippet.take 200

structure TermMatch.ShownAs (other hit : TermMatch) : Prop where
  file : other.file = hit.file
  term : other.term = hit.term

structure Idiom.ShownAs (other idiom : Idiom) : Prop where
  label : other.label = idiom.label
  file : other.file = idiom.file

/-- Whether findings are the same but for what a summary does not show, record by record. -/
structure Findings.ShownAs (other found : Findings) : Prop where
  category : other.category = found.category
  exactMatches : List.Forall₂ ExactMatch.ShownAs other.exactMatches found.exactMatches
  termMatches : List.Forall₂ TermMatch.ShownAs other.termMatches found.termMatches
  imports : List.Forall₂ (fun other hit => other.statement = hit.statement) other.imports found.imports
  idioms : List.Forall₂ Idiom.ShownAs other.idioms found.idioms

theorem map_eq_of_forall₂ {α β : Type} {f : α → β} {related : α → α → Prop} {others items : List α}
    (alike : List.Forall₂ related others items) (agree : ∀ other item, related other item → f other = f item) :
    others.map f = items.map f := by
  induction alike with
  | nil => rfl
  | cons first _ ih => rw [List.map_cons, List.map_cons, agree _ _ first, ih]

theorem isEmpty_eq_of_forall₂ {α : Type} {related : α → α → Prop} {others items : List α}
    (alike : List.Forall₂ related others items) : others.isEmpty = items.isEmpty := by
  cases alike <;> rfl

theorem ExactMatch.ShownAs.lines {other hit : ExactMatch} (alike : other.ShownAs hit) :
    exactMatchLines other = exactMatchLines hit := by
  rw [exactMatchLines, exactMatchLines, alike.file]
  rcases alike.snippet with same | ⟨some, someHit, same⟩
  · rw [same]
  · rw [if_neg (mt List.isEmpty_iff.mp some), if_neg (mt List.isEmpty_iff.mp someHit), previewLength, same]

/-- What is not shown makes no difference to the summary. -/
theorem Findings.ShownAs.summary (alike : other.ShownAs found) (category : Option Text) :
    searchGuidance other category = searchGuidance found category := by
  have exactLines : other.exactMatches.map exactMatchLines = found.exactMatches.map exactMatchLines :=
    map_eq_of_forall₂ alike.exactMatches fun _ _ => ExactMatch.ShownAs.lines
  have exactEmpty := isEmpty_eq_of_forall₂ alike.exactMatches
  have exact : exactBlock other.exactMatches = exactBlock found.exactMatches := by
    rw [exactBlock, exactBlock, List.flatMap_def, exactLines, exactEmpty, alike.exactMatches.length_eq,
      List.flatMap_def]
  have termLines : other.termMatches.map termMatchLine = found.termMatches.map termMatchLine :=
    map_eq_of_forall₂ alike.termMatches fun _ _ same => by rw [termMatchLine, termMatchLine, same.file, same.term]
  have statements : other.imports.map (·.statement) = found.imports.map (·.statement) :=
    map_eq_of_forall₂ alike.imports fun _ _ => id
  have idiomLines : (other.idioms.map fun idiom => ("- ".toList ++ idiom.label ++ " in " ++ idiom.file : Text)) =
      found.idioms.map fun idiom => "- ".toList ++ idiom.label ++ " in " ++ idiom.file :=
    map_eq_of_forall₂ alike.idioms fun _ _ same => by rw [same.label, same.file]
  have advice (name : Text) : recommendation other name = recommendation found name := by
    rw [recommendation, recommendation, exactEmpty, isEmpty_eq_of_forall₂ alike.termMatches]
  simp only [searchGuidance, exact, termLines, alike.termMatches.length_eq, statements, idiomLines, advice,
    alike.category]

/-- Whether a record is the first of those with a statement. -/
def IsFirstRecord (imports : List Import) (statement : Text) (record : Import) : Prop :=
  ∃ before after, imports = before ++ record :: after ∧ record.statement = statement ∧
    ∀ earlier ∈ before, earlier.statement ≠ statement

/-- The first record of each of the first `most` distinct statements. -/
def firstRecords (most : Nat) (imports : List Import) : List Import :=
  ((imports.map (·.statement)).eraseDups.take most).filterMap fun statement =>
    imports.find? (·.statement == statement)

theorem find?_statement_eq_some {imports : List Import} {statement : Text} {record : Import} :
    imports.find? (·.statement == statement) = some record ↔ IsFirstRecord imports statement record := by
  rw [List.find?_eq_some_iff_append]
  simp only [beq_iff_eq, Bool.not_eq_true', beq_eq_false_iff_ne]
  constructor
  · rintro ⟨same, before, after, cut, apart⟩
    exact ⟨before, after, cut, same, apart⟩
  · rintro ⟨before, after, cut, same, apart⟩
    exact ⟨same, before, after, cut, apart⟩

theorem forall₂_filterMap {α β : Type} {pick : α → Option β} {related : α → β → Prop} {items : List α}
    (picks : ∀ item ∈ items, ∃ picked, pick item = some picked ∧ related item picked) :
    List.Forall₂ related items (items.filterMap pick) := by
  induction items with
  | nil => exact .nil
  | cons item items ih =>
    obtain ⟨picked, here, holds⟩ := picks item List.mem_cons_self
    rw [List.filterMap_cons_some here]
    exact .cons holds (ih fun later member => picks later (List.mem_cons_of_mem _ member))

theorem forall₂_firstRecords (most : Nat) (imports : List Import) : List.Forall₂ (IsFirstRecord imports)
    ((imports.map (·.statement)).eraseDups.take most) (firstRecords most imports) := by
  refine forall₂_filterMap fun statement member => ?_
  obtain ⟨record, among, same⟩ := List.mem_map.mp (List.mem_eraseDups.mp (List.mem_of_mem_take member))
  obtain ⟨first, finds⟩ := Option.isSome_iff_exists.mp
    (List.find?_isSome.mpr ⟨record, among, beq_iff_eq.mpr same⟩ : (imports.find? (·.statement == statement)).isSome)
  exact ⟨first, finds, find?_statement_eq_some.mp finds⟩

theorem statements_firstRecords (most : Nat) (imports : List Import) :
    (firstRecords most imports).map (·.statement) = (imports.map (·.statement)).eraseDups.take most := by
  symm
  rw [← List.forall₂_eq_eq_eq, List.forall₂_map_right_iff]
  refine (forall₂_firstRecords most imports).imp fun statement record first => ?_
  obtain ⟨-, -, -, same, -⟩ := first
  exact same.symm

/-- The records that come after the first of their statement, and those of later statements than the first five,
make no difference to the summary. -/
theorem searchGuidance_firstRecords (found : Findings) (category : Option Text) :
    searchGuidance { found with imports := firstRecords 5 found.imports } category =
      searchGuidance found category := by
  have shown : (distinct ((firstRecords 5 found.imports).map (·.statement))).take relevantImportsShown =
      (distinct (found.imports.map (·.statement))).take relevantImportsShown := by
    have apart : (found.imports.map (·.statement)).eraseDups.take 5 |>.Nodup :=
      (nodup_eraseDups _).sublist (List.take_sublist _ _)
    rw [distinct, distinct, map_fst_tally, map_fst_tally, statements_firstRecords, eraseDups_of_nodup apart,
      List.take_take]
    rfl
  simp only [searchGuidance, shown]
  rfl

/-- The lines that show what a snippet begins with, unless it is empty. -/
def previewLines (snippet : Text) : List Text :=
  if snippet = [] then [] else ["  Code preview:", snippet.take 200 ++ "...", []]

/-- The lines of an exact match: its file, and what its snippet begins with. -/
def exactEntry (hit : ExactMatch) : List Text :=
  ("- " ++ hit.file) :: previewLines hit.snippet

def termEntry (hit : TermMatch) : List Text :=
  ["- " ++ hit.file ++ " (search: \"" ++ hit.term ++ "\")"]

/-- A section with a heading that tells the number of its entries, unless there are none. -/
def counted (heading : Text) (entries : List (List Text)) : List Text :=
  if entries = [] then [] else (heading ++ " (" ++ Text.ofNat entries.length ++ "):") :: entries.flatten

/-- The lines in front of the advice: a title, and a section for each kind of finding that there is. -/
def shownLines (found : Findings) : List Text :=
  ["=== SIMILAR CODE ANALYSIS ===".toList, []] ++
  counted "EXACT MATCHES" (found.exactMatches.map exactEntry) ++
  counted "TERM MATCHES" (found.termMatches.map termEntry) ++ (if found.termMatches = [] then [] else [[]]) ++
  block "RELEVANT IMPORTS:" ((firstRecords 5 found.imports).map fun record => "- " ++ record.statement) ++
  block "CODE PATTERNS DETECTED:" (found.idioms.map fun idiom => "- " ++ idiom.label ++ " in " ++ idiom.file)

/-- The advice where nothing matches. -/
def adviceToCreate (name : Text) : List Text :=
  ["NO SIMILAR CODE FOUND", "Consider creating a new " ++ name ++ " following the project's architecture."]

/-- The advice where something matches. -/
def adviceToFollow (name : Text) : List Text :=
  ["RECOMMENDATION:", "Follow the patterns found above when creating your new " ++ name ++ ".",
    "Reuse imports, structure, and coding style from existing similar components."]

theorem exactMatchLines_eq (hit : ExactMatch) : exactMatchLines hit = exactEntry hit := by
  rw [exactMatchLines, exactEntry, previewLines]
  cases hit.snippet <;> rfl

theorem exactBlock_eq (hits : List ExactMatch) : exactBlock hits = counted "EXACT MATCHES" (hits.map exactEntry) := by
  rw [← funext exactMatchLines_eq]
  cases hits with
  | nil => rfl
  | cons hit hits =>
    rw [exactBlock, counted, List.flatMap_def, List.length_map]
    rfl

theorem termBlock_eq (hits : List TermMatch) :
    block ("TERM MATCHES (" ++ Text.ofNat hits.length ++ "):") (hits.map termMatchLine) =
      counted "TERM MATCHES" (hits.map termEntry) ++ if hits = [] then [] else [[]] := by
  cases hits with
  | nil => rfl
  | cons hit hits =>
    have lines : ((hit :: hits).map termEntry).flatten = (hit :: hits).map termMatchLine := by
      rw [← List.flatMap_def, List.map_eq_flatMap]
      rfl
    rw [counted, List.length_map, lines]
    rfl

theorem closedLines_singleton (line : Text) : closedLines [line] = line ++ ['\n'] := by
  rw [closedLines, Text.unlines, Text.join, List.intercalate_singleton]
  rfl

theorem closedLines_suffix (lines : List Text) {others : List Text} (some : others ≠ []) :
    closedLines others <:+ closedLines (lines ++ others) := by
  cases lines with
  | nil => exact List.suffix_rfl
  | cons line lines =>
    simp only [closedLines, Text.unlines, Text.join_append _ (List.cons_ne_nil line lines) some, List.append_assoc]
    exact (List.suffix_append _ _).trans (List.suffix_append _ _)

theorem recommendation_eq (found : Findings) (name : Text) : recommendation found name =
    if found.exactMatches = [] ∧ found.termMatches = [] then adviceToCreate name else adviceToFollow name := by
  simp only [recommendation, Bool.and_eq_true, List.isEmpty_iff]
  rfl

/-- The two kinds of advice end differently, so that no text ends with both. -/
theorem not_both_advices {text first second : Text} (creates : closedLines (adviceToCreate first) <:+ text) :
    ¬ closedLines (adviceToFollow second) <:+ text := by
  intro follows
  have create : (" following the project's architecture.".toList ++ ['\n'] : Text) <:+ text := by
    refine .trans ?_ (.trans (closedLines_suffix ["NO SIMILAR CODE FOUND"] (List.cons_ne_nil _ _)) creates)
    rw [closedLines_singleton, List.append_assoc]
    exact List.suffix_append _ _
  have follow : ("Reuse imports, structure, and coding style from existing similar components.".toList ++ ['\n'] :
      Text) <:+ text := by
    have last := (closedLines_suffix ["RECOMMENDATION:", _] (List.cons_ne_nil _ _)).trans follows
    rwa [closedLines_singleton] at last
  rcases List.suffix_or_suffix_of_suffix create follow with inside | inside
  all_goals exact absurd inside (by decide)

theorem searchGuidance_eq (found : Findings) (category : Option Text) : searchGuidance found category =
    closedLines (shownLines found ++ recommendation found ((given? category).getD found.category)) := by
  have statements : (distinct (found.imports.map (·.statement))).take relevantImportsShown =
      (firstRecords 5 found.imports).map (·.statement) := by
    rw [distinct, map_fst_tally, statements_firstRecords]
    rfl
  rw [searchGuidance, exactBlock_eq, termBlock_eq, statements, List.map_map, shownLines]
  simp only [List.append_assoc]
  rfl

theorem given?_getD (value : Option Text) (default : Text) :
    (given? value).getD default = if value.getD [] = [] then default else value.getD [] := by
  rcases value with - | - | ⟨c, rest⟩ <;> rfl

/-- The summary of a search is the same for findings that show the same, and for those with only the first record of
each of the first five distinct statements. The number in a heading is that of the entries below it. The text ends
with the advice to create something if there are no matches of either kind, and otherwise with the advice to follow
what was found; either names the given category unless it is empty, and then the one that was searched for. -/
theorem searchGuidance_summary (found : Findings) (category : Option Text) :
    let name := if category.getD [] = [] then found.category else category.getD []
    let records := firstRecords 5 found.imports
    let unmatched := found.exactMatches = [] ∧ found.termMatches = []
    let text := searchGuidance found category
    (∀ other : Findings, other.ShownAs found → searchGuidance other category = text) ∧
    (∃ statements, IsRoster (found.imports.map (·.statement)) statements ∧
      List.Forall₂ (IsFirstRecord found.imports) (statements.take 5) records ∧
      searchGuidance { found with imports := records } category = text) ∧
    text = closedLines (shownLines found ++ if unmatched then adviceToCreate name else adviceToFollow name) ∧
    (unmatched → closedLines (adviceToCreate name) <:+ text ∧
      ∀ other, ¬ closedLines (adviceToFollow other) <:+ text) ∧
    (¬ unmatched → closedLines (adviceToFollow name) <:+ text ∧
      ∀ other, ¬ closedLines (adviceToCreate other) <:+ text) := by
  intro name records unmatched text
  have whole : text = closedLines (shownLines found ++
      if unmatched then adviceToCreate name else adviceToFollow name) := by
    have named : (given? category).getD found.category = name := given?_getD category found.category
    rw [← recommendation_eq, ← named]
    exact searchGuidance_eq found category
  have ending : closedLines (if unmatched then adviceToCreate name else adviceToFollow name) <:+ text := by
    rw [whole]
    exact closedLines_suffix _ (by split <;> exact List.cons_ne_nil _ _)
  refine ⟨fun other alike => alike.summary category, ⟨_, isRoster_eraseDups _, forall₂_firstRecords 5 _, ?_⟩, whole,
    ?_, ?_⟩
  · exact searchGuidance_firstRecords found category
  · intro none
    rw [if_pos none] at ending
    exact ⟨ending, fun other => not_both_advices ending⟩
  · intro some
    rw [if_neg some] at ending
    exact ⟨ending, fun other creates => not_both_advices creates ending⟩

/-- The two hundred and first character of a match, its score, the term, the module of an import and the key of an
idiom are not shown; the advice names the category that is asked for. -/
theorem searchGuidance_summary_unseen :
    let found : Findings := ⟨"modal", "open", [⟨"a.js", List.replicate 200 'x' ++ "y", 100⟩],
      [⟨"b.js", "open", "open()", 80⟩], [⟨"react", "a.js", "import React from 'react'"⟩],
      [⟨"api-call", "API Integration", "b.js", none⟩]⟩
    let other : Findings := ⟨"modal", "close", [⟨"a.js", List.replicate 200 'x', 0⟩], [⟨"b.js", "open", [], 1⟩],
      [⟨"preact", "c.js", "import React from 'react'"⟩], [⟨"api", "API Integration", "b.js", some "fetch(a)"⟩]⟩
    other.ShownAs found ∧ searchGuidance other none = searchGuidance found none ∧
      closedLines (adviceToFollow "modal") <:+ searchGuidance found none ∧
      closedLines (adviceToCreate "dialog") <:+
        searchGuidance { found with exactMatches := [], termMatches := [] } (some "dialog") := by
  intro found other
  have alike : other.ShownAs found := by
    refine ⟨rfl, .cons ⟨rfl, .inr ⟨?_, ?_, ?_⟩⟩ .nil, .cons ⟨rfl, rfl⟩ .nil, .cons rfl .nil,
      .cons ⟨rfl, rfl⟩ .nil⟩
    · exact List.cons_ne_nil _ _
    · exact List.cons_ne_nil _ _
    · exact (List.take_append_of_le_length (List.length_replicate ▸ Nat.le_refl 200)).symm
  obtain ⟨same, -, -, -, follows⟩ := searchGuidance_summary found none
  obtain ⟨-, -, -, creates, -⟩ :=
    searchGuidance_summary { found with exactMatches := [], termMatches := [] } (some "dialog")
  exact ⟨alike, same other alike, (follows fun none => List.cons_ne_nil _ _ none.1).1, (creates ⟨rfl, rfl⟩).1⟩

end ProjectSurvey
