import ProjectSurvey.Proofs.LoweredText
import ProjectSurvey.Proofs.SourceListing
import ProjectSurvey.Proofs.SourceRecords
import ProjectSurvey.Proofs.TermWindow

/-! What the snippet for a term shows. A file is taken for its whole text and the snippet is sought line by
line, which comes to the same for a term within a line. No line holds a term that has a line feed in it. -/

namespace ProjectSurvey

/-- Whether one of the lines of a snippet has the term in it, in small letters or capitals. -/
def Shows (snippet term : Text) : Prop :=
  snippet ≠ [] ∧ ∃ line ∈ snippet.lines, term.lower.occursIn line.lower = true

variable {term text : Text}

theorem termSnippet_eq_nil (absent : ¬ ∃ line ∈ text.lines, term.lower.occursIn line.lower = true) :
    termSnippet text term = [] := by
  have nowhere : (text.lines.findIdx? fun line => term.lower.occursIn line.lower) = none := by
    rw [List.findIdx?_eq_none_iff]
    intro line member
    rw [← Bool.not_eq_true]
    exact fun present => absent ⟨line, member, present⟩
  simp only [termSnippet, nowhere]

theorem ne_nil_of_shown (some : term ≠ []) {snippet : Text}
    (shown : ∃ line ∈ snippet.lines, term.lower.occursIn line.lower = true) : snippet ≠ [] := by
  rintro rfl
  obtain ⟨line, member, present⟩ := shown
  have empty : line = [] := List.mem_singleton.mp member
  rw [empty, Text.occursIn_iff] at present
  exact some (Text.lower_eq_nil.mp (List.infix_nil.mp present))

/-- The window around the first line with the term holds that line. -/
theorem shows_termSnippet (some : term ≠ [])
    (present : ∃ line ∈ text.lines, term.lower.occursIn line.lower = true) :
    Shows (termSnippet text term) term := by
  cases found : text.lines.findIdx? fun line => term.lower.occursIn line.lower with
  | none =>
    obtain ⟨line, member, inside⟩ := present
    have absent := List.findIdx?_eq_none_iff.mp found line member
    rw [inside] at absent
    cases absent
  | some index =>
    have first := isLeast_mentions_iff.mpr found
    obtain ⟨shown, window, -, lines⟩ := termSnippet_of_first first
    obtain ⟨line, stands, inside⟩ := first.1
    have member : line ∈ (termSnippet text term).lines := by
      rw [lines]
      exact List.mem_of_getElem? (window.position.trans stands)
    have shows : ∃ line ∈ (termSnippet text term).lines, term.lower.occursIn line.lower = true :=
      ⟨line, member, Text.occursIn_iff.mpr inside⟩
    exact ⟨ne_nil_of_shown some shows, shows⟩

theorem shows_termSnippet_iff (some : term ≠ []) :
    Shows (termSnippet text term) term ↔ ∃ line ∈ text.lines, term.lower.occursIn line.lower = true := by
  refine ⟨?_, shows_termSnippet some⟩
  rintro ⟨something, -⟩
  by_contra absent
  exact something (termSnippet_eq_nil absent)

theorem not_shows_of_feed (several : '\n' ∈ term) (snippet : Text) : ¬ Shows snippet term := by
  rintro ⟨-, line, member, present⟩
  have inside : '\n' ∈ line.lower :=
    (Text.occursIn_iff.mp present).subset (Text.feed_mem_lower.mpr several)
  exact Text.not_mem_of_mem_lines member (Text.feed_mem_lower.mp inside)

theorem termMatch?_isSome (some : term ≠ []) (source : Source) :
    (termMatch? term source).isSome = true ↔ term.lower.occursIn source.text.lower = true := by
  have named : term.lower.isEmpty = false := by
    rw [← Bool.not_eq_true, List.isEmpty_iff, Text.lower_eq_nil]
    exact some
  simp only [termMatch?, named, Bool.not_false, Bool.true_and]
  split <;> simp_all

theorem termMatch?_eq_some {source : Source} {found : TermMatch} (matched : termMatch? term source = some found) :
    term ≠ [] ∧ found.snippet = termSnippet source.text term ∧
      term.lower.occursIn source.text.lower = true := by
  simp only [termMatch?, Option.ite_none_right_eq_some, Bool.and_eq_true, Bool.not_eq_true',
    Option.some.injEq] at matched
  obtain ⟨⟨named, inside⟩, rfl⟩ := matched
  refine ⟨?_, rfl, inside⟩
  rintro rfl
  cases named

theorem mem_termMatches {place : Place} {path category : Option Text} {found : Findings}
    (searched : search place ⟨path, category, some term⟩ = .ok found) {entry : TermMatch}
    (member : entry ∈ found.termMatches) : ∃ source, termMatch? term source = some entry := by
  obtain ⟨_, sources, -, -, rfl⟩ := search_eq_ok searched
  obtain ⟨source, -, matched⟩ := List.mem_filterMap.mp member
  exact ⟨source, matched⟩

/-- The matches of a search for a term show it exactly if the term is within a line. Whether a file is
taken and whether its snippet shows the term agree for every such term, and for a term of several lines
where no file is taken. -/
theorem termMatches_show_iff (term : Text) :
    (∀ place path category found, search place ⟨path, category, some term⟩ = .ok found →
      ∀ entry ∈ found.termMatches, Shows entry.snippet term ↔ '\n' ∉ term) ∧
    ∀ source, term ≠ [] →
      (((termMatch? term source).isSome = true ↔ Shows (termSnippet source.text term) term) ↔
        '\n' ∉ term ∨ (termMatch? term source).isSome = false) := by
  constructor
  · intro place path category found searched entry member
    obtain ⟨source, matched⟩ := mem_termMatches searched member
    obtain ⟨some, snippet, inside⟩ := termMatch?_eq_some matched
    rw [snippet]
    constructor
    · intro shows several
      exact not_shows_of_feed several _ shows
    · intro single
      exact shows_termSnippet some ((Text.occursIn_lower_iff single source.text).mp inside)
  · intro source some
    rw [← Bool.not_eq_true, termMatch?_isSome some]
    by_cases several : '\n' ∈ term
    · have hidden := not_shows_of_feed several (termSnippet source.text term)
      simp only [hidden, iff_false, several, not_true_eq_false, false_or]
    · have agree := Text.occursIn_lower_iff several source.text
      simp only [shows_termSnippet_iff some, agree, several, not_false_eq_true, true_or]

/-- A line is shown for a word of it in small letters. -/
theorem termMatches_show_word :
    let place : Place := ⟨.directory [("a.py".toList, .file (Utf8.encode "def f:\n Store()"))], []⟩
    ∃ entry, search place ⟨none, some "zzz", some "store"⟩ =
        .ok ⟨"zzz", "store", [], [entry], [], []⟩ ∧ Shows entry.snippet "store" := by
  intro place
  have rooted : place.rootAt none = .ok ⟨.root, []⟩ := rfl
  have walked : place.walk ⟨.root, []⟩ = .ok [⟨.root, ["a.py"]⟩] := by
    rw [Place.walk_of_met rfl (show _ = arrange [⟨"a.py", none⟩] from rfl) (.refl _) (by decide)]
    decide +kernel
  have searched : search place ⟨none, some "zzz", some "store"⟩ =
      .ok ⟨"zzz", "store", [], [⟨"a.py", "store", "def f:\n Store()", termScore⟩], [], []⟩ := by
    simp only [search, rooted, bind, Except.bind, Place.sources, Place.sourceFiles, walked]
    decide +kernel
  exact ⟨_, searched,
    ((termMatches_show_iff _).1 _ _ _ _ searched _ List.mem_cons_self).mpr (by decide)⟩

/-- A file that has a term of two lines in it is taken, and nothing of it is shown. -/
theorem termMatches_hide_two_lines :
    ¬ ∀ place path category term found, term ≠ [] → search place ⟨path, category, some term⟩ = .ok found →
      ∀ entry ∈ found.termMatches, Shows entry.snippet term := by
  intro always
  let place : Place := ⟨.directory [("a.py", .file (Utf8.encode "a\nb"))], []⟩
  have rooted : place.rootAt none = .ok ⟨.root, []⟩ := rfl
  have walked : place.walk ⟨.root, []⟩ = .ok [⟨.root, ["a.py"]⟩] := by
    rw [Place.walk_of_met rfl (show _ = arrange [⟨"a.py", none⟩] from rfl) (.refl _) (by decide)]
    decide +kernel
  have searched : search place ⟨none, some "zzz", some "a\nb"⟩ =
      .ok ⟨"zzz", "a\nb", [], [⟨"a.py", "a\nb", [], termScore⟩], [], []⟩ := by
    simp only [search, rooted, bind, Except.bind, Place.sources, Place.sourceFiles, walked]
    decide +kernel
  have shown := always _ _ _ _ _ (by decide) searched _ List.mem_cons_self
  exact shown.1 rfl

end ProjectSurvey
