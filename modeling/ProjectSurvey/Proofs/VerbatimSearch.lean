import ProjectSurvey.Proofs.LoweredOccurrences
import ProjectSurvey.Proofs.SourceReading
import ProjectSurvey.Proofs.TermSnippets

/-! What a search finds of the files that have the term or the category in them as it is written. It misses
none for the sake of any letter but the sigma, whose small form at the end of a word is one of its own. -/

namespace ProjectSurvey

/-- Whether a text can be that of a source file. -/
def Text.IsFileText (text : Text) : Prop :=
  ∀ c ∈ text, c ≠ '\r' ∧ c ≠ Char.ofNat 0 ∧ surrogate? c = none

instance (text : Text) : Decidable text.IsFileText :=
  List.decidableBAll _ text

/-- Whether a search for a term finds each source file that has the term in its text. -/
def FindsTerm (term : Text) : Prop :=
  ∀ place path category root sources found, place.rootAt path = .ok root →
    place.sources root sourceExtensions = .ok sources → search place ⟨path, category, some term⟩ = .ok found →
      ∀ source ∈ sources, term <:+: source.text → ∃ entry ∈ found.termMatches, entry.file = source.file

/-- Whether a search for a category finds each source file that has it in its text or its name. -/
def FindsCategory (category : Text) : Prop :=
  ∀ place path term root sources found, place.rootAt path = .ok root →
    place.sources root sourceExtensions = .ok sources → search place ⟨path, some category, term⟩ = .ok found →
      ∀ source ∈ sources, category <:+: source.text ∨ category <:+: source.path.name →
        ∃ entry ∈ found.exactMatches, entry.file = source.file

section Taken

variable {place : Place} {path category term : Option Text} {root : Path} {needle : Text} {sources : List Source}
  {found : Findings} {source : Source}

theorem mem_termMatches_of_infix (some : needle ≠ [])
    (rooted : place.rootAt path = .ok root) (told : place.sources root sourceExtensions = .ok sources)
    (searched : search place ⟨path, category, .some needle⟩ = .ok found)
    (member : source ∈ sources) (inside : needle.lower <:+: source.text.lower) :
    ∃ entry ∈ found.termMatches, entry.file = source.file := by
  obtain ⟨_, _, same, toldSame, rfl⟩ := search_eq_ok searched
  cases rooted.symm.trans same
  cases told.symm.trans toldSame
  obtain ⟨entry, matched⟩ := Option.isSome_iff_exists.mp
    ((termMatch?_isSome some source).mpr (Text.occursIn_iff.mpr inside))
  exact ⟨entry, List.mem_filterMap.mpr ⟨source, member, matched⟩,
    (termMatches_records needle).named source entry (Option.mem_toList.mpr matched)⟩

theorem smallCategory_of_ne_nil (some : needle ≠ []) :
    Query.smallCategory ⟨path, .some needle, term⟩ = needle.lower := by
  have shown : given? (.some needle) = .some needle := by
    rw [given?, Option.filter_some, List.isEmpty_eq_false_iff.mpr some]
    rfl
  rw [Query.smallCategory, shown, Option.getD_some]

theorem exactMatch?_isSome (category : Text) (source : Source) : (exactMatch? category source).isSome = true ↔
    category <:+: source.text.lower ∨ category <:+: source.path.name.lower := by
  rw [exactMatch?, Option.isSome_ite, Bool.or_eq_true, Text.occursIn_iff, Text.occursIn_iff, or_comm]

theorem mem_exactMatches_of_infix (some : needle ≠ [])
    (rooted : place.rootAt path = .ok root) (told : place.sources root sourceExtensions = .ok sources)
    (searched : search place ⟨path, .some needle, term⟩ = .ok found) (member : source ∈ sources)
    (inside : needle.lower <:+: source.text.lower ∨ needle.lower <:+: source.path.name.lower) :
    ∃ entry ∈ found.exactMatches, entry.file = source.file := by
  obtain ⟨_, _, same, toldSame, rfl⟩ := search_eq_ok searched
  cases rooted.symm.trans same
  cases told.symm.trans toldSame
  rw [smallCategory_of_ne_nil some]
  obtain ⟨entry, matched⟩ := Option.isSome_iff_exists.mp ((exactMatch?_isSome needle.lower source).mpr inside)
  exact ⟨entry, List.mem_filterMap.mpr ⟨source, member, matched⟩,
    (exactMatches_records needle.lower).named source entry (Option.mem_toList.mpr matched)⟩

end Taken

/-- The project with nothing but one file, which holds a text. -/
def oneFile (text : Text) : Place :=
  ⟨.directory [("a.py", .file (Utf8.encode text))], []⟩

theorem sources_oneFile {text : Text} (fits : text.IsFileText) :
    (oneFile text).sources ⟨.root, []⟩ sourceExtensions = .ok [⟨⟨.root, ["a.py"]⟩, "a.py", text⟩] := by
  have walked : (oneFile text).walk ⟨.root, []⟩ = .ok [⟨.root, ["a.py"]⟩] := by
    rw [Place.walk_of_met rfl (show _ = arrange [⟨"a.py", none⟩] from rfl) (.refl _) (by decide)]
    rfl
  have read : (oneFile text).reading ⟨.root, ["a.py"]⟩ = .text text := by
    have opened : (oneFile text).readBytes ⟨.root, ["a.py"]⟩ = .ok (Utf8.encode text) := rfl
    rw [Place.reading, opened]
    exact Reading.ofBytes_encode (fun member => (fits _ member).1 rfl) fun member => (fits _ member).2.1 rfl
  have kept : isSourceFile sourceExtensions ⟨.root, ["a.py"]⟩ = true := by decide
  simp only [Place.sources, Place.sourceFiles, walked]
  show Except.ok _ = _
  simp only [List.filter_cons, kept, if_true, List.filter_nil, List.filterMap_cons, read]
  rfl

theorem search_oneFile {text : Text} (fits : text.IsFileText) (category term : Option Text) :
    search (oneFile text) ⟨none, category, term⟩ = .ok (.ofSources (Query.smallCategory ⟨none, category, term⟩)
      (term.getD []) [⟨⟨.root, ["a.py"]⟩, "a.py", text⟩]) := by
  have rooted : (oneFile text).rootAt none = .ok ⟨.root, []⟩ := rfl
  simp only [search, rooted, sources_oneFile fits, bind, Except.bind]

theorem not_infix_of_sigma {needle name : Text} (sigma : 'Σ' ∈ needle) (none : 'σ' ∉ name ∧ 'ς' ∉ name) :
    ¬ needle.lower <:+: name := by
  intro inside
  obtain ⟨first, rest, rfl⟩ := List.append_of_mem sigma
  rw [Text.lower, Text.lowerOnto_sigma, Text.lowerAt, if_pos rfl] at inside
  have member : (if Text.casedAfter false first && !Text.casedAhead rest then 'ς' else 'σ') ∈ name := by
    apply inside.subset
    split <;> simp
  split at member
  · exact none.2 member
  · exact none.1 member

theorem misses_of_lost {needle text : Text} (some : needle ≠ []) (fits : text.IsFileText)
    (inside : needle <:+: text) (sigma : 'Σ' ∈ needle) (lost : ¬ needle.lower <:+: text.lower) :
    ¬ FindsTerm needle ∧ ¬ FindsCategory needle := by
  have told := sources_oneFile fits
  constructor
  · intro finds
    obtain ⟨entry, member, -⟩ := finds _ none none _ _ _ rfl told
      (search_oneFile fits none (.some needle)) _ List.mem_cons_self inside
    obtain ⟨source, among, matched⟩ := List.mem_filterMap.mp member
    cases List.mem_singleton.mp among
    exact lost (Text.occursIn_iff.mp (termMatch?_eq_some matched).2.2)
  · intro finds
    obtain ⟨entry, member, -⟩ := finds _ none none _ _ _ rfl told
      (search_oneFile fits (.some needle) none) _ List.mem_cons_self (.inl inside)
    obtain ⟨source, among, matched⟩ := List.mem_filterMap.mp member
    cases List.mem_singleton.mp among
    rw [smallCategory_of_ne_nil some] at matched
    have plain : 'σ' ∉ Text.lower "a.py" ∧ 'ς' ∉ Text.lower "a.py" := by decide
    obtain inText | inName := (exactMatch?_isSome _ _).mp (Option.isSome_of_eq_some matched)
    · exact lost inText
    · exact not_infix_of_sigma sigma plain inName

/-- Exactly the texts with the same small form wherever they stand are found in every project, as a term and
as a category. Any text is found where no letter stands next to it. -/
theorem search_finds_iff {needle : Text} (some : needle ≠ []) :
    (needle.IsSteady → FindsTerm needle ∧ FindsCategory needle) ∧
    (needle.IsFileText → (FindsTerm needle ↔ needle.IsSteady) ∧ (FindsCategory needle ↔ needle.IsSteady)) ∧
    (∀ place path category term root sources found, place.rootAt path = .ok root →
      place.sources root sourceExtensions = .ok sources → search place ⟨path, category, term⟩ = .ok found →
        ∀ source ∈ sources,
          (term = .some needle → needle.StandsApart source.text →
            ∃ entry ∈ found.termMatches, entry.file = source.file) ∧
          (category = .some needle → needle.StandsApart source.text ∨ needle.StandsApart source.path.name →
            ∃ entry ∈ found.exactMatches, entry.file = source.file)) := by
  have steadily (steady : needle.IsSteady) : FindsTerm needle ∧ FindsCategory needle := by
    constructor
    · intro place path category root sources found rooted told searched source member inside
      exact mem_termMatches_of_infix some rooted told searched member (Text.lower_infix_of_isSteady steady inside)
    · intro place path term root sources found rooted told searched source member inside
      exact mem_exactMatches_of_infix some rooted told searched member
        (inside.imp (Text.lower_infix_of_isSteady steady) (Text.lower_infix_of_isSteady steady))
  have missing (fits : needle.IsFileText) (unsteady : ¬ needle.IsSteady) :
      ¬ FindsTerm needle ∧ ¬ FindsCategory needle := by
    obtain ⟨text, longer, lost⟩ := Text.exists_lower_not_infix unsteady
    refine misses_of_lost some ?_ ?_ (Text.sigma_mem_of_not_isSteady unsteady) lost
    · have letter : ('a' : Char) ≠ '\r' ∧ 'a' ≠ Char.ofNat 0 ∧ Text.surrogate? 'a' = none := by decide
      obtain rfl | rfl := longer
      · exact List.forall_mem_cons.mpr ⟨letter, fits⟩
      · exact List.forall_mem_append.mpr ⟨fits, List.forall_mem_singleton.mpr letter⟩
    · obtain rfl | rfl := longer
      · exact (List.suffix_cons 'a' needle).isInfix
      · exact (List.prefix_append needle ['a']).isInfix
  refine ⟨steadily, fun fits => ⟨⟨?_, fun steady => (steadily steady).1⟩, ?_, fun steady => (steadily steady).2⟩, ?_⟩
  · exact fun finds => not_not.mp fun unsteady => (missing fits unsteady).1 finds
  · exact fun finds => not_not.mp fun unsteady => (missing fits unsteady).2 finds
  · intro place path category term root sources found rooted told searched source member
    constructor
    · rintro rfl apart
      exact mem_termMatches_of_infix some rooted told searched member (Text.lower_infix_of_standsApart apart)
    · rintro rfl apart
      exact mem_exactMatches_of_infix some rooted told searched member
        (apart.imp Text.lower_infix_of_standsApart Text.lower_infix_of_standsApart)

/-- A word with a sigma between letters is found within a longer one. -/
theorem search_finds_inner_sigma : ∃ found, search (oneFile "ΒΑΣΑ") ⟨none, none, some "ΑΣΑ"⟩ = .ok found ∧
    ∃ entry ∈ found.termMatches, entry.file = ("a.py" : Text) := by
  have fits : Text.IsFileText "ΒΑΣΑ" := by decide
  have steady : Text.IsSteady "ΑΣΑ" :=
    Text.isSteady_of_ends (by decide) (by decide +kernel) (by decide +kernel) ['Σ']
  have told := sources_oneFile fits
  have searched := search_oneFile fits none (some "ΑΣΑ")
  exact ⟨_, searched, ((search_finds_iff (by decide)).1 steady).1 _ _ _ _ _ _ rfl told searched _ List.mem_cons_self
    ⟨['Β'], [], rfl⟩⟩

/-- A word with a sigma at its end is missed within a longer one. -/
theorem search_misses_final_sigma :
    ¬ ∀ needle : Text, needle ≠ [] → FindsTerm needle ∧ FindsCategory needle := by
  intro always
  have lost : ¬ Text.lower "ΑΣ" <:+: Text.lower "ΑΣΑ" := by decide +kernel
  have fits : Text.IsFileText "ΑΣΑ" := by decide
  exact (misses_of_lost (by decide) fits ⟨[], "Α", rfl⟩ (by decide) lost).1 (always "ΑΣ" (by decide)).1

end ProjectSurvey
