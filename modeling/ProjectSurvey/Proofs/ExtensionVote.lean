import ProjectSurvey.Proofs.LanguageStages
import ProjectSurvey.Proofs.SourceListing
import ProjectSurvey.Proofs.Tally

/-! The vote on the language of a project that nothing marks. Each file votes for its own extension, and extensions of
one language do not put their votes together. -/

namespace ProjectSurvey

/-- The extensions for which files vote, in small letters and in the order of the files. -/
def extensionsOf (files : List Path) : List Text :=
  files.map fun file => file.suffix.lower

/-- Whether no language is known for an extension. -/
def IsForeign (extension : Text) : Prop :=
  ∀ language, (extension, language) ∉ extensionLanguages

variable {files : List Path} {extension language : Text}

/-- The language of an extension, or that none is known. -/
theorem votedLanguage_of_isLeading (leads : IsLeading (extensionsOf files) extension) : votedLanguage files =
    ((extensionLanguages.find? (·.1 == extension)).map (·.2)).getD Profile.unknown.name := by
  rw [votedLanguage, ← extensionsOf, isLeading_iff.mp leads]

theorem votedLanguage_of_known (leads : IsLeading (extensionsOf files) extension)
    (known : (extension, language) ∈ extensionLanguages) : votedLanguage files = language := by
  have single : ∀ entry ∈ extensionLanguages, extensionLanguages.find? (·.1 == entry.1) = some entry := by decide
  rw [votedLanguage_of_isLeading leads, single (extension, language) known]
  rfl

theorem votedLanguage_of_isForeign (leads : IsLeading (extensionsOf files) extension)
    (foreign : IsForeign extension) : votedLanguage files = Profile.unknown.name := by
  rw [votedLanguage_of_isLeading leads]
  cases found : extensionLanguages.find? (·.1 == extension) with
  | none => rfl
  | some entry =>
    obtain rfl : entry.1 = extension := by simpa using List.find?_some found
    exact absurd (List.mem_of_find?_eq_some found) (foreign entry.2)

theorem extensionsOf_ne_nil (some : files ≠ []) : extensionsOf files ≠ [] :=
  mt List.map_eq_nil_iff.mp some

/-- A project whose root lists neither a manifest nor a mark is in the language of the extension that most of its
files have, of several the one that the walk meets first; in none that is known if the extension has no language or
there are no files. -/
theorem classify_vote {place : Place} {root : Path} {names : List Text} (listed : place.list root = .ok names)
    (unmarked : ∀ name ∈ names, name ≠ manifestName ∧ ¬ IsMark name) (walked : place.walk root = .ok files) :
    (files = [] → classify place root = .ok .unknown) ∧
    (files ≠ [] → ∃ extension, IsLeading (extensionsOf files) extension ∧
      ∀ other, IsLeading (extensionsOf files) other → other = extension) ∧
    ∀ extension, IsLeading (extensionsOf files) extension →
      (∀ language, (extension, language) ∈ extensionLanguages → classify place root = .ok (.named language)) ∧
      (IsForeign extension → classify place root = .ok .unknown) := by
  have unmanaged : manifestName ∉ names := fun member => (unmarked _ member).1 rfl
  have none : ∀ entry ∈ markers, ¬ HoldMark names entry.2 := by
    rintro entry member ⟨marker, inside, name, among, fits⟩
    exact (unmarked name among).2 ⟨entry, member, marker, inside, fits⟩
  have detected : detectLanguage place root = .ok (votedLanguage files) := by
    rw [detectLanguage_unmanaged listed unmanaged, markedLanguage?_eq_none.mpr none, walked]
    rfl
  have classified := classify_of_detected detected
  refine ⟨?_, ?_, fun extension leads => ⟨fun language known => ?_, fun foreign => ?_⟩⟩
  · rintro rfl
    exact classified
  · intro some
    obtain ⟨extension, leads⟩ := exists_isLeading (extensionsOf_ne_nil some)
    exact ⟨extension, leads, fun other rival => leads.unique rival⟩
  · rw [classified, votedLanguage_of_known leads known]
  · rw [classified, votedLanguage_of_isForeign leads foreign]
    rfl

/-- Three files of one extension outvote four of two extensions of another language. -/
theorem classify_vote_not_pooled :
    let place : Place := ⟨.directory [("a.js", .file []), ("b.mjs", .file []), ("c.PY", .file []),
      ("lib", .directory [("d.js", .file []), ("e.mjs", .file []), ("f.py", .file []), ("g.py", .link "f.py")]),
      (".git", .directory [("h.js", .file [])])], []⟩
    let root : Path := ⟨.here, []⟩
    ∃ files, place.walk root = .ok files ∧ IsLeading (extensionsOf files) ".py" ∧
      classify place root = .ok (.named "python") := by
  intro place root
  let files : List Path := [⟨.here, ["a.js"]⟩, ⟨.here, ["b.mjs"]⟩, ⟨.here, ["c.PY"]⟩, ⟨.here, ["lib", "d.js"]⟩,
    ⟨.here, ["lib", "e.mjs"]⟩, ⟨.here, ["lib", "f.py"]⟩, ⟨.here, ["lib", "g.py"]⟩]
  have listed : place.list root = .ok ["a.js", "b.mjs", "c.PY", "lib", ".git"] := rfl
  have unmarked : ∀ name ∈ (["a.js", "b.mjs", "c.PY", "lib", ".git"] : List Text),
      name ≠ manifestName ∧ ¬ IsMark name := by decide
  let inner : List Met := [⟨"d.js", none⟩, ⟨"e.mjs", none⟩, ⟨"f.py", none⟩, ⟨"g.py", none⟩]
  let below : List Location := inner.map fun m => [m.name]
  have arranged : arrange inner = below := (arrange_eq (.refl _) (by decide)).trans rfl
  have told : place.tree.leaves =
      arrange [⟨"a.js", none⟩, ⟨"b.mjs", none⟩, ⟨"c.PY", none⟩, ⟨"lib", some below⟩] := by
    rw [← arranged]
    rfl
  have walked : place.walk root = .ok files := by
    rw [Place.walk_of_met rfl told (.refl _) (by decide)]
    decide +kernel
  have leads : IsLeading (extensionsOf files) ".py" :=
    ⟨by decide, by decide, by decide⟩
  exact ⟨files, walked, leads, ((classify_vote listed unmarked walked).2.2 _ leads).1 _ (by decide)⟩

end ProjectSurvey
