import ProjectSurvey.Proofs.CallFaults
import ProjectSurvey.Proofs.SurveyAgreement

/-! The language of a project, stage by stage: the manifest, the marks of languages in their order, the vote. What is
found at one stage is not left to a later one, not even where it cannot be read. -/

namespace ProjectSurvey

/-- The values that count as not set. -/
inductive Json.IsUnset : Json → Prop
  | null : IsUnset .null
  | no : IsUnset (.bool false)
  | zero : IsUnset (.int 0)
  | zeroFloat {value : Binary64} : value.isZero = true → IsUnset (.float value)
  | noText : IsUnset (.str [])
  | noItems : IsUnset (.array [])
  | noFields : IsUnset (.object [])

/-- Whether a manifest names typescript among its packages for development or its packages, by a value that is set. -/
def DependsOnTypescript (manifest : Json) : Prop :=
  ∃ fields packages version, manifest = .object fields ∧
    (Json.field? fields "devDependencies" = some (.object packages) ∨
      Json.field? fields "dependencies" = some (.object packages)) ∧
    Json.field? packages "typescript" = some version ∧ ¬ version.IsUnset

/-- Whether one of the markers fits a name among others. -/
def HoldMark (names : List Text) (marks : List Marker) : Prop :=
  ∃ marker ∈ marks, ∃ name ∈ names, marker.fits name = true

def IsMark (name : Text) : Prop :=
  ∃ entry ∈ markers, ∃ marker ∈ entry.2, marker.fits name = true

instance (name : Text) : Decidable (IsMark name) :=
  inferInstanceAs (Decidable (∃ entry ∈ markers, ∃ marker ∈ entry.2, marker.fits name = true))

/-- What the manifest of a project is read as: its bytes are UTF-8, and their text is JSON. -/
def Place.HoldsManifest (place : Place) (root : Path) (manifest : Json) : Prop :=
  ∃ bytes text, place.readBytes (root.descend [manifestName]) = .ok bytes ∧ Utf8.decode bytes = .ok text ∧
    Json.parse text.unifyNewlines = .ok manifest

/-- The language that is told of a project. -/
inductive Place.HasLanguage (place : Place) (root : Path) : Text → Prop
  | unlisted {fault : Fault} (failed : place.list root = .error fault) : HasLanguage place root "unknown"
  | typescript {names : List Text} {manifest : Json} (listed : place.list root = .ok names)
      (managed : manifestName ∈ names) (read : place.HoldsManifest root manifest)
      (tells : DependsOnTypescript manifest ∨ compilerConfigName ∈ names) : HasLanguage place root "typescript"
  | javascript {names : List Text} {manifest : Json} (listed : place.list root = .ok names)
      (managed : manifestName ∈ names) (read : place.HoldsManifest root manifest)
      (silent : ¬ (DependsOnTypescript manifest ∨ compilerConfigName ∈ names)) : HasLanguage place root "javascript"
  | unread {names : List Text} (listed : place.list root = .ok names) (managed : manifestName ∈ names)
      (unread : ∀ manifest, ¬ place.HoldsManifest root manifest) : HasLanguage place root "unknown"
  | marked {names : List Text} {language : Text} {marks : List Marker} {earlier later : List (Text × List Marker)}
      (listed : place.list root = .ok names) (unmanaged : manifestName ∉ names)
      (order : markers = earlier ++ (language, marks) :: later) (marked : HoldMark names marks)
      (first : ∀ entry ∈ earlier, ¬ HoldMark names entry.2) : HasLanguage place root language
  | voted {names : List Text} {files : List Path} (listed : place.list root = .ok names)
      (unmanaged : manifestName ∉ names) (unmarked : ∀ entry ∈ markers, ¬ HoldMark names entry.2)
      (walked : place.walk root = .ok files) : HasLanguage place root (votedLanguage files)
  | unvoted {names : List Text} {fault : Fault} (listed : place.list root = .ok names)
      (unmanaged : manifestName ∉ names) (unmarked : ∀ entry ∈ markers, ¬ HoldMark names entry.2)
      (failed : place.walk root = .error fault) : HasLanguage place root "unknown"

variable {place : Place} {root : Path} {names : List Text}

theorem Json.isTruthy_iff {json : Json} : json.isTruthy = true ↔ ¬ json.IsUnset := by
  constructor
  · intro truthy unset
    cases unset <;> simp_all [isTruthy]
  · contrapose!
    intro falsy
    cases json with
    | null => exact .null
    | bool value =>
      obtain rfl : value = false := by simpa [isTruthy] using falsy
      exact .no
    | int value =>
      obtain rfl : value = 0 := by simpa [isTruthy] using falsy
      exact .zero
    | float value => exact .zeroFloat (by simpa [isTruthy] using falsy)
    | str value =>
      obtain rfl : value = [] := by simpa [isTruthy] using falsy
      exact .noText
    | array items =>
      obtain rfl : items = [] := by simpa [isTruthy] using falsy
      exact .noItems
    | object fields =>
      obtain rfl : fields = [] := by simpa [isTruthy] using falsy
      exact .noFields

theorem declaresTypescript_iff {manifest : Json} :
    declaresTypescript manifest = true ↔ DependsOnTypescript manifest := by
  cases manifest with
  | object fields =>
    rw [declaresTypescript, List.any_eq_true]
    constructor
    · rintro ⟨group, member, chosen⟩
      split at chosen
      · next packages found =>
        cases named : Json.field? packages "typescript" with
        | none =>
          rw [named] at chosen
          cases chosen
        | some version =>
          rw [named] at chosen
          refine ⟨fields, packages, version, rfl, ?_, named, Json.isTruthy_iff.mp chosen⟩
          rcases List.mem_pair.mp member with rfl | rfl
          · exact .inl found
          · exact .inr found
      · cases chosen
    · rintro ⟨_, packages, version, ⟨⟩, found, named, chosen⟩
      obtain ⟨group, member, found⟩ : ∃ group ∈ ["devDependencies".toList, "dependencies".toList],
          Json.field? fields group = some (.object packages) := by
        rcases found with found | found
        · exact ⟨_, List.mem_pair.mpr (.inl rfl), found⟩
        · exact ⟨_, List.mem_pair.mpr (.inr rfl), found⟩
      refine ⟨group, member, ?_⟩
      rw [found]
      simp only [named, Option.map_some, Option.getD_some, Json.isTruthy_iff.mpr chosen]
  | _ =>
    refine iff_of_false Bool.false_ne_true ?_
    rintro ⟨fields, _, _, impossible, -⟩
    cases impossible

theorem readText_eq_ok {path : Path} {text : Text} : place.readText path = .ok text ↔
    ∃ bytes decoded, place.readBytes path = .ok bytes ∧ Utf8.decode bytes = .ok decoded ∧
      decoded.unifyNewlines = text := by
  rw [Place.readText]
  cases place.readBytes path with
  | error fault => simp [bind, Except.bind, Except.mapError]
  | ok bytes =>
    cases decodes : Utf8.decode bytes with
    | error fault => simp [bind, Except.bind, Except.mapError, decodes]
    | ok decoded => simp [bind, Except.bind, Except.mapError, decodes]

theorem holdsManifest_iff {manifest : Json} : place.HoldsManifest root manifest ↔
    ∃ text, place.readText (root.descend [manifestName]) = .ok text ∧ Json.parse text = .ok manifest := by
  constructor
  · rintro ⟨bytes, decoded, read, decodes, parsed⟩
    exact ⟨_, readText_eq_ok.mpr ⟨bytes, decoded, read, decodes, rfl⟩, parsed⟩
  · rintro ⟨_, read, parsed⟩
    obtain ⟨bytes, decoded, found, decodes, rfl⟩ := readText_eq_ok.mp read
    exact ⟨bytes, decoded, found, decodes, parsed⟩

theorem markedLanguage?_eq_some {language : Text} : markedLanguage? names = some language ↔
    ∃ earlier marks later, markers = earlier ++ (language, marks) :: later ∧ HoldMark names marks ∧
      ∀ entry ∈ earlier, ¬ HoldMark names entry.2 := by
  have marked (entry : Text × List Marker) : Place.isMarkedBy names entry = true ↔ HoldMark names entry.2 :=
    Place.isMarkedBy_iff
  change (markers.find? (Place.isMarkedBy names)).map (·.1) = some language ↔ _
  rw [Option.map_eq_some_iff]
  constructor
  · rintro ⟨⟨_, marks⟩, found, rfl⟩
    obtain ⟨here, earlier, later, order, first⟩ := List.find?_eq_some_iff_append.mp found
    refine ⟨earlier, marks, later, order, (marked _).mp here, fun entry member mark => ?_⟩
    simpa [(marked entry).mpr mark] using first entry member
  · rintro ⟨earlier, marks, later, order, here, first⟩
    refine ⟨(language, marks), List.find?_eq_some_iff_append.mpr ⟨(marked _).mpr here, earlier, later, order, ?_⟩, rfl⟩
    intro entry member
    rw [Bool.not_eq_true', ← Bool.not_eq_true, marked]
    exact first entry member

theorem markedLanguage?_eq_none : markedLanguage? names = none ↔ ∀ entry ∈ markers, ¬ HoldMark names entry.2 := by
  change (markers.find? (Place.isMarkedBy names)).map (·.1) = none ↔ _
  rw [Option.map_eq_none_iff, List.find?_eq_none]
  refine forall_congr' fun entry => imp_congr_right fun _ => not_congr ?_
  exact Place.isMarkedBy_iff

theorem detectLanguage_unmanaged (listed : place.list root = .ok names) (unmanaged : manifestName ∉ names) :
    detectLanguage place root = match markedLanguage? names with
      | some language => .ok language
      | none => ((place.walk root).mapError fun fault => .unreadable ⟨fault, root⟩).map votedLanguage := by
  simp only [detectLanguage, listed, Except.mapError, bind, Except.bind, List.contains_iff_mem, unmanaged, if_false]
  cases markedLanguage? names with
  | some language => rfl
  | none => cases place.walk root <;> rfl

theorem detectLanguage_managed (listed : place.list root = .ok names) (managed : manifestName ∈ names) :
    detectLanguage place root = manifestLanguage place root names := by
  simp only [detectLanguage, listed, Except.mapError, bind, Except.bind, List.contains_iff_mem, managed, if_true]

theorem classify_of_detected {language : Text} (detected : detectLanguage place root = .ok language) :
    classify place root = .ok (.named language) := by
  rw [classify, detected]

theorem classify_of_expected {fault : DetectionFault} (failed : detectLanguage place root = .error fault)
    (expected : fault.isExpected = true) : classify place root = .ok .unknown := by
  rw [classify, failed]
  exact if_pos expected

/-- A manifest that cannot be read ends detection, in a fault that is kept back unless it is nested too deep. -/
theorem classify_of_unread (listed : place.list root = .ok names) (managed : manifestName ∈ names)
    (unread : ∀ manifest, ¬ place.HoldsManifest root manifest) (shallow : ¬ place.HasDeepManifest root) :
    classify place root = .ok .unknown := by
  obtain ⟨profile, told⟩ : ∃ profile, classify place root = .ok profile := by
    cases told : classify place root with
    | ok profile => exact ⟨profile, rfl⟩
    | error fault => exact absurd (classify_fails.mp ⟨fault, told⟩) shallow
  rw [classify, detectLanguage_managed listed managed, manifestLanguage] at told ⊢
  cases read : place.readText (root.descend [manifestName]) with
  | error fault => exact if_pos (readText_isExpected read)
  | ok text =>
    cases parsed : Json.parse text with
    | ok manifest => exact absurd (holdsManifest_iff.mpr ⟨text, read, parsed⟩) (unread manifest)
    | error fault =>
      rw [read] at told
      simp only [bind, Except.bind, parsed, Except.mapError] at told ⊢
      split at told
      · next expected => exact if_pos expected
      · cases told

namespace Place.HasLanguage

variable {language : Text}

/-- What is told of a project is what the stages say. -/
theorem classify (told : place.HasLanguage root language) (shallow : ¬ place.HasDeepManifest root) :
    ProjectSurvey.classify place root = .ok (.named language) := by
  cases told with
  | @unlisted fault failed =>
    have detected : detectLanguage place root = .error (.unreadable ⟨fault, root⟩) := by
      rw [detectLanguage, failed]
      rfl
    exact classify_of_expected detected rfl
  | typescript listed managed read tells =>
    obtain ⟨text, read, parsed⟩ := holdsManifest_iff.mp read
    refine classify_of_detected ?_
    rw [← declaresTypescript_iff, ← List.contains_iff_mem, ← Bool.or_eq_true] at tells
    rw [detectLanguage_managed listed managed, manifestLanguage, read]
    simp only [bind, Except.bind, parsed, Except.mapError, tells, if_true]
  | javascript listed managed read silent =>
    obtain ⟨text, read, parsed⟩ := holdsManifest_iff.mp read
    refine classify_of_detected ?_
    rw [← declaresTypescript_iff, ← List.contains_iff_mem, ← Bool.or_eq_true] at silent
    rw [detectLanguage_managed listed managed, manifestLanguage, read]
    simp only [bind, Except.bind, parsed, Except.mapError, silent, Bool.false_eq_true, if_false]
  | unread listed managed unread => exact classify_of_unread listed managed unread shallow
  | marked listed unmanaged order marked first =>
    refine classify_of_detected ?_
    rw [detectLanguage_unmanaged listed unmanaged, markedLanguage?_eq_some.mpr ⟨_, _, _, order, marked, first⟩]
  | voted listed unmanaged unmarked walked =>
    refine classify_of_detected ?_
    rw [detectLanguage_unmanaged listed unmanaged, markedLanguage?_eq_none.mpr unmarked, walked]
    rfl
  | @unvoted _ fault listed unmanaged unmarked failed =>
    have detected : detectLanguage place root = .error (.unreadable ⟨fault, root⟩) := by
      rw [detectLanguage_unmanaged listed unmanaged, markedLanguage?_eq_none.mpr unmarked, failed]
      rfl
    exact classify_of_expected detected rfl

theorem exists_told (place : Place) (root : Path) : ∃ language, place.HasLanguage root language := by
  cases listed : place.list root with
  | error fault => exact ⟨_, .unlisted listed⟩
  | ok names =>
    by_cases managed : manifestName ∈ names
    · by_cases read : ∃ manifest, place.HoldsManifest root manifest
      · obtain ⟨manifest, read⟩ := read
        by_cases tells : DependsOnTypescript manifest ∨ compilerConfigName ∈ names
        · exact ⟨_, .typescript listed managed read tells⟩
        · exact ⟨_, .javascript listed managed read tells⟩
      · exact ⟨_, .unread listed managed (not_exists.mp read)⟩
    · cases marked : markedLanguage? names with
      | some language =>
        obtain ⟨earlier, marks, later, order, here, first⟩ := markedLanguage?_eq_some.mp marked
        exact ⟨language, .marked listed managed order here first⟩
      | none =>
        have unmarked := markedLanguage?_eq_none.mp marked
        cases walked : place.walk root with
        | error fault => exact ⟨_, .unvoted listed managed unmarked walked⟩
        | ok files => exact ⟨_, .voted listed managed unmarked walked⟩

/-- Every language that is told has a profile of its own, and so has not knowing one. -/
theorem name (told : place.HasLanguage root language) : (Profile.named language).name = language := by
  have marks : ∀ entry ∈ markers, (Profile.named entry.1).name = entry.1 := by decide
  have extensions : ∀ entry ∈ extensionLanguages, (Profile.named entry.2).name = entry.2 := by decide
  cases told with
  | unlisted | typescript | javascript | unread | unvoted => rfl
  | marked listed unmanaged order marked first =>
    exact marks (language, _) (order ▸ List.mem_append_right _ List.mem_cons_self)
  | voted listed unmanaged unmarked walked =>
    rw [votedLanguage]
    split
    · rfl
    · next extension _ _ =>
      cases found : extensionLanguages.find? (·.1 == extension) with
      | none => rfl
      | some entry => exact extensions entry (List.mem_of_find?_eq_some found)

end Place.HasLanguage

/-- Names that mark no language make no difference, and neither does the order of the others. -/
theorem markedLanguage?_congr {otherNames : List Text}
    (same : ∀ name, IsMark name → (name ∈ otherNames ↔ name ∈ names)) :
    markedLanguage? otherNames = markedLanguage? names := by
  refine congrArg (Option.map Prod.fst) (Place.find_isMarkedBy_congr fun entry member => ?_)
  rw [Place.isMarkedBy_iff, Place.isMarkedBy_iff]
  refine exists_congr fun marker => and_congr_right fun inside => exists_congr fun name => ?_
  exact and_congr_left fun fits => same name ⟨entry, member, marker, inside, fits⟩

/-- Classifying a project fails only for a manifest that is nested too deep. Else it gives the profile of the one
language that its stages tell, whatever other names a root without a manifest lists beside its marks, and in
whatever order. -/
theorem classify_stages (place : Place) (root : Path) :
    ((∃ fault, classify place root = .error fault) ↔ place.HasDeepManifest root) ∧
    (¬ place.HasDeepManifest root → ∃ language, place.HasLanguage root language ∧
      (∀ other, place.HasLanguage root other → other = language) ∧
      classify place root = .ok (.named language) ∧ (Profile.named language).name = language) ∧
    ∀ names (other : Place) (otherRoot : Path) otherNames, place.list root = .ok names →
      other.list otherRoot = .ok otherNames → manifestName ∉ names → manifestName ∉ otherNames →
      (∀ name, IsMark name → (name ∈ otherNames ↔ name ∈ names)) → (∃ name ∈ names, IsMark name) →
      classify other otherRoot = classify place root := by
  refine ⟨classify_fails, fun shallow => ?_, ?_⟩
  · obtain ⟨language, told⟩ := Place.HasLanguage.exists_told place root
    have classified := told.classify shallow
    refine ⟨language, told, fun other otherTold => ?_, classified, told.name⟩
    have same := Except.ok.inj ((otherTold.classify shallow).symm.trans classified)
    rw [← otherTold.name, same, told.name]
  · rintro names other otherRoot otherNames listed otherListed unmanaged otherUnmanaged same ⟨name, member, mark⟩
    obtain ⟨entry, among, marker, inside, fits⟩ := mark
    cases marked : markedLanguage? names with
    | none => exact absurd ⟨marker, inside, name, member, fits⟩ (markedLanguage?_eq_none.mp marked entry among)
    | some language =>
      have detected : detectLanguage place root = .ok language := by
        rw [detectLanguage_unmanaged listed unmanaged, marked]
      have otherDetected : detectLanguage other otherRoot = .ok language := by
        rw [detectLanguage_unmanaged otherListed otherUnmanaged, markedLanguage?_congr same, marked]
      rw [classify_of_detected detected, classify_of_detected otherDetected]

/-- A manifest tells its language whatever marks are listed beside it. Without one, the order of two marks in a root
makes no difference. -/
theorem classify_stages_mixed_root :
    let manifest : Text := "\x7b\"devDependencies\": [], \"dependencies\": \x7b\"typescript\": \"5\"\x7d\x7d"
    let place : Place := ⟨.directory [("go.mod", .file []), ("package.json", .file (Utf8.encode manifest))], []⟩
    let plain : Place := ⟨.directory [("go.mod", .file []), ("a.sln", .directory [])], []⟩
    let other : Place := ⟨.directory [("a.sln", .file []), ("b.py", .file []), ("go.mod", .file [])], []⟩
    let root : Path := ⟨.here, []⟩
    ¬ place.HasDeepManifest root ∧ place.HasLanguage root "typescript" ∧
      classify place root = .ok (.named "typescript") ∧ classify other root = classify plain root := by
  intro text place plain other root
  have listed : place.list root = .ok ["go.mod", "package.json"] := rfl
  have found : place.readBytes (root.descend [manifestName]) = .ok (Utf8.encode text) := rfl
  have decoded : Utf8.decode (Utf8.encode text) = .ok text := by decide +kernel
  have lines : text.unifyNewlines = text := by decide +kernel
  have told : (match Json.parse text with
      | .ok manifest => declaresTypescript manifest
      | .error _ => false) = true := by decide +kernel
  cases parsed : Json.parse text with
  | error fault =>
    rw [parsed] at told
    cases told
  | ok manifest =>
    rw [parsed] at told
    have read : place.HoldsManifest root manifest :=
      ⟨Utf8.encode text, text, found, decoded, by rw [lines, parsed]⟩
    have language : place.HasLanguage root "typescript" :=
      .typescript listed (by decide) read (.inl (declaresTypescript_iff.mp told))
    have shallow : ¬ place.HasDeepManifest root := by
      rintro ⟨_, _, _, -, -, again, deep⟩
      obtain ⟨bytes, decodedAgain, foundAgain, decodes, rfl⟩ := readText_eq_ok.mp again
      cases found.symm.trans foundAgain
      cases decoded.symm.trans decodes
      rw [lines, parsed] at deep
      cases deep
    obtain ⟨told, -, unique, classified, -⟩ := (classify_stages place root).2.1 shallow
    obtain rfl := unique _ language
    refine ⟨shallow, language, classified, ?_⟩
    refine (classify_stages plain root).2.2 ["go.mod", "a.sln"] other root ["a.sln", "b.py", "go.mod"] rfl rfl
      (by decide) (by decide) ?_ ?_
    · intro name mark
      have apart : name ≠ "b.py".toList := by
        rintro rfl
        exact absurd mark (by decide)
      simp only [List.mem_cons, List.not_mem_nil, or_false, apart, false_or]
      exact or_comm
    · exact ⟨"go.mod".toList, by decide, by decide⟩

end ProjectSurvey
