import ProjectSurvey.Analysis
import ProjectSurvey.Proofs.WalkListing

/-! When a survey gives one answer before and after something has been added to a place: the sources are
the same unless what was added is among them, and so is the language unless it is told by what was
added. -/

namespace ProjectSurvey

/-- Whether the file that has been made is new, and a walk of a root comes by it. -/
def Place.Appears (place : Place) (file : Option Location) (root : Path) (x : Location) : Prop :=
  ∃ here, place.locate false root = .ok here ∧ file = some (here ++ x) ∧
    place.tree.at? (here ++ x) = none ∧ ∀ name ∈ x.dropLast, isPruned name = false

/-- Whether what a place has gained escapes whoever reads the sources below a root: what was looked for
in vain is still missing, no source is read from the file that was added to, and a new file that the
walk comes by is no source and can be looked at. -/
structure Place.KeepsSources (place after : Place) (file : Option Location) (root : Path) : Prop where
  way : place.StillFails after root
  met : ∀ base x, place.find root = .ok base → base.Meets x →
    place.StillFails after (root.descend x)
  apart : ∀ base x location, place.find root = .ok base → base.Meets x →
    isSourceFile sourceExtensions (root.descend x) = true →
    place.locate false (root.descend x) = .ok location → file ≠ some location
  fresh : ∀ x, place.Appears file root x → isSourceFile sourceExtensions (root.descend x) = false ∧
    after.find (root.descend x) ≠ .error .nameTooLong

namespace Place

variable {place after : Place} {file : Option Location} {root : Path}

theorem rootAt_eq (current : after.current = place.current) (stands : after.hasCurrent = place.hasCurrent)
    (path : Option Text) : after.rootAt path = place.rootAt path := by
  simp only [rootAt, workingDirectory, currentPath, current, stands]

theorem rootAt_eq_of_ok (current : after.current = place.current) {path : Option Text} {afterRoot : Path}
    (rooted : place.rootAt path = .ok root) (afterRooted : after.rootAt path = .ok afterRoot) :
    afterRoot = root := by
  rw [rootAt] at rooted afterRooted
  cases given : given? path with
  | some text =>
    rw [given] at rooted afterRooted
    exact Except.ok.inj (afterRooted.symm.trans rooted)
  | none =>
    rw [given] at rooted afterRooted
    rw [← (workingDirectory_eq_ok.mp rooted).2, ← (workingDirectory_eq_ok.mp afterRooted).2, currentPath,
      currentPath, current]

theorem shapeAt_below {base : Node} {here : Location} (located : place.locate false root = .ok here)
    (found : place.find root = .ok base) (x : Location) :
    base.shapeAt? x = place.tree.shapeAt? (here ++ x) := by
  obtain ⟨_, again, stands⟩ := find_eq_ok.mp found
  cases located.symm.trans again
  simp only [Node.shapeAt?, Node.at?_append, stands, Option.bind_some]

section Walks

variable (gains : place.Gains after file) (sound : place.tree.isSound = true)
  {base later : Node} (found : place.find root = .ok base) (laterFound : after.find root = .ok later)

include gains sound found laterFound

/-- What is met before is met afterwards. -/
theorem still_met {x : Location} (met : base.Meets x) : later.Meets x := by
  obtain ⟨here, located, _⟩ := find_eq_ok.mp found
  obtain ⟨named, kept, standing, shown, other⟩ := (Node.meets_iff (sound_of_find sound found)).mp met
  rw [shapeAt_below located found] at shown
  obtain ⟨grown, laterShown, like⟩ := gains.remains _ _ shown
  rw [← shapeAt_below (gains.locate_ok located) laterFound] at laterShown
  refine (Node.meets_iff (sound_of_find (gains.sound sound) laterFound)).mpr
    ⟨named, kept, grown, laterShown, ?_⟩
  rintro rfl
  cases like
  exact other rfl

/-- What is met afterwards is met before, unless it is the new file. -/
theorem met_before {x : Location} (met : later.Meets x) : base.Meets x ∨ place.Appears file root x := by
  obtain ⟨here, located, _⟩ := find_eq_ok.mp found
  obtain ⟨named, kept, standing, shown, other⟩ :=
    (Node.meets_iff (sound_of_find (gains.sound sound) laterFound)).mp met
  rw [shapeAt_below (gains.locate_ok located) laterFound] at shown
  cases before : place.tree.shapeAt? (here ++ x) with
  | none =>
    exact .inr ⟨here, located, gains.fresh before shown other, Node.shapeAt?_eq_none.mp before, kept⟩
  | some shape =>
    refine .inl ((Node.meets_iff (sound_of_find sound found)).mpr ⟨named, kept, shape, ?_, ?_⟩)
    · rw [shapeAt_below located found, before]
    · rintro rfl
      exact other (Option.some.inj (shown.symm.trans (gains.remains.directory before)))

theorem listed_iff {x : Location} (met : base.Meets x) :
    x ∈ after.listed root later ↔ x ∈ place.listed root base := by
  have stillMet := still_met gains sound found laterFound met
  rw [mem_listed, mem_listed, list_above_met (gains.sound sound) laterFound stillMet,
    list_above_met sound found met]
  simp only [met, stillMet]

end Walks

theorem mem_sourceFiles {extensions : List Text} {files : List Path}
    (listed : place.sourceFiles root extensions = .ok files) {path : Path} (member : path ∈ files) :
    ∃ base x, place.find root = .ok base ∧ base.Meets x ∧
      isSourceFile extensions (root.descend x) = true ∧ path = root.descend x := by
  simp only [Place.sourceFiles, bind, Except.bind] at listed
  cases walked : place.walk root with
  | error fault => rw [walked] at listed; cases listed
  | ok paths =>
    rw [walked] at listed
    cases listed
    obtain ⟨inside, source⟩ := List.mem_filter.mp member
    obtain ⟨base, x, found, here, rfl⟩ := mem_of_walk walked inside
    exact ⟨base, x, found, (mem_listed.mp here).1, source, rfl⟩

/-- The same source files with the same bytes make the same sources. -/
theorem sources_congr {other : Place} {extensions : List Text} (current : other.current = place.current)
    (files : other.sourceFiles root extensions = place.sourceFiles root extensions)
    (read : ∀ base x, place.find root = .ok base → base.Meets x →
      isSourceFile extensions (root.descend x) = true →
      other.readBytes (root.descend x) = place.readBytes (root.descend x)) :
    other.sources root extensions = place.sources root extensions := by
  simp only [Place.sources, files, current]
  cases listed : place.sourceFiles root extensions with
  | error fault => rfl
  | ok paths =>
    simp only [bind, Except.bind, Except.ok.injEq]
    apply List.filterMap_congr
    intro path member
    obtain ⟨base, x, found, met, source, rfl⟩ := mem_sourceFiles listed member
    simp only [reading, read base x found met source]

namespace KeepsSources

variable (keeps : place.KeepsSources after file root) (gains : place.Gains after file)
  (sound : place.tree.isSound = true)

include keeps gains sound

theorem walk_fails_iff {base later : Node} (found : place.find root = .ok base)
    (laterFound : after.find root = .ok later) :
    (∃ fault, after.walk root = .error fault) ↔ ∃ fault, place.walk root = .error fault := by
  rw [walk_found_fails found, walk_found_fails laterFound]
  constructor
  · rintro ⟨x, inside, long⟩
    rcases met_before gains sound found laterFound (mem_listed.mp inside).1 with met | appears
    · have alike := gains.alike (keeps.met base x found met)
      refine ⟨x, (listed_iff gains sound found laterFound met).mp inside, ?_⟩
      exact (isFile_eq_error.mp (alike.isFile ▸ isFile_eq_error.mpr ⟨rfl, long⟩)).2
    · exact False.elim ((keeps.fresh x appears).2 long)
  · rintro ⟨x, inside, long⟩
    have met := (mem_listed.mp inside).1
    exact ⟨x, (listed_iff gains sound found laterFound met).mpr inside, keeps.met base x found met _ long⟩

theorem sourceFiles :
    after.sourceFiles root sourceExtensions = place.sourceFiles root sourceExtensions := by
  simp only [Place.sourceFiles]
  cases found : place.find root with
  | error fault => rw [walk_of_fault (gains.alike keeps.way) found]
  | ok base =>
    obtain ⟨later, laterFound, _⟩ := gains.find_ok found
    have fails := keeps.walk_fails_iff gains sound found laterFound
    by_cases broken : ∃ fault, place.walk root = .error fault
    · obtain ⟨fault, failed⟩ := broken
      obtain ⟨laterFault, laterFailed⟩ := fails.mpr ⟨fault, failed⟩
      rw [failed, laterFailed, walk_found_fault found failed, walk_found_fault laterFound laterFailed]
    · rw [walk_unbroken found broken, walk_unbroken laterFound (mt fails.mp broken)]
      simp only [bind, Except.bind, List.filter_map, Except.ok.injEq]
      refine congrArg _ (eq_of_visited
        (((listed_ordered (gains.sound sound) laterFound).filter _).filter _)
        (((listed_ordered sound found).filter _).filter _) ?_)
      intro x
      simp only [List.mem_filter, Function.comp_apply, leadsToFile_iff, and_assoc]
      by_cases met : base.Meets x
      · rw [listed_iff gains sound found laterFound met,
          (gains.alike (keeps.met base x found met)).isFile]
      · constructor
        · rintro ⟨inside, _, source⟩
          have appears :=
            (met_before gains sound found laterFound (mem_listed.mp inside).1).resolve_left met
          cases (keeps.fresh x appears).1.symm.trans source
        · rintro ⟨inside, _⟩
          exact False.elim (met (mem_listed.mp inside).1)

theorem sources : after.sources root sourceExtensions = place.sources root sourceExtensions := by
  apply sources_congr gains.current (keeps.sourceFiles gains sound)
  intro base x found met source
  exact gains.readBytes (keeps.met base x found met) fun location =>
    keeps.apart base x location found met source

/-- Where the new file is not come by the whole walk is the same. -/
theorem walk (hidden : ∀ x, ¬ place.Appears file root x) : after.walk root = place.walk root :=
  walk_congr sound (gains.sound sound) (gains.alike keeps.way)
    (fun _ _ found laterFound x =>
      ⟨fun met => (met_before gains sound found laterFound met).resolve_right (hidden x),
        still_met gains sound found laterFound⟩)
    fun base x found met => gains.alike (keeps.met base x found met)

end KeepsSources

/-- Where a walk looks for nothing in vain, a new file that it does not come by is no source. -/
theorem keepsSources_of_hidden (reached : ∃ base, place.find root = .ok base)
    (found : ∀ base x, place.find root = .ok base → base.Meets x →
      ∃ node, place.find (root.descend x) = .ok node)
    (new : ∀ location, file = some location → place.tree.at? location = none)
    (hidden : ∀ x, ¬ place.Appears file root x) : place.KeepsSources after file root := by
  refine ⟨?_, ?_, ?_, fun x appears => absurd appears (hidden x)⟩
  · intro fault failed
    obtain ⟨base, below⟩ := reached
    cases below.symm.trans failed
  · intro base x below met fault failed
    obtain ⟨node, stands⟩ := found base x below met
    cases stands.symm.trans failed
  · intro base x location below met _ located same
    obtain ⟨node, stands⟩ := found base x below met
    obtain ⟨_, again, present⟩ := find_eq_ok.mp stands
    cases located.symm.trans again
    cases (new location same).symm.trans present

end Place

/-- Whether the name of an entry of a root is looked for when the language is to be told. -/
def marksLanguage (name : Text) : Bool :=
  name == manifestName || name == compilerConfigName ||
    markers.any fun entry => entry.2.any fun marker => marker.fits name

namespace Place

/-- Whether a root has an entry that tells the language, so that nothing is counted. -/
def IsMarked (place : Place) (root : Path) : Prop :=
  ∃ names, place.list root = .ok names ∧
    (manifestName ∈ names ∨ (markedLanguage? names).isSome)

/-- Whether what a place has gained escapes whoever tells the language of a root: no mark has come, the
manifest is not the file that was added to, and unless there was a mark the walk does not come by a new
file. -/
structure KeepsLanguage (place after : Place) (file : Option Location) (root : Path) : Prop where
  marks : ∀ here name, place.locate false root = .ok here → marksLanguage name = true →
    place.tree.at? (here ++ [name]) = none → after.tree.at? (here ++ [name]) = none
  manifest : ∀ location, place.locate false (root.descend [manifestName]) = .ok location →
    file ≠ some location
  vote : place.IsMarked root ∨ ∀ x, ¬ place.Appears file root x

variable {place after : Place} {file : Option Location} {root : Path}

theorem mem_names {here : Location} {names : List Text} (located : place.locate false root = .ok here)
    (listed : place.list root = .ok names) (name : Text) :
    name ∈ names ↔ (place.tree.at? (here ++ [name])).isSome = true := by
  cases found : place.find root with
  | error fault => simp only [list, found] at listed; cases listed
  | ok node =>
    obtain ⟨_, again, stands⟩ := find_eq_ok.mp found
    cases located.symm.trans again
    simp only [list, found] at listed
    cases node with
    | file content => cases listed
    | link target => cases listed
    | directory entries =>
      cases listed
      rw [Node.at?_append, stands, ← Node.childNamed_isSome]
      simp

private theorem marksLanguage_of_fits {entry : Text × List Marker} (member : entry ∈ markers)
    {marker : Marker} (inside : marker ∈ entry.2) {name : Text} (fits : marker.fits name = true) :
    marksLanguage name = true := by
  simp only [marksLanguage, Bool.or_eq_true, List.any_eq_true]
  exact .inr ⟨entry, member, marker, inside, fits⟩

/-- Whether there is a mark of a language among the names. -/
def isMarkedBy (names : List Text) (entry : Text × List Marker) : Bool :=
  entry.2.any fun marker => names.any marker.fits

theorem isMarkedBy_iff {names : List Text} {entry : Text × List Marker} :
    isMarkedBy names entry = true ↔ ∃ marker ∈ entry.2, ∃ name ∈ names, marker.fits name = true := by
  simp only [isMarkedBy, List.any_eq_true]

theorem find_isMarkedBy_congr {entries : List (Text × List Marker)} {names otherNames : List Text}
    (same : ∀ entry ∈ entries, isMarkedBy otherNames entry = true ↔ isMarkedBy names entry = true) :
    entries.find? (isMarkedBy otherNames) = entries.find? (isMarkedBy names) := by
  rw [← List.head?_filter, ← List.head?_filter]
  refine congrArg _ (List.filter_congr fun entry member => ?_)
  rw [Bool.eq_iff_iff]
  exact same entry member

theorem markedLanguage_congr {names otherNames : List Text}
    (same : ∀ name, marksLanguage name = true → (name ∈ otherNames ↔ name ∈ names)) :
    markedLanguage? otherNames = markedLanguage? names := by
  refine congrArg (Option.map Prod.fst) (find_isMarkedBy_congr fun entry member => ?_)
  rw [isMarkedBy_iff, isMarkedBy_iff]
  refine exists_congr fun marker => and_congr_right fun inside => exists_congr fun name => ?_
  exact and_congr_left fun fits => same name (marksLanguage_of_fits member inside fits)

/-- The language is told alike where the same marks are listed, the manifest reads the same, and without
marks the same files are counted. -/
theorem detectLanguage_congr {place other : Place} {root : Path} (way : place.Alike other root)
    (marks : ∀ names otherNames, place.list root = .ok names → other.list root = .ok otherNames →
      (manifestName ∈ otherNames ↔ manifestName ∈ names) ∧
        (compilerConfigName ∈ otherNames ↔ compilerConfigName ∈ names) ∧
        (manifestName ∉ names → markedLanguage? otherNames = markedLanguage? names))
    (manifest : ∀ names, place.list root = .ok names → manifestName ∈ names →
      other.readText (root.descend [manifestName]) = place.readText (root.descend [manifestName]))
    (vote : ∀ names, place.list root = .ok names → manifestName ∉ names → markedLanguage? names = none →
      other.walk root = place.walk root) :
    detectLanguage other root = detectLanguage place root := by
  simp only [detectLanguage, bind, Except.bind]
  cases listed : place.list root with
  | error fault => rw [way.list_error listed]; rfl
  | ok names =>
    obtain ⟨otherNames, otherListed⟩ := way.list_ok listed
    obtain ⟨sameManifest, sameConfig, sameMarks⟩ := marks names otherNames listed otherListed
    have holds {name : Text} (same : name ∈ otherNames ↔ name ∈ names) :
        otherNames.contains name = names.contains name := by
      rwa [Bool.eq_iff_iff, List.contains_iff_mem, List.contains_iff_mem]
    simp only [otherListed, Except.mapError, holds sameManifest, manifestLanguage, holds sameConfig]
    split
    · next managed => rw [manifest names listed (List.contains_iff_mem.mp managed)]
    · next unmanaged =>
      have absent := mt List.contains_iff_mem.mpr unmanaged
      rw [sameMarks absent]
      cases marked : markedLanguage? names with
      | some language => rfl
      | none => rw [vote names listed absent marked]

section Language

variable (keeps : place.KeepsLanguage after file root) (sources : place.KeepsSources after file root)
  (gains : place.Gains after file)

include keeps gains

theorem KeepsLanguage.names {names laterNames : List Text} (listed : place.list root = .ok names)
    (laterListed : after.list root = .ok laterNames) {name : Text} (marks : marksLanguage name = true) :
    name ∈ laterNames ↔ name ∈ names := by
  obtain ⟨entries, found⟩ := list_isOk.mp (by rw [listed]; rfl)
  obtain ⟨here, located, _⟩ := find_eq_ok.mp found
  rw [mem_names located listed, mem_names (gains.locate_ok located) laterListed]
  cases before : place.tree.at? (here ++ [name]) with
  | none => simp [keeps.marks here name located marks before]
  | some node =>
    obtain ⟨_, shown, _⟩ := gains.remains (here ++ [name]) node.shape (by rw [Node.shapeAt?, before]; rfl)
    obtain ⟨later, stands, _⟩ := Node.shapeAt?_eq_some.mp shown
    simp [stands]

include sources

theorem KeepsLanguage.readText {names : List Text} (listed : place.list root = .ok names)
    (inside : manifestName ∈ names) :
    after.readText (root.descend [manifestName]) = place.readText (root.descend [manifestName]) := by
  have fails : place.StillFails after (root.descend [manifestName]) := by
    obtain ⟨entries, found⟩ := list_isOk.mp (by rw [listed]; rfl)
    obtain ⟨here, located, stands⟩ := find_eq_ok.mp found
    have present := (mem_names located listed manifestName).mp inside
    obtain ⟨node, standing⟩ := Option.isSome_iff_exists.mp present
    rw [Node.at?_concat stands] at standing
    by_cases directory : node.shape = .directory
    · obtain ⟨inner, rfl⟩ := Node.shape_eq_directory.mp directory
      intro fault failed
      cases refused : textFault? (root.descend [manifestName]) with
      | some cause =>
        cases failed.symm.trans (find_of_textFault? place refused)
        exact find_of_textFault? after refused
      | none =>
        have leads := find_descend found (by simpa using standing)
          (fun _ impossible => by cases impossible) (by decide) refused
        rw [if_pos (by decide), failed] at leads
        cases leads
    · exact sources.met _ _ found (.entry (Node.mem_of_childNamed standing) directory)
  simp only [Place.readText, gains.readBytes fails keeps.manifest]

theorem KeepsLanguage.classify (sound : place.tree.isSound = true) :
    ProjectSurvey.classify after root = ProjectSurvey.classify place root := by
  have detected : detectLanguage after root = detectLanguage place root := by
    apply detectLanguage_congr (gains.alike sources.way)
    · intro names laterNames listed laterListed
      have same (name : Text) (marks : marksLanguage name = true) : name ∈ laterNames ↔ name ∈ names :=
        keeps.names gains listed laterListed marks
      exact ⟨same _ rfl, same _ rfl, fun _ => markedLanguage_congr same⟩
    · intro names listed managed
      exact keeps.readText sources gains listed managed
    · intro names listed unmanaged unmarked
      rcases keeps.vote with ⟨_, again, mark⟩ | hidden
      · cases listed.symm.trans again
        rw [unmarked] at mark
        rcases mark with mark | mark
        · exact absurd mark unmanaged
        · cases mark
      · exact sources.walk gains sound hidden
  simp only [ProjectSurvey.classify, detected]

end Language

end Place

end ProjectSurvey
