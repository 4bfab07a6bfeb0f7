import ProjectSurvey.Proofs.SourceListing
import ProjectSurvey.Proofs.SourceRecords
import ProjectSurvey.Proofs.SurveyAgreement
import ProjectSurvey.Proofs.TreeChange

/-! Records are local to their file. Where two places differ in one file only, their surveys differ only in
the records that name this file; those of other files are the same in the same order. -/

namespace ProjectSurvey

namespace Place

/-- What a path leads to, links followed: its kind with the bytes of a file, or nothing. -/
def object? (place : Place) (path : Path) : Option Shape :=
  (place.find path).toOption.map Node.shape

theorem object?_eq_file {place : Place} {path : Path} {content : Bytes} :
    place.object? path = some (.file content) ↔ place.find path = .ok (.file content) := by
  simp only [object?]
  cases place.find path with
  | error fault => simp [Except.toOption]
  | ok node => cases node <;> simp [Except.toOption, Node.shape]

theorem reading_of_file {place : Place} {path : Path} {content : Bytes}
    (found : place.find path = .ok (.file content)) : place.reading path = .ofBytes content := by
  simp only [reading, readBytes, found]

/-- Whether a directory on the way to a location stands there in one of two trees only. -/
def OnWayInOne (place other : Place) (goal location : Location) : Prop :=
  (∃ below, goal = location ++ below) ∧
    ((place.tree.shapeAt? location = some .directory ∧ other.tree.shapeAt? location = none) ∨
      (place.tree.shapeAt? location = none ∧ other.tree.shapeAt? location = some .directory))

/-- Whether two places differ only at the place `file` below the directory `here` that a root leads to, where
a file may be missing in one of them, with directories on its way that are not needed then. Whatever else
a walk comes upon leads to the same object in both. -/
structure DifferAt (place other : Place) (root : Path) (here file : Location) : Prop where
  current : other.current = place.current
  located : place.locate false root = .ok here
  otherLocated : other.locate false root = .ok here
  directory : place.tree.shapeAt? here = some .directory
  otherDirectory : other.tree.shapeAt? here = some .directory
  same : ∀ location, location ≠ here ++ file →
    other.tree.shapeAt? location = place.tree.shapeAt? location ∨
      place.OnWayInOne other (here ++ file) location
  objects : ∀ base x, place.find root = .ok base → base.Meets x → x ≠ file →
    other.object? (root.descend x) = place.object? (root.descend x)

namespace DifferAt

variable {place other : Place} {root : Path} {here file : Location}
  (differ : place.DifferAt other root here file)

include differ

theorem found : ∃ base, place.find root = .ok base := by
  obtain ⟨entries, stands⟩ := Node.shapeAt?_directory.mp differ.directory
  exact ⟨_, find_eq_ok.mpr ⟨here, differ.located, stands⟩⟩

theorem otherFound : ∃ base, other.find root = .ok base := by
  obtain ⟨entries, stands⟩ := Node.shapeAt?_directory.mp differ.otherDirectory
  exact ⟨_, find_eq_ok.mpr ⟨here, differ.otherLocated, stands⟩⟩

theorem standing {x : Location} (apart : x ≠ file) {shape : Shape} (leaf : shape ≠ .directory) :
    other.tree.shapeAt? (here ++ x) = some shape ↔ place.tree.shapeAt? (here ++ x) = some shape := by
  have elsewhere : here ++ x ≠ here ++ file := fun same => apart (List.append_cancel_left same)
  rcases differ.same (here ++ x) elsewhere with same | ⟨-, ⟨directory, absent⟩ | ⟨absent, directory⟩⟩
  · rw [same]
  · rw [directory, absent]
    simp [Ne.symm leaf]
  · rw [directory, absent]
    simp [Ne.symm leaf]

theorem met_iff (sound : place.tree.isSound = true) (otherSound : other.tree.isSound = true)
    {base otherBase : Node} (found : place.find root = .ok base) (otherFound : other.find root = .ok otherBase)
    {x : Location} (apart : x ≠ file) : otherBase.Meets x ↔ base.Meets x := by
  rw [Node.meets_iff (sound_of_find sound found), Node.meets_iff (sound_of_find otherSound otherFound),
    shapeAt_below differ.located found, shapeAt_below differ.otherLocated otherFound]
  refine and_congr_right fun _ => and_congr_right fun _ => exists_congr fun shape => ?_
  exact and_congr_left fun leaf => differ.standing apart leaf

theorem visits (sound : place.tree.isSound = true) (otherSound : other.tree.isSound = true) :
    (other.visits root).filter (· ≠ file) = (place.visits root).filter (· ≠ file) := by
  obtain ⟨base, found⟩ := differ.found
  obtain ⟨otherBase, otherFound⟩ := differ.otherFound
  apply eq_of_visited
  · exact (visits_ordered otherSound).filter _
  · exact (visits_ordered sound).filter _
  · intro x
    simp only [List.mem_filter, mem_visits sound found, mem_visits otherSound otherFound, decide_eq_true_eq,
      ← object?_eq_file]
    refine and_congr_left fun apart => ?_
    rw [differ.met_iff sound otherSound found otherFound apart]
    refine and_congr_right fun met => ?_
    rw [differ.objects base x found met apart]

theorem sourceAt? (sound : place.tree.isSound = true) (extensions : List Text) {x : Location}
    (visited : x ∈ place.visits root) (apart : x ≠ file) :
    other.sourceAt? root extensions x = place.sourceAt? root extensions x := by
  obtain ⟨base, found⟩ := differ.found
  obtain ⟨met, content, leads⟩ := (mem_visits sound found).mp visited
  have otherLeads : other.find (root.descend x) = .ok (.file content) := by
    rw [← object?_eq_file, differ.objects base x found met apart, object?_eq_file]
    exact leads
  simp only [Place.sourceAt?, reading_of_file leads, reading_of_file otherLeads, differ.current]

theorem sources (sound : place.tree.isSound = true) (otherSound : other.tree.isSound = true)
    {extensions : List Text} {sources otherSources : List Source}
    (told : place.sources root extensions = .ok sources)
    (otherTold : other.sources root extensions = .ok otherSources) :
    otherSources.filter (·.file ≠ relativeText file) = sources.filter (·.file ≠ relativeText file) := by
  let wanted (name : Text) : Bool := name ≠ relativeText file
  have narrowed (visited : List Location) : visited.filter (wanted ∘ relativeText) =
      (visited.filter (· ≠ file)).filter (wanted ∘ relativeText) := by
    rw [List.filter_filter]
    apply List.filter_congr
    intro x _
    by_cases same : x = file <;> simp [wanted, same]
  rw [sources_eq_visits told, sources_eq_visits otherTold]
  refine (filter_sources otherSound wanted).trans (Eq.trans ?_ (filter_sources sound wanted).symm)
  rw [narrowed, differ.visits sound otherSound, ← narrowed]
  apply List.filterMap_congr
  intro x member
  obtain ⟨visited, called⟩ := List.mem_filter.mp member
  refine differ.sourceAt? sound extensions visited ?_
  rintro rfl
  simp [wanted] at called

end DifferAt

end Place

/-- Surveys of places that differ in one file give the same records of all other files, in the same order. -/
theorem records_local_to_file {place other : Place} (sound : place.tree.isSound = true)
    (otherSound : other.tree.isSound = true) {path : Option Text} {root : Path} {here file : Location}
    (rooted : place.rootAt path = .ok root) (differ : place.DifferAt other root here file) :
    (∀ found otherFound, analyze place path = .ok found → analyze other path = .ok otherFound →
      otherFound.select (· ≠ relativeText file) =
        { found.select (· ≠ relativeText file) with profile := otherFound.profile }) ∧
    ∀ category term found otherFound, search place ⟨path, category, term⟩ = .ok found →
      search other ⟨path, category, term⟩ = .ok otherFound →
      otherFound.select (· ≠ relativeText file) = found.select (· ≠ relativeText file) := by
  constructor
  · intro found otherFound analyzed otherAnalyzed
    obtain ⟨_, profile, sources, same, told, rfl⟩ := analyze_eq_ok analyzed
    cases rooted.symm.trans same
    obtain ⟨_, otherProfile, otherSources, otherRooted, otherTold, rfl⟩ := analyze_eq_ok otherAnalyzed
    cases Place.rootAt_eq_of_ok differ.current rooted otherRooted
    rw [Analysis.select_ofSources, Analysis.select_ofSources,
      differ.sources sound otherSound told otherTold]
    rfl
  · intro category term found otherFound searched otherSearched
    obtain ⟨_, sources, same, told, rfl⟩ := search_eq_ok searched
    cases rooted.symm.trans same
    obtain ⟨_, otherSources, otherRooted, otherTold, rfl⟩ := search_eq_ok otherSearched
    cases Place.rootAt_eq_of_ok differ.current rooted otherRooted
    rw [Findings.select_ofSources, Findings.select_ofSources,
      differ.sources sound otherSound told otherTold]

/-- A file that comes with its directory makes no other record of the file beside them. -/
theorem records_local_to_new_file :
    let place : Place := ⟨.directory [("setup.py", .file (Utf8.encode "class A:"))], []⟩
    let other : Place := ⟨.directory [("setup.py", .file (Utf8.encode "class A:")),
      ("sub", .directory [("b.py", .file (Utf8.encode "class B:"))])], []⟩
    ∃ found otherFound, analyze place none = .ok found ∧ analyze other none = .ok otherFound ∧
      found.components.map (·.name) = ["A".toList] ∧
      otherFound.components.map (·.name) = ["A".toList, "B".toList] ∧
      otherFound.select (· ≠ "sub/b.py") =
        { found.select (· ≠ "sub/b.py") with profile := otherFound.profile } := by
  intro place other
  let above : Location := ["sub"]
  let file : Location := ["sub", "b.py"]
  let content : Bytes := Utf8.encode "class B:"
  have made (location : Location) : other.tree.shapeAt? location =
      if location = file then some (.file content)
      else if location = above then some .directory else place.tree.shapeAt? location := by
    have built : (place.tree.put above (.directory [])).put file (.file content) = other.tree := rfl
    rw [← built, Node.shapeAt?_put (fun _ => rfl) (by decide) (Node.isBare_file content),
      Node.shapeAt?_put (fun _ => rfl) (by decide) Node.isBare_directory]
    rfl
  have rooted : place.rootAt none = .ok ⟨.root, []⟩ := rfl
  have otherRooted : other.rootAt none = .ok ⟨.root, []⟩ := rfl
  have differ : place.DifferAt other ⟨.root, []⟩ [] file := by
    refine ⟨rfl, rfl, rfl, rfl, rfl, ?_, ?_⟩
    · intro location elsewhere
      rw [made, if_neg (show location ≠ file from elsewhere)]
      split
      · next onWay => exact .inr ⟨onWay ▸ ⟨_, rfl⟩, .inr (onWay ▸ ⟨rfl, rfl⟩)⟩
      · exact .inl rfl
    · intro base x found met _
      cases (show place.find ⟨.root, []⟩ = .ok place.tree from rfl).symm.trans found
      cases met with
      | entry member other =>
        cases List.mem_singleton.mp member
        rfl
      | deeper member kept met =>
        cases List.mem_singleton.mp member
        cases met
  have walked : place.walk ⟨.root, []⟩ = .ok [⟨.root, ["setup.py"]⟩] := by
    rw [Place.walk_of_met rfl (show _ = arrange [⟨"setup.py", none⟩] from rfl) (.refl _) (by decide)]
    decide +kernel
  have otherWalked :
      other.walk ⟨.root, []⟩ = .ok [⟨.root, ["setup.py"]⟩, ⟨.root, ["sub", "b.py"]⟩] := by
    rw [Place.walk_of_met rfl
      (show _ = arrange [⟨"setup.py", none⟩, ⟨"sub", some (arrange [⟨"b.py", none⟩])⟩] from rfl) (.refl _) (by decide)]
    decide +kernel
  have classified : classify place ⟨.root, []⟩ = .ok (.named "python") := rfl
  have otherClassified : classify other ⟨.root, []⟩ = .ok (.named "python") := rfl
  have analyzed : analyze place none =
      .ok ⟨"/", .named "python", [⟨"A", "setup.py", "component"⟩], [], [], []⟩ := by
    simp only [analyze, rooted, bind, Except.bind, Except.mapError, classified, Place.sources, Place.sourceFiles,
      walked]
    decide +kernel
  have otherAnalyzed : analyze other none = .ok ⟨"/", .named "python",
      [⟨"A", "setup.py", "component"⟩, ⟨"B", "sub/b.py", "component"⟩], [], [], []⟩ := by
    simp only [analyze, otherRooted, bind, Except.bind, Except.mapError, otherClassified, Place.sources,
      Place.sourceFiles, otherWalked]
    decide +kernel
  exact ⟨_, _, analyzed, otherAnalyzed, rfl, rfl,
    (records_local_to_file rfl rfl rooted differ).1 _ _ analyzed otherAnalyzed⟩

end ProjectSurvey
