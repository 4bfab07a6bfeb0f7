import ProjectSurvey.Proofs.SourceListing
import ProjectSurvey.Proofs.SourceRecords

/-! Surveys go by directories: what one finds beneath a directory of the project is what a survey of this
directory finds, told from the root of the project. -/

namespace ProjectSurvey

namespace Place

/-- Whether names lead on from a root through directories that stand there themselves and that a walk
does not pass by. -/
structure LeadsInto (place : Place) (root : Path) (names : Location) : Prop where
  named : names ≠ []
  kept : ∀ name ∈ names, isPruned name = false
  real : ∃ base, place.find root = .ok base ∧ base.shapeAt? names = some .directory

namespace LeadsInto

variable {place : Place} {root : Path} {names : Location} (leads : place.LeadsInto root names)
  (sound : place.tree.isSound = true)

include leads sound

theorem directory : ∃ base entries, place.find root = .ok base ∧
    base.at? names = some (.directory entries) ∧ parentPart ∉ names := by
  obtain ⟨base, found, shown⟩ := leads.real
  obtain ⟨entries, stands⟩ := Node.shapeAt?_directory.mp shown
  exact ⟨base, entries, found, stands, Node.parentPart_not_mem_of_at? (sound_of_find sound found) stands⟩

section Directory

variable {base : Node} {entries : List (Text × Node)} (found : place.find root = .ok base)
  (stands : base.at? names = some (.directory entries))

include found stands

theorem meets (x : Location) : base.Meets (names ++ x) ↔ (Node.directory entries).Meets x := by
  have baseSound := sound_of_find sound found
  have below : base.shapeAt? (names ++ x) = (Node.directory entries).shapeAt? x := by
    simp only [Node.shapeAt?, Node.at?_append, stands, Option.bind_some]
  rw [Node.meets_iff baseSound, Node.meets_iff (Node.isSound_of_at? baseSound stands), below]
  by_cases further : x = []
  · subst further
    simp [Node.shapeAt?, Node.shape]
  · have allKept : (∀ name ∈ (names ++ x).dropLast, isPruned name = false) ↔
        ∀ name ∈ x.dropLast, isPruned name = false := by
      rw [List.dropLast_append_of_ne_nil further, List.forall_mem_append]
      exact and_iff_right leads.kept
    simp only [allKept, ne_eq, further, not_false_eq_true, List.append_eq_nil_iff, and_false, true_and]

theorem reached {x : Location} (further : x ≠ []) (visited : names ++ x ∈ place.visits root) :
    place.find (root.descend names) = .ok (.directory entries) := by
  obtain ⟨met, content, file⟩ := (mem_visits sound found).mp visited
  obtain ⟨_, located, -⟩ := find_eq_ok.mp file
  have listed := list_above_short sound found met (locate_eq_ok.mp located).1
    (by rw [file]; exact fun impossible => by cases impossible)
  obtain ⟨accepted, short⟩ := (list_above_met sound found met).mp listed
  rw [List.dropLast_append_of_ne_nil further] at accepted short
  rw [← descend_descend] at accepted
  have acceptedHere := textFault?_of_descend_names (by simp [Path.descend, leads.named]) accepted
  have shortHere : AreShort names := fun name member => short name (List.mem_append_left _ member)
  have noParent := Node.parentPart_not_mem_of_at? (sound_of_find sound found) stands
  rw [find_descend found stands (fun _ impossible => by cases impossible) noParent acceptedHere,
    if_pos shortHere]

end Directory

/-- A walk visits below the directory what a walk of the directory visits, in the same order. -/
theorem visits (slashless : place.tree.isSlashless = true) :
    (place.visits root).filter (isBeneath names ∘ relativeText) =
      (place.visits (root.descend names)).map (names ++ ·) := by
  obtain ⟨base, entries, found, stands, noParent⟩ := leads.directory sound
  obtain ⟨here, -, standsHere⟩ := find_eq_ok.mp found
  have apart {x : Location} {node : Node} (stands : base.at? x = some node) : ∀ name ∈ x, '/' ∉ name :=
    (Node.slashless_of_at? (Node.slashless_of_at? slashless standsHere).2 stands).1
  have beneath {x : Location} (met : base.Meets x) :
      isBeneath names (relativeText x) = true ↔ ∃ rest, rest ≠ [] ∧ x = names ++ rest := by
    obtain ⟨some, -, shape, shown, -⟩ := (Node.meets_iff (sound_of_find sound found)).mp met
    obtain ⟨object, standing, -⟩ := Node.shapeAt?_eq_some.mp shown
    exact isBeneath_iff leads.named some (apart stands) (apart standing)
  apply eq_of_visited
  · exact (visits_ordered sound).filter _
  · exact List.pairwise_map.mpr ((visits_ordered sound).imp fun before => before.prepend names)
  · intro x
    rw [List.mem_filter, List.mem_map, Function.comp_apply]
    constructor
    · rintro ⟨visited, called⟩
      obtain ⟨met, leadsTo⟩ := (mem_visits sound found).mp visited
      obtain ⟨rest, further, rfl⟩ := (beneath met).mp called
      have inner := leads.reached sound found stands further visited
      refine ⟨rest, (mem_visits sound inner).mpr ⟨?_, ?_⟩, rfl⟩
      · exact (leads.meets sound found stands rest).mp met
      · rwa [descend_descend]
    · rintro ⟨rest, visited, rfl⟩
      cases inner : place.find (root.descend names) with
      | error fault => rw [visits_of_error inner] at visited; cases visited
      | ok object =>
        cases eq_of_find_descend found stands (fun _ impossible => by cases impossible) noParent inner
        obtain ⟨met, leadsTo⟩ := (mem_visits sound inner).mp visited
        have metThere := (leads.meets sound found stands rest).mpr met
        rw [descend_descend] at leadsTo
        exact ⟨(mem_visits sound found).mpr ⟨metThere, leadsTo⟩,
          (beneath metThere).mpr ⟨rest, met.ne_nil, rfl⟩⟩

theorem sources (slashless : place.tree.isSlashless = true) {extensions : List Text}
    {whole part : List Source} (told : place.sources root extensions = .ok whole)
    (innerTold : place.sources (root.descend names) extensions = .ok part) :
    whole.filter (isBeneath names ·.file) = part.map (Source.renamed (beneath names)) := by
  rw [sources_eq_visits told, sources_eq_visits innerTold, filter_sources sound (isBeneath names),
    leads.visits sound slashless, List.filterMap_map, List.map_filterMap]
  apply List.filterMap_congr
  intro x visited
  obtain ⟨_, _, _, _, noParent⟩ := leads.directory sound
  cases inner : place.find (root.descend names) with
  | error fault => rw [visits_of_error inner] at visited; cases visited
  | ok object =>
    have met := ((mem_visits sound inner).mp visited).1
    have noParentBelow := parentPart_not_mem_of_met sound inner met
    have called : (root.descend (names ++ x)).relativeTo place.current root =
        beneath names (((root.descend names).descend x).relativeTo place.current (root.descend names)) := by
      rw [Path.relativeTo_descend _ _ (by simp [noParent, noParentBelow]),
        Path.relativeTo_descend _ _ noParentBelow, relativeText_append leads.named met.ne_nil]
    simp only [Function.comp_apply, sourceAt?, called, descend_descend]
    split
    · cases (place.reading (root.descend (names ++ x))).text? <;> rfl
    · rfl

end LeadsInto

end Place

/-- The records that a survey makes of the files beneath a directory are those that a survey of the
directory makes, with the directory before the names of their files. -/
theorem records_of_subtree {place : Place} (sound : place.tree.isSound = true)
    (slashless : place.tree.isSlashless = true) {path inner : Option Text} {root : Path} {names : Location}
    (rooted : place.rootAt path = .ok root) (leads : place.LeadsInto root names)
    (joined : place.rootAt inner = .ok (root.descend names)) :
    (∀ whole part, analyze place path = .ok whole → analyze place inner = .ok part →
      whole.select (isBeneath names) =
        { part.renamed (beneath names) with root := whole.root, profile := whole.profile }) ∧
    ∀ category term whole part, search place ⟨path, category, term⟩ = .ok whole →
      search place ⟨inner, category, term⟩ = .ok part →
      whole.select (isBeneath names) = part.renamed (beneath names) := by
  constructor
  · intro whole part analyzed innerAnalyzed
    obtain ⟨_, profile, sources, same, told, rfl⟩ := analyze_eq_ok analyzed
    cases rooted.symm.trans same
    obtain ⟨_, innerProfile, innerSources, innerRooted, innerTold, rfl⟩ := analyze_eq_ok innerAnalyzed
    cases joined.symm.trans innerRooted
    rw [Analysis.select_ofSources, leads.sources sound slashless told innerTold, Analysis.ofSources_renamed]
    rfl
  · intro category term whole part searched innerSearched
    obtain ⟨_, sources, same, told, rfl⟩ := search_eq_ok searched
    cases rooted.symm.trans same
    obtain ⟨_, innerSources, innerRooted, innerTold, rfl⟩ := search_eq_ok innerSearched
    cases joined.symm.trans innerRooted
    rw [Findings.select_ofSources, leads.sources sound slashless told innerTold,
      Findings.ofSources_renamed]
    rfl

/-- A file in a directory is found from above the directory and from inside it. -/
theorem records_of_subtree_two_files :
    let place : Place := ⟨.directory [("a.py", .file (Utf8.encode "x = 1")),
      ("sub", .directory [("b.py", .file (Utf8.encode "x = 2"))])], []⟩
    ∃ whole part, search place ⟨none, some "zzz", some "x"⟩ = .ok whole ∧
      search place ⟨some "/sub", some "zzz", some "x"⟩ = .ok part ∧
      part.termMatches.map (·.file) = ["b.py".toList] ∧
      whole.select (isBeneath ["sub"]) = part.renamed (beneath ["sub"]) := by
  intro place
  have rooted : place.rootAt none = .ok ⟨.root, []⟩ := rfl
  have innerRooted : place.rootAt (some "/sub") = .ok ⟨.root, ["sub"]⟩ := rfl
  have leads : place.LeadsInto ⟨.root, []⟩ ["sub"] :=
    ⟨List.cons_ne_nil _ _, by decide, _, rfl, rfl⟩
  have walked : place.walk ⟨.root, []⟩ = .ok [⟨.root, ["a.py"]⟩, ⟨.root, ["sub", "b.py"]⟩] := by
    rw [Place.walk_of_met rfl (show _ = arrange [⟨"a.py", none⟩, ⟨"sub", some (arrange [⟨"b.py", none⟩])⟩] from rfl)
      (.refl _) (by decide)]
    decide +kernel
  have innerWalked : place.walk ⟨.root, ["sub"]⟩ = .ok [⟨.root, ["sub", "b.py"]⟩] := by
    rw [Place.walk_of_met rfl (show _ = arrange [⟨"b.py", none⟩] from rfl) (.refl _) (by decide)]
    decide +kernel
  have searched : search place ⟨none, some "zzz", some "x"⟩ = .ok ⟨"zzz", "x", [],
      [⟨"a.py", "x", "x = 1", termScore⟩, ⟨"sub/b.py", "x", "x = 2", termScore⟩], [], []⟩ := by
    simp only [search, rooted, bind, Except.bind, Place.sources, Place.sourceFiles, walked]
    decide +kernel
  have innerSearched : search place ⟨some "/sub", some "zzz", some "x"⟩ =
      .ok ⟨"zzz", "x", [], [⟨"b.py", "x", "x = 2", termScore⟩], [], []⟩ := by
    simp only [search, innerRooted, bind, Except.bind, Place.sources, Place.sourceFiles, innerWalked]
    decide +kernel
  exact ⟨_, _, searched, innerSearched, rfl,
    (records_of_subtree rfl rfl rooted leads innerRooted).2 _ _ _ _ searched innerSearched⟩

end ProjectSurvey
