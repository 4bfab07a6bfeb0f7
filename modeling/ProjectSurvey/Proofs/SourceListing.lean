import ProjectSurvey.Proofs.RelativePaths
import ProjectSurvey.Proofs.WalkListing
import ProjectSurvey.Source

/-! The sources of a project told by where they stand below its root. They come in the order of the walk,
and what becomes of one of them is a matter of its own place. -/

namespace ProjectSurvey

namespace Place

variable {place : Place} {root : Path}

/-- The places below a root at which a walk finds regular files. -/
def visits (place : Place) (root : Path) : List Location :=
  match place.find root with
  | .ok base => (place.listed root base).filter (place.leadsToFile ∘ root.descend)
  | .error _ => []

/-- The source at a place below a root, if there is one that can be read. -/
def sourceAt? (place : Place) (root : Path) (extensions : List Text) (x : Location) : Option Source :=
  if isSourceFile extensions (root.descend x) then
    (place.reading (root.descend x)).text?.map fun text =>
      ⟨root.descend x, (root.descend x).relativeTo place.current root, text⟩
  else none

theorem walk_of_leaves {base : Node} {leaves : List Location} (found : place.find root = .ok base)
    (told : base.leaves = leaves) :
    place.walk root = ((leaves.filter fun x => (place.list (root.descend x.dropLast)).isOk).map
      root.descend).filterM place.isFile := by
  simp only [walk, found, listed, told]

/-- A walk below what has been met under names in their order. -/
theorem walk_of_met {base : Node} {met sorted : List Met} (found : place.find root = .ok base)
    (told : base.leaves = arrange met) (perm : met.Perm sorted)
    (ordered : sorted.Pairwise fun a b => Text.inOrder b.name a.name = false) :
    place.walk root = ((((sorted.filterMap fun m => if m.below.isNone then some [m.name] else none) ++
      sorted.flatMap fun m => (m.below.getD []).map (m.name :: ·)).filter fun x =>
        (place.list (root.descend x.dropLast)).isOk).map root.descend).filterM place.isFile := by
  rw [walk_of_leaves found told, arrange_eq perm ordered]

theorem walk_eq_visits {paths : List Path} (walked : place.walk root = .ok paths) :
    paths = (place.visits root).map root.descend := by
  simp only [visits]
  cases found : place.find root with
  | error fault =>
    simp only [walk, found] at walked
    split at walked <;> cases walked
    rfl
  | ok base =>
    have unbroken : ¬ ∃ fault, place.walk root = .error fault := by
      rintro ⟨fault, failed⟩
      cases walked.symm.trans failed
    rw [walk_unbroken found unbroken] at walked
    exact (Except.ok.inj walked).symm

theorem sources_eq_visits {extensions : List Text} {sources : List Source}
    (told : place.sources root extensions = .ok sources) :
    sources = (place.visits root).filterMap (place.sourceAt? root extensions) := by
  simp only [Place.sources, sourceFiles, bind, Except.bind] at told
  cases walked : place.walk root with
  | error fault => rw [walked] at told; cases told
  | ok paths =>
    rw [walked] at told
    cases told
    rw [walk_eq_visits walked, List.filterMap_filter, List.filterMap_map]
    rfl

theorem visits_ordered (sound : place.tree.isSound = true) : (place.visits root).Pairwise VisitedBefore := by
  simp only [visits]
  cases found : place.find root with
  | error fault => exact .nil
  | ok base => exact (listed_ordered sound found).filter _

theorem mem_visits (sound : place.tree.isSound = true) {base : Node} (found : place.find root = .ok base)
    {x : Location} : x ∈ place.visits root ↔
      base.Meets x ∧ ∃ content, place.find (root.descend x) = .ok (.file content) := by
  simp only [visits, found, List.mem_filter, mem_listed, Function.comp_apply, leadsToFile_iff, isFile_eq_true]
  constructor
  · rintro ⟨⟨met, -⟩, leads⟩
    exact ⟨met, leads⟩
  · rintro ⟨met, content, leads⟩
    obtain ⟨_, located, -⟩ := find_eq_ok.mp leads
    refine ⟨⟨met, list_above_short sound found met (locate_eq_ok.mp located).1 ?_⟩, content, leads⟩
    rw [leads]
    exact fun impossible => by cases impossible

theorem visits_of_error {fault : Fault} (failed : place.find root = .error fault) : place.visits root = [] := by
  simp only [visits, failed]

theorem parentPart_not_mem_of_met (sound : place.tree.isSound = true) {base : Node}
    (found : place.find root = .ok base) {x : Location} (met : base.Meets x) : parentPart ∉ x := by
  have baseSound := sound_of_find sound found
  obtain ⟨-, -, shape, shown, -⟩ := (Node.meets_iff baseSound).mp met
  obtain ⟨node, stands, -⟩ := Node.shapeAt?_eq_some.mp shown
  exact Node.parentPart_not_mem_of_at? baseSound stands

theorem file_of_sourceAt? {extensions : List Text} {x : Location} {source : Source} (apart : parentPart ∉ x)
    (told : place.sourceAt? root extensions x = some source) : source.file = relativeText x := by
  simp only [sourceAt?] at told
  split at told
  · obtain ⟨text, -, rfl⟩ := Option.map_eq_some_iff.mp told
    exact Path.relativeTo_descend place.current root apart
  · cases told

theorem filter_sources (sound : place.tree.isSound = true) {extensions : List Text} (wanted : Text → Bool) :
    ((place.visits root).filterMap (place.sourceAt? root extensions)).filter (wanted ·.file) =
      ((place.visits root).filter (wanted ∘ relativeText)).filterMap
        (place.sourceAt? root extensions) := by
  rw [List.filter_filterMap, List.filterMap_filter]
  apply List.filterMap_congr
  intro x member
  have apart : parentPart ∉ x := by
    cases found : place.find root with
    | error fault => rw [visits_of_error found] at member; cases member
    | ok base => exact parentPart_not_mem_of_met sound found ((mem_visits sound found).mp member).1
  cases told : place.sourceAt? root extensions x with
  | none => simp
  | some source =>
    have called := file_of_sourceAt? apart told
    simp [called, Option.filter_some]

end Place

end ProjectSurvey
