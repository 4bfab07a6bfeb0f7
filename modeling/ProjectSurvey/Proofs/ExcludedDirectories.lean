import ProjectSurvey.Proofs.PathWays
import ProjectSurvey.Proofs.SourceListing
import ProjectSurvey.Proofs.SurveyAgreement
import ProjectSurvey.Proofs.TreeChange

/-! Excluded directories are passed by: nothing that they hold tells in a survey, as long as no path leads
into them. What tells is the name of one that stands in the root itself, where a name with the ending of
a project file marks the language whatever it is the name of. -/

namespace ProjectSurvey

/-- The markers that an excluded name can fit. -/
def projectMarkers : List Marker := [.endingIn ".csproj", .endingIn ".sln"]

/-- The markers that are looked for before those. -/
def earlierMarkers : List (Text × List Marker) :=
  markers.takeWhile fun entry => entry.2 != projectMarkers

/-- Whether there is a name among others that ends like that of a project file. -/
def HoldProject (names : List Text) : Prop :=
  ∃ marker ∈ projectMarkers, ∃ name ∈ names, marker.fits name = true

/-- Whether a name among others tells the language before those of project files are looked for. -/
def HoldEarlier (names : List Text) : Prop :=
  manifestName ∈ names ∨ ∃ entry ∈ earlierMarkers, Place.isMarkedBy names entry = true

instance (names : List Text) : Decidable (HoldProject names) :=
  inferInstanceAs (Decidable (∃ marker ∈ projectMarkers, ∃ name ∈ names, marker.fits name = true))

instance (names : List Text) : Decidable (HoldEarlier names) :=
  inferInstanceAs (Decidable (manifestName ∈ names ∨
    ∃ entry ∈ earlierMarkers, Place.isMarkedBy names entry = true))

/-- Whether a marker fits no excluded name. -/
def Marker.isKept : Marker → Bool
  | .called name => !isPruned name
  | .endingIn _ => false

theorem Marker.isPruned_of_fits {marker : Marker} (kept : marker.isKept = true) {name : Text}
    (fits : marker.fits name = true) : isPruned name = false := by
  cases marker with
  | called other =>
    have same : name = other := eq_of_beq fits
    simpa [same, isKept] using kept
  | endingIn ending => cases kept

theorem markers_kept : ∀ entry ∈ markers,
    entry.2 = projectMarkers ∨ ∀ marker ∈ entry.2, marker.isKept = true := by
  decide

theorem earlierMarkers_kept : ∀ entry ∈ earlierMarkers, ∀ marker ∈ entry.2, marker.isKept = true := by
  decide

section Names

variable {names otherNames : List Text}

theorem markedLanguage_of_project (first : ¬ HoldEarlier names) (project : HoldProject names) :
    markedLanguage? names = some "csharp".toList := by
  obtain ⟨later, order⟩ :
      ∃ later, markers = earlierMarkers ++ ("csharp".toList, projectMarkers) :: later := ⟨_, rfl⟩
  have none : earlierMarkers.find? (Place.isMarkedBy names) = none := by
    rw [List.find?_eq_none]
    intro entry member marked
    exact first (.inr ⟨entry, member, marked⟩)
  have marked : Place.isMarkedBy names ("csharp".toList, projectMarkers) = true :=
    Place.isMarkedBy_iff.mpr project
  change (markers.find? (Place.isMarkedBy names)).map (·.1) = _
  rw [order, List.find?_append, none, List.find?_cons_of_pos marked]
  rfl

variable (same : ∀ name, isPruned name = false → (name ∈ otherNames ↔ name ∈ names))

include same

theorem isMarkedBy_congr {entry : Text × List Marker} (kept : ∀ marker ∈ entry.2, marker.isKept = true) :
    Place.isMarkedBy otherNames entry = true ↔ Place.isMarkedBy names entry = true := by
  rw [Place.isMarkedBy_iff, Place.isMarkedBy_iff]
  refine exists_congr fun marker => and_congr_right fun inside => exists_congr fun name => ?_
  exact and_congr_left fun fits => same name (Marker.isPruned_of_fits (kept marker inside) fits)

theorem holdEarlier_congr : HoldEarlier otherNames ↔ HoldEarlier names := by
  refine or_congr (same _ rfl) (exists_congr fun entry => and_congr_right fun member => ?_)
  exact isMarkedBy_congr same (earlierMarkers_kept entry member)

theorem markedLanguage_congr_of_kept (projects : HoldProject otherNames ↔ HoldProject names) :
    markedLanguage? otherNames = markedLanguage? names := by
  refine congrArg (Option.map Prod.fst) (Place.find_isMarkedBy_congr fun entry member => ?_)
  rcases markers_kept entry member with endings | kept
  · rw [Place.isMarkedBy_iff, Place.isMarkedBy_iff, endings]
    exact projects
  · exact isMarkedBy_congr same kept

theorem markedLanguage_congr_of_earlier (unmanaged : manifestName ∉ names) (earlier : HoldEarlier names) :
    markedLanguage? otherNames = markedLanguage? names := by
  obtain ⟨later, order⟩ : ∃ later, markers = earlierMarkers ++ later := ⟨_, rfl⟩
  have found : earlierMarkers.find? (Place.isMarkedBy otherNames) =
      earlierMarkers.find? (Place.isMarkedBy names) :=
    Place.find_isMarkedBy_congr fun entry member =>
      isMarkedBy_congr same (earlierMarkers_kept entry member)
  obtain ⟨entry, first⟩ : ∃ entry, earlierMarkers.find? (Place.isMarkedBy names) = some entry := by
    rw [← Option.isSome_iff_exists, List.find?_isSome]
    exact earlier.resolve_left unmanaged
  change (markers.find? (Place.isMarkedBy otherNames)).map (·.1) =
    (markers.find? (Place.isMarkedBy names)).map (·.1)
  rw [order, List.find?_append, List.find?_append, found, first]
  rfl

end Names

namespace Place

/-- Whether a location is that of an excluded directory below the one a root leads to, or inside of it. -/
def IsExcluded (place : Place) (root : Path) (location : Location) : Prop :=
  ∃ here above name below, place.locate false root = .ok here ∧
    location = here ++ (above ++ name :: below) ∧ isPruned name = true ∧
    place.tree.shapeAt? (here ++ (above ++ [name])) = some .directory

/-- Whether the way of a path keeps out of the excluded directories below a root. -/
def IsClear (place : Place) (root path : Path) : Prop :=
  ∀ goal, place.tree.ComesBy (startOf place.current path.anchor) path.steps goal →
    ¬ place.IsExcluded root goal

/-- Whether the way of a root, and that of every link that stands outside of the excluded directories
below it, keeps out of them. -/
structure KeepsOut (place : Place) (root : Path) : Prop where
  way : place.IsClear root root
  links : ∀ location target, place.tree.shapeAt? location = some (.link target) →
    ¬ place.IsExcluded root location →
    ∀ goal, place.tree.ComesBy location [] goal → ¬ place.IsExcluded root goal

/-- Whether two places differ only in the excluded directories below a root, with no way leading into
them. -/
structure DifferInExcluded (place other : Place) (root : Path) : Prop where
  current : other.current = place.current
  same : ∀ location shape,
    (other.tree.shapeAt? location = some shape ∧ ¬ other.IsExcluded root location) ↔
      (place.tree.shapeAt? location = some shape ∧ ¬ place.IsExcluded root location)
  closed : place.KeepsOut root
  otherClosed : other.KeepsOut root

/-- Whether a root lists a name that ends like that of a project file. -/
def ListsProject (place : Place) (root : Path) : Prop :=
  ∃ names, place.list root = .ok names ∧ HoldProject names

/-- Whether a root lists a name that tells its language before those of project files are looked for. -/
def IsToldEarlier (place : Place) (root : Path) : Prop :=
  ∃ names, place.list root = .ok names ∧ HoldEarlier names

variable {place other : Place} {root : Path}

theorem IsExcluded.append {location : Location} (excluded : place.IsExcluded root location)
    (more : Location) : place.IsExcluded root (location ++ more) := by
  obtain ⟨here, above, name, below, located, rfl, pruned, directory⟩ := excluded
  exact ⟨here, above, name, below ++ more, located, by simp, pruned, directory⟩

theorem not_isExcluded_of_kept {here x : Location} (located : place.locate false root = .ok here)
    (kept : ∀ name ∈ x, isPruned name = false) : ¬ place.IsExcluded root (here ++ x) := by
  rintro ⟨_, above, name, below, again, same, pruned, -⟩
  cases located.symm.trans again
  rw [List.append_cancel_left same] at kept
  cases pruned.symm.trans (kept name (by simp))

/-- What stands below an excluded name is excluded, since only directories have anything below them. -/
theorem isExcluded_of_mem {here x : Location} (located : place.locate false root = .ok here) {shape : Shape}
    (stands : place.tree.shapeAt? (here ++ x) = some shape) {name : Text} (member : name ∈ x.dropLast)
    (pruned : isPruned name = true) : place.IsExcluded root (here ++ x) := by
  have named : x ≠ [] := by
    rintro rfl
    cases member
  obtain ⟨above, below, cut⟩ := List.append_of_mem member
  obtain ⟨next, rest, further⟩ : ∃ next rest, below ++ [x.getLast named] = next :: rest :=
    List.exists_cons_of_ne_nil (by simp)
  have whole : x = above ++ name :: next :: rest := by
    rw [← further, ← List.cons_append, ← List.append_assoc, ← cut, List.dropLast_append_getLast]
  refine ⟨here, above, name, _, located, congrArg (here ++ ·) whole, pruned, ?_⟩
  obtain ⟨node, standing, -⟩ := Node.shapeAt?_eq_some.mp stands
  have through : here ++ x = (here ++ (above ++ [name])) ++ next :: rest := by simp [whole]
  rw [through] at standing
  exact Node.shapeAt?_directory.mpr (Node.directory_of_at?_append standing)

/-- What a walk meets is what stands outside of the excluded directories and is none itself. -/
theorem meets_iff_outside (sound : place.tree.isSound = true) {base : Node} {here : Location}
    (located : place.locate false root = .ok here) (found : place.find root = .ok base) {x : Location} :
    base.Meets x ↔ x ≠ [] ∧ ∃ shape, shape ≠ .directory ∧
      place.tree.shapeAt? (here ++ x) = some shape ∧ ¬ place.IsExcluded root (here ++ x) := by
  rw [Node.meets_iff (sound_of_find sound found), shapeAt_below located found]
  constructor
  · rintro ⟨named, kept, shape, stands, leaf⟩
    refine ⟨named, shape, leaf, stands, ?_⟩
    rintro ⟨_, above, name, below, again, same, pruned, directory⟩
    cases located.symm.trans again
    cases List.append_cancel_left same
    cases below with
    | nil =>
      rw [stands, Option.some.injEq] at directory
      exact leaf directory
    | cons next below =>
      rw [List.dropLast_append_of_ne_nil (List.cons_ne_nil _ _), List.dropLast_cons_cons] at kept
      cases pruned.symm.trans (kept name (by simp))
  · rintro ⟨named, shape, leaf, stands, outside⟩
    refine ⟨named, ?_, shape, stands, leaf⟩
    intro name member
    rw [← Bool.not_eq_true]
    intro pruned
    exact outside (isExcluded_of_mem located stands member pruned)

theorem KeepsOut.descend (closed : place.KeepsOut root) (sound : place.tree.isSound = true)
    {here x : Location} (located : place.locate false root = .ok here) {shape : Shape}
    (stands : place.tree.shapeAt? (here ++ x) = some shape)
    (outside : ¬ place.IsExcluded root (here ++ x)) : place.IsClear root (root.descend x) := by
  intro goal comes
  obtain ⟨node, standing, -⟩ := Node.shapeAt?_eq_some.mp stands
  have noParent : parentPart ∉ x := fun member =>
    Node.parentPart_not_mem_of_at? sound standing (List.mem_append_right _ member)
  rw [descend_steps] at comes
  rcases Node.comesBy_append (Node.run_of_follow _ _ _ (locate_eq_ok.mp located).2) comes with
    comes | comes
  · exact closed.way goal comes
  · rcases Node.comesBy_names stands noParent comes with ⟨depth, rfl⟩ | behind
    · intro excluded
      have deeper := excluded.append (x.drop depth)
      rw [List.append_assoc, List.take_append_drop] at deeper
      exact outside deeper
    · by_cases link : ∃ target, shape = .link target
      · obtain ⟨target, rfl⟩ := link
        exact closed.links _ target stands outside goal behind
      · have real (target : Text) : place.tree.shapeAt? (here ++ x) ≠ some (.link target) := by
          rw [stands]
          rintro ⟨rfl⟩
          exact link ⟨target, rfl⟩
        rw [Node.comesBy_end real behind]
        exact outside

theorem classify_of_project (lists : place.ListsProject root) (first : ¬ place.IsToldEarlier root) :
    classify place root = .ok (.named "csharp") := by
  obtain ⟨names, listed, project⟩ := lists
  have later : ¬ HoldEarlier names := fun earlier => first ⟨names, listed, earlier⟩
  have unmanaged : names.contains manifestName = false := by
    rw [← Bool.not_eq_true, List.contains_iff_mem]
    exact fun managed => later (.inl managed)
  have marked := markedLanguage_of_project later project
  simp only [classify, detectLanguage, bind, Except.bind, listed, Except.mapError, unmanaged, marked,
    Bool.false_eq_true, if_false]

namespace DifferInExcluded

variable (differ : place.DifferInExcluded other root)

include differ

/-- The current directory has been removed in neither place if it is the root, whose way comes by it. -/
theorem rootAt {path : Option Text} (sound : place.tree.isSound = true) (rooted : place.rootAt path = .ok root) :
    other.rootAt path = .ok root := by
  rw [Place.rootAt] at rooted ⊢
  cases given : given? path with
  | some text => rwa [given] at rooted
  | none =>
    simp only [given] at rooted ⊢
    obtain ⟨stands, rfl⟩ := workingDirectory_eq_ok.mp rooted
    obtain ⟨node, standing⟩ := Option.isSome_iff_exists.mp stands
    have shown : place.tree.shapeAt? ([] ++ place.current) = some node.shape :=
      Node.shapeAt?_eq_some.mpr ⟨node, standing, rfl⟩
    have apart := Node.parentPart_not_mem_of_at? sound standing
    have outside := differ.closed.way place.current (Node.comesBy_of_stands shown apart)
    obtain ⟨again, -⟩ := (differ.same place.current node.shape).mpr ⟨shown, outside⟩
    refine workingDirectory_eq_ok.mpr ⟨?_, congrArg Path.ofLocation differ.current⟩
    rw [hasCurrent_eq, differ.current, again, Option.isSome_some]

section Clear

variable {path : Path} (clear : place.IsClear root path) (otherClear : other.IsClear root path)

include clear otherClear

theorem locate : other.locate false path = place.locate false path := by
  simp only [IsClear, differ.current] at otherClear
  simp only [Place.locate, differ.current, Node.follow_agree differ.same _ _ _ ⟨clear, otherClear⟩]

theorem shown : (other.find path).map Node.shape = (place.find path).map Node.shape := by
  have located := differ.locate clear otherClear
  rw [find_shape, find_shape, located]
  cases led : place.locate false path with
  | error fault => rfl
  | ok there =>
    have run := Node.run_of_follow _ _ _ (locate_eq_ok.mp led).2
    have otherRun := Node.run_of_follow _ _ _ (locate_eq_ok.mp (located.trans led)).2
    have standing := Node.shapeAt?_agree differ.same (fun _ _ => clear there ⟨_, run⟩)
      fun _ _ => otherClear there ⟨_, otherRun⟩
    simp only [Except.bind, standing]

end Clear

theorem located : other.locate false root = place.locate false root :=
  differ.locate differ.closed.way differ.otherClosed.way

theorem alike : place.Alike other root :=
  alike_of_shape (differ.shown differ.closed.way differ.otherClosed.way)

theorem listed_iff {names otherNames : List Text} (listed : place.list root = .ok names)
    (otherListed : other.list root = .ok otherNames) (name : Text) (kept : isPruned name = false) :
    name ∈ otherNames ↔ name ∈ names := by
  obtain ⟨entries, found⟩ := list_isOk.mp (by rw [listed]; rfl)
  obtain ⟨here, located, -⟩ := find_eq_ok.mp found
  have otherLocated := differ.located.trans located
  have outside : ∀ part ∈ [name], isPruned part = false := by simpa using kept
  have standing := Node.shapeAt?_agree differ.same
    (fun _ _ => not_isExcluded_of_kept located outside)
    fun _ _ => not_isExcluded_of_kept otherLocated outside
  rw [mem_names located listed, mem_names otherLocated otherListed]
  simpa [Node.shapeAt?] using congrArg Option.isSome standing

variable (sound : place.tree.isSound = true) (otherSound : other.tree.isSound = true)

include sound otherSound

theorem shown_descend {here x : Location} (located : place.locate false root = .ok here) {shape : Shape}
    (stands : place.tree.shapeAt? (here ++ x) = some shape)
    (outside : ¬ place.IsExcluded root (here ++ x)) :
    (other.find (root.descend x)).map Node.shape = (place.find (root.descend x)).map Node.shape := by
  obtain ⟨otherStands, otherOutside⟩ := (differ.same _ _).mpr ⟨stands, outside⟩
  exact differ.shown (differ.closed.descend sound located stands outside)
    (differ.otherClosed.descend otherSound (differ.located.trans located) otherStands otherOutside)

theorem met_iff {base otherBase : Node} (found : place.find root = .ok base)
    (otherFound : other.find root = .ok otherBase) (x : Location) : otherBase.Meets x ↔ base.Meets x := by
  obtain ⟨here, located, -⟩ := find_eq_ok.mp found
  rw [meets_iff_outside sound located found,
    meets_iff_outside otherSound (differ.located.trans located) otherFound]
  simp only [differ.same]

theorem shown_met {base : Node} (found : place.find root = .ok base) {x : Location}
    (met : base.Meets x) :
    (other.find (root.descend x)).map Node.shape = (place.find (root.descend x)).map Node.shape := by
  obtain ⟨here, located, -⟩ := find_eq_ok.mp found
  obtain ⟨-, shape, -, stands, outside⟩ := (meets_iff_outside sound located found).mp met
  exact differ.shown_descend sound otherSound located stands outside

theorem walk : other.walk root = place.walk root :=
  walk_congr sound otherSound differ.alike
    (fun _ _ found otherFound => differ.met_iff sound otherSound found otherFound)
    fun _ _ found met => alike_of_shape (differ.shown_met sound otherSound found met)

theorem sources (extensions : List Text) :
    other.sources root extensions = place.sources root extensions := by
  apply sources_congr differ.current
  · simp only [sourceFiles, differ.walk sound otherSound]
  · intro base x found met _
    exact readBytes_of_shape (differ.shown_met sound otherSound found met)

theorem readText {names : List Text} (listed : place.list root = .ok names)
    (inside : manifestName ∈ names) :
    other.readText (root.descend [manifestName]) = place.readText (root.descend [manifestName]) := by
  obtain ⟨entries, found⟩ := list_isOk.mp (by rw [listed]; rfl)
  obtain ⟨here, located, -⟩ := find_eq_ok.mp found
  obtain ⟨node, standing⟩ := Option.isSome_iff_exists.mp ((mem_names located listed _).mp inside)
  have shown := differ.shown_descend sound otherSound located
    (Node.shapeAt?_eq_some.mpr ⟨node, standing, rfl⟩)
    (not_isExcluded_of_kept located (by decide))
  simp only [Place.readText, readBytes_of_shape shown]

theorem classify (marks : ∀ names otherNames, place.list root = .ok names →
      other.list root = .ok otherNames → manifestName ∉ names →
      markedLanguage? otherNames = markedLanguage? names) :
    ProjectSurvey.classify other root = ProjectSurvey.classify place root := by
  have detected : detectLanguage other root = detectLanguage place root := by
    apply detectLanguage_congr differ.alike
    · intro names otherNames listed otherListed
      have same := differ.listed_iff listed otherListed
      exact ⟨same _ rfl, same _ rfl, marks names otherNames listed otherListed⟩
    · intro names listed managed
      exact differ.readText sound otherSound listed managed
    · intro _ _ _ _
      exact differ.walk sound otherSound
  simp only [ProjectSurvey.classify, detected]

omit sound otherSound in
theorem isToldEarlier_iff : other.IsToldEarlier root ↔ place.IsToldEarlier root := by
  constructor
  · rintro ⟨otherNames, otherListed, earlier⟩
    cases listed : place.list root with
    | error fault => cases (differ.alike.list_error listed).symm.trans otherListed
    | ok names =>
      exact ⟨names, listed, (holdEarlier_congr (differ.listed_iff listed otherListed)).mp earlier⟩
  · rintro ⟨names, listed, earlier⟩
    obtain ⟨otherNames, otherListed⟩ := differ.alike.list_ok listed
    exact ⟨otherNames, otherListed, (holdEarlier_congr (differ.listed_iff listed otherListed)).mpr earlier⟩

/-- The language is told alike unless a project file is listed in one of the roots only, which marks that
one where no earlier mark does. -/
theorem classify_iff : ProjectSurvey.classify other root = ProjectSurvey.classify place root ↔
    (other.ListsProject root ↔ place.ListsProject root) ∨ place.IsToldEarlier root ∨
      (ProjectSurvey.classify other root = .ok (.named "csharp") ∧
        ProjectSurvey.classify place root = .ok (.named "csharp")) := by
  constructor
  · intro alike
    by_cases told : place.IsToldEarlier root
    · exact .inr (.inl told)
    · by_cases lists : place.ListsProject root
      · have csharp := classify_of_project lists told
        exact .inr (.inr ⟨alike.trans csharp, csharp⟩)
      · by_cases otherLists : other.ListsProject root
        · have csharp := classify_of_project otherLists (mt differ.isToldEarlier_iff.mp told)
          exact .inr (.inr ⟨csharp, alike.symm.trans csharp⟩)
        · exact .inl (iff_of_false otherLists lists)
  · rintro (projects | told | ⟨csharp, otherCsharp⟩)
    · apply differ.classify sound otherSound
      intro names otherNames listed otherListed _
      refine markedLanguage_congr_of_kept (differ.listed_iff listed otherListed) ?_
      simpa [ListsProject, listed, otherListed] using projects
    · apply differ.classify sound otherSound
      intro names otherNames listed otherListed unmanaged
      obtain ⟨_, again, earlier⟩ := told
      cases listed.symm.trans again
      exact markedLanguage_congr_of_earlier (differ.listed_iff listed otherListed) unmanaged earlier
    · exact csharp.trans otherCsharp.symm

end DifferInExcluded

section Excluded

variable {entries : List (Text × Node)} (found : place.find root = .ok (.directory entries))
  (excluded : ∀ entry ∈ entries, entry.2.shape = .directory ∧ isPruned entry.1 = true)

include found excluded

theorem walk_of_excluded : place.walk root = .ok [] := by
  have nothing : (Node.directory entries).leaves = [] := by
    rw [List.eq_nil_iff_forall_not_mem]
    intro x member
    cases Node.mem_leaves.mp member with
    | entry inside leaf => exact leaf (excluded _ inside).1
    | deeper inside kept _ => cases kept.symm.trans (excluded _ inside).2
  rw [walk_of_leaves found nothing]
  rfl

theorem sources_of_excluded (extensions : List Text) : place.sources root extensions = .ok [] := by
  simp only [Place.sources, sourceFiles, walk_of_excluded found excluded]
  rfl

theorem classify_of_excluded :
    (place.ListsProject root → classify place root = .ok (.named "csharp")) ∧
      (¬ place.ListsProject root → classify place root = .ok .unknown) := by
  have listed : place.list root = .ok (entries.map (·.1)) := by simp only [list, found]
  have none (name : Text) (kept : isPruned name = false) : name ∈ entries.map (·.1) ↔ name ∈ [] := by
    refine iff_of_false ?_ List.not_mem_nil
    intro member
    obtain ⟨entry, inside, rfl⟩ := List.mem_map.mp member
    cases kept.symm.trans (excluded entry inside).2
  constructor
  · intro lists
    refine classify_of_project lists ?_
    rintro ⟨_, again, earlier⟩
    cases listed.symm.trans again
    revert earlier
    rw [holdEarlier_congr none]
    decide
  · intro lists
    have unlisted : ¬ HoldProject (entries.map (·.1)) := fun project => lists ⟨_, listed, project⟩
    have unmarked : markedLanguage? (entries.map (·.1)) = markedLanguage? [] :=
      markedLanguage_congr_of_kept none (iff_of_false unlisted (by decide))
    have unmanaged : (entries.map (·.1)).contains manifestName = false := by
      rw [← Bool.not_eq_true, List.contains_iff_mem, none _ rfl]
      exact List.not_mem_nil
    have detected : detectLanguage place root = .ok (votedLanguage []) := by
      simp only [detectLanguage, bind, Except.bind, listed, Except.mapError, unmanaged, unmarked,
        walk_of_excluded found excluded, Bool.false_eq_true, if_false]
      rfl
    rw [classify, detected]
    rfl

end Excluded

end Place

/-- Surveys tell nothing of what excluded directories hold. The language is told without them too, unless
one of them in the root is called like a project file; where there is nothing else, that one alone marks
it. -/
theorem surveys_overlook_excluded {place : Place} {path : Option Text} {root : Path}
    (rooted : place.rootAt path = .ok root) :
    (∀ other : Place, place.tree.isSound = true → other.tree.isSound = true → place.DifferInExcluded other root →
      (∀ category term, search other ⟨path, category, term⟩ = search place ⟨path, category, term⟩) ∧
      (classify other root = classify place root ↔
        (other.ListsProject root ↔ place.ListsProject root) ∨ place.IsToldEarlier root ∨
          (classify other root = .ok (.named "csharp") ∧ classify place root = .ok (.named "csharp"))) ∧
      (classify other root = classify place root → analyze other path = analyze place path)) ∧
    ∀ entries, place.find root = .ok (.directory entries) →
      (∀ entry ∈ entries, entry.2.shape = .directory ∧ isPruned entry.1 = true) →
      (classify place root = .ok .unknown ↔ ¬ place.ListsProject root) ∧
      (∃ profile, analyze place path = .ok ⟨root.toText, profile, [], [], [], []⟩) ∧
      ∀ category term, search place ⟨path, category, term⟩ =
        .ok ⟨(Query.mk path category term).smallCategory, term.getD [], [], [], [], []⟩ := by
  constructor
  · intro other sound otherSound differ
    have otherRooted := differ.rootAt sound rooted
    have sources := differ.sources sound otherSound sourceExtensions
    refine ⟨?_, differ.classify_iff sound otherSound, ?_⟩
    · intro category term
      simp only [search, rooted, otherRooted, bind, Except.bind, sources]
    · intro classified
      simp only [analyze, rooted, otherRooted, bind, Except.bind, Except.mapError, classified, sources]
  · intro entries found excluded
    obtain ⟨project, unknown⟩ := Place.classify_of_excluded found excluded
    have sources := Place.sources_of_excluded found excluded sourceExtensions
    refine ⟨⟨?_, unknown⟩, ?_, ?_⟩
    · intro classified lists
      cases classified.symm.trans (project lists)
    · by_cases lists : place.ListsProject root
      · simp only [analyze, rooted, bind, Except.bind, Except.mapError, project lists, sources]
        exact ⟨_, rfl⟩
      · simp only [analyze, rooted, bind, Except.bind, Except.mapError, unknown lists, sources]
        exact ⟨_, rfl⟩
    · intro category term
      simp only [search, rooted, bind, Except.bind, sources]
      rfl

/-- The top keeps out of what is excluded if the only link stands in it and leads to a file beside it. -/
theorem Place.keepsOut_of_only_link {place : Place} {name file : Text} {content : Bytes}
    (top : place.tree.shapeAt? [] = some .directory) (stands : place.tree.shapeAt? [file] = some (.file content))
    (links : ∀ location target, place.tree.shapeAt? location = some (.link target) →
      location = [name] ∧ target = file)
    (beside : Path.anchorOf file = .here ∧ Step.ofTarget file = [file].map Step.ofPart) (noParent : parentPart ≠ file)
    (kept : isPruned name = false ∧ isPruned file = false) : place.KeepsOut ⟨.root, []⟩ := by
  have located : place.locate false ⟨.root, []⟩ = .ok [] := rfl
  constructor
  · intro goal comes
    cases Node.comesBy_end (fun _ link => by cases top.symm.trans link) comes
    exact not_isExcluded_of_kept located (by simp)
  · intro location target link _ goal comes
    obtain ⟨rfl, rfl⟩ := links location target link
    rcases Node.comesBy_cases comes with rfl | ⟨_, _, moves, comes⟩
    · exact not_isExcluded_of_kept located (by simpa using kept.1)
    · cases moves with
      | link again =>
        cases link.symm.trans again
        rw [beside.1, beside.2, List.append_nil] at comes
        obtain ⟨depth, rfl⟩ := Node.comesBy_real stands (fun _ link => by cases link) (by simpa using noParent) comes
        refine not_isExcluded_of_kept located fun part member => ?_
        cases List.mem_singleton.mp (List.mem_of_mem_take member)
        exact kept.2

/-- What a hidden directory holds is not told of in a project with a link that keeps out of it, and a root
that holds nothing else is in no known language. -/
theorem surveys_overlook_hidden_file :
    let place : Place := ⟨.directory [("a.py", .file []), ("b.py", .link "a.py"),
      (".git", .directory [])], []⟩
    let other : Place := ⟨.directory [("a.py", .file []), ("b.py", .link "a.py"),
      (".git", .directory [("c.py", .file [])])], []⟩
    search other ⟨none, some "zzz", some "x"⟩ = search place ⟨none, some "zzz", some "x"⟩ ∧
      analyze other none = analyze place none ∧
      classify ⟨.directory [(".git", .directory [])], []⟩ ⟨.root, []⟩ = .ok .unknown := by
  intro place other
  let root : Path := ⟨.root, []⟩
  let inside : Location := [".git", "c.py"]
  have located : place.locate false root = .ok [] := rfl
  have otherLocated : other.locate false root = .ok [] := rfl
  have made (location : Location) : other.tree.shapeAt? location =
      if location = inside then some (.file []) else place.tree.shapeAt? location := by
    have built : place.tree.put inside (.file []) = other.tree := rfl
    rw [← built, Node.shapeAt?_put (fun _ => rfl) (by decide) (Node.isBare_file [])]
    rfl
  have directories (location : Location) : other.tree.shapeAt? location = some .directory ↔
      place.tree.shapeAt? location = some .directory := by
    rw [made]
    split
    · next same =>
      have absent : place.tree.shapeAt? inside = none := rfl
      rw [same, absent]
      simp
    · rfl
  have excluded (location : Location) :
      other.IsExcluded root location ↔ place.IsExcluded root location := by
    simp only [Place.IsExcluded, located, otherLocated, directories]
  have links (location : Location) (target : Text)
      (stands : place.tree.shapeAt? location = some (.link target)) :
      location = ["b.py".toList] ∧ target = "a.py".toList := by
    obtain ⟨node, standing, shown⟩ := Node.shapeAt?_eq_some.mp stands
    cases location with
    | nil => cases standing; cases shown
    | cons name rest =>
      rw [Node.at?_directory, Option.bind_eq_some_iff] at standing
      obtain ⟨child, present, standing⟩ := standing
      have member := Node.mem_of_childNamed present
      simp only [List.mem_cons, Prod.mk.injEq, List.not_mem_nil, or_false] at member
      rcases member with ⟨rfl, rfl⟩ | ⟨rfl, rfl⟩ | ⟨rfl, rfl⟩ <;> cases rest <;> cases standing <;>
        cases shown
      exact ⟨rfl, rfl⟩
  have closed (spot : Place) (top : spot.tree.shapeAt? [] = some .directory)
      (source : spot.tree.shapeAt? ["a.py"] = some (.file []))
      (links : ∀ location target, spot.tree.shapeAt? location = some (.link target) →
        location = ["b.py".toList] ∧ target = "a.py".toList) : spot.KeepsOut root :=
    Place.keepsOut_of_only_link top source links ⟨rfl, rfl⟩ (by decide) (by decide)
  have differ : place.DifferInExcluded other root := by
    refine ⟨rfl, ?_, closed place rfl rfl links, closed other rfl rfl ?_⟩
    · intro location shape
      rw [made, excluded]
      split
      · next same =>
        have hidden : place.IsExcluded root location :=
          ⟨[], [], ".git", ["c.py"], located, same, rfl, rfl⟩
        simp only [hidden, not_true_eq_false, and_false]
      · rfl
    · intro location target stands
      rw [made] at stands
      split at stands
      · cases stands
      · exact links location target stands
  have rooted : place.rootAt none = .ok root := rfl
  obtain ⟨searched, classified, analyzed⟩ := (surveys_overlook_excluded rooted).1 other rfl rfl differ
  have listed : place.list root = .ok ["a.py", "b.py", ".git"] := rfl
  have otherListed : other.list root = .ok ["a.py", "b.py", ".git"] := rfl
  have projects : other.ListsProject root ↔ place.ListsProject root := by
    simp only [Place.ListsProject, listed, otherListed]
  refine ⟨searched _ _, analyzed (classified.mpr (.inl projects)), ?_⟩
  obtain ⟨unknown, -⟩ := (@surveys_overlook_excluded ⟨.directory [(".git", .directory [])], []⟩ none root rfl).2
    [(".git", .directory [])] rfl (by decide)
  refine unknown.mpr ?_
  rintro ⟨names, listed, project⟩
  cases listed
  revert project
  decide

/-- A directory that is called like a project file marks its project, though it is excluded. -/
theorem excluded_project_is_told :
    ¬ ∀ (place : Place) (root : Path) (entries : List (Text × Node)),
      place.find root = .ok (.directory entries) →
      (∀ entry ∈ entries, entry.2.shape = .directory ∧ isPruned entry.1 = true) →
      classify place root = .ok .unknown := by
  intro always
  have told := always ⟨.directory [(".sln", .directory [])], []⟩ ⟨.root, []⟩ _ rfl (by decide)
  cases told

end ProjectSurvey
