import ProjectSurvey.Proofs.PathLookup

/-! Changing a tree at one place: it stays sound, and nothing changes elsewhere. From this come the
effects of making directories and of adding to files. -/

namespace ProjectSurvey

namespace Node

theorem setEntry_names (entries : List (Text × Node)) (name : Text) (node : Node) :
    (setEntry entries name node).map (·.1) =
      if name ∈ entries.map (·.1) then entries.map (·.1) else entries.map (·.1) ++ [name] := by
  have known : entries.any (·.1 == name) = true ↔ name ∈ entries.map (·.1) := by
    simp [List.any_eq_true]
  by_cases present : name ∈ entries.map (·.1)
  · simp only [setEntry, known.mpr present, ite_true, present, List.map_map]
    apply List.map_congr_left
    intro entry _
    by_cases same : entry.1 = name <;> simp [same]
  · simp only [setEntry, Bool.not_eq_true _ ▸ mt known.mp present, Bool.false_eq_true, ite_false,
      present, List.map_append, List.map_cons, List.map_nil]

theorem mem_setEntry {entries : List (Text × Node)} {name : Text} {node : Node} {entry : Text × Node}
    (member : entry ∈ setEntry entries name node) : entry = (name, node) ∨ entry ∈ entries := by
  simp only [setEntry] at member
  split at member
  · obtain ⟨old, inside, same⟩ := List.mem_map.mp member
    split at same
    · exact .inl same.symm
    · exact .inr (same ▸ inside)
  · rcases List.mem_append.mp member with inside | added
    · exact .inr inside
    · exact .inl (List.mem_singleton.mp added)

theorem isSound_setEntry {entries : List (Text × Node)} (sound : (directory entries).isSound = true)
    {name : Text} (proper : name ≠ parentPart) {node : Node} (nodeSound : node.isSound = true) :
    (directory (setEntry entries name node)).isSound = true := by
  obtain ⟨distinct, inner⟩ := isSound_directory.mp sound
  refine isSound_directory.mpr ⟨?_, ?_⟩
  · rw [setEntry_names]
    split
    · exact distinct
    · next absent =>
      exact List.nodup_append.mpr ⟨distinct, List.nodup_singleton _, fun a inside b last same =>
        absent ((List.mem_singleton.mp last) ▸ same ▸ inside)⟩
  · intro entry member
    rcases mem_setEntry member with rfl | inside
    · exact ⟨proper, nodeSound⟩
    · exact inner entry inside

theorem childNamed_setEntry (entries : List (Text × Node)) (name : Text) (node : Node) (other : Text) :
    childNamed? (setEntry entries name node) other =
      if other = name then some node else childNamed? entries other := by
  by_cases known : entries.any (·.1 == name) = true
  · have names : ((fun entry : Text × Node => entry.1 == other) ∘
        fun entry => if entry.1 = name then (name, node) else entry) = (·.1 == other) := by
      funext entry
      by_cases same : entry.1 = name <;> simp [same]
    simp only [setEntry, known, ite_true, childNamed?, beq_iff_eq, List.find?_map, names]
    cases found : entries.find? (·.1 == other) with
    | none =>
      have differs : other ≠ name := by
        rintro rfl
        obtain ⟨entry, member, same⟩ := List.any_eq_true.mp known
        exact List.find?_eq_none.mp found entry member same
      simp [differs]
    | some entry =>
      have called : entry.1 = other := by simpa using List.find?_some found
      by_cases same : other = name <;> simp [called, same]
  · simp only [setEntry, known, Bool.false_eq_true, ite_false, childNamed?, List.find?_append]
    by_cases same : other = name
    · subst same
      have absent : entries.find? (·.1 == other) = none := by
        rw [List.find?_eq_none]
        intro entry member present
        exact known (List.any_eq_true.mpr ⟨entry, member, present⟩)
      simp [absent]
    · simp [same, Ne.symm same]

theorem isSound_put {tree : Node} (sound : tree.isSound = true) {location : Location}
    (proper : parentPart ∉ location) {node : Node} (nodeSound : node.isSound = true) :
    (tree.put location node).isSound = true := by
  induction location generalizing tree with
  | nil => simpa only [put] using nodeSound
  | cons name rest ih =>
    simp only [List.mem_cons, not_or] at proper
    cases tree with
    | file content => cases rest <;> simpa only [put] using sound
    | link target => cases rest <;> simpa only [put] using sound
    | directory entries =>
      cases rest with
      | nil =>
        simp only [put]
        exact isSound_setEntry sound (Ne.symm proper.1) nodeSound
      | cons next rest =>
        simp only [put]
        cases present : childNamed? entries name with
        | none => exact sound
        | some child =>
          have inner := ((isSound_directory.mp sound).2 _ (mem_of_childNamed present)).2
          exact isSound_setEntry sound (Ne.symm proper.1) (ih inner proper.2)

/-- Whether nothing is inside an object. -/
def IsBare (node : Node) : Prop :=
  ∀ name location, node.at? (name :: location) = none

theorem isBare_file (content : Bytes) : (file content).IsBare :=
  fun _ _ => rfl

theorem isBare_directory : (directory []).IsBare :=
  fun _ _ => rfl

/-- Putting an object where there is no directory changes the tree there only. -/
theorem shapeAt?_put {tree node : Node} {location : Location}
    (room : location ≠ [] → tree.shapeAt? location.dropLast = some .directory)
    (leaf : tree.shapeAt? location ≠ some .directory) (bare : node.IsBare) (other : Location) :
    (tree.put location node).shapeAt? other =
      if other = location then some node.shape else tree.shapeAt? other := by
  induction location generalizing tree other with
  | nil =>
    cases other with
    | nil => simp [put, shapeAt?]
    | cons name rest =>
      cases tree with
      | directory entries => exact False.elim (leaf rfl)
      | file content => simp [put, shapeAt?, bare name rest]
      | link target => simp [put, shapeAt?, bare name rest]
  | cons name rest ih =>
    obtain ⟨entries, rfl⟩ : ∃ entries, tree = directory entries := by
      obtain ⟨inner, above⟩ := shapeAt?_directory.mp (room (List.cons_ne_nil _ _))
      cases tree with
      | directory entries => exact ⟨entries, rfl⟩
      | file content => cases rest <;> cases above
      | link target => cases rest <;> cases above
    cases rest with
    | nil =>
      cases other with
      | nil => simp [put, shapeAt?, shape]
      | cons first below =>
        simp only [put, shapeAt?, at?_directory, childNamed_setEntry]
        by_cases same : first = name
        · subst same
          cases below with
          | nil => simp
          | cons next below =>
            have nothing : (directory entries).at? ([first] ++ next :: below) = none := by
              by_contra something
              obtain ⟨child, stands⟩ := Option.ne_none_iff_exists'.mp something
              exact leaf (shapeAt?_directory.mpr (directory_of_at?_append stands))
            simp only [List.singleton_append, at?_directory] at nothing
            simp [bare next below, nothing]
        · simp [same]
    | cons next rest =>
      have above := room (List.cons_ne_nil _ _)
      simp only [List.dropLast_cons_cons, shapeAt?, at?_directory] at above
      cases entered : childNamed? entries name with
      | none => rw [entered] at above; cases above
      | some child =>
        have inner := ih (by simpa [shapeAt?, entered] using above)
          (by simpa [shapeAt?, entered] using leaf)
        cases other with
        | nil => simp [put, entered, shapeAt?, shape]
        | cons first below =>
          simp only [put, entered, shapeAt?, at?_directory, childNamed_setEntry]
          by_cases same : first = name
          · subst same
            have deeper := inner below
            simp only [shapeAt?] at deeper
            simp [deeper, entered]
          · simp [same]

end Node

/-- Whether no step enters a directory under the name that leads out of it. -/
def Step.AreProper (steps : List Step) : Prop :=
  ∀ name, Step.enter name ∈ steps → name ≠ parentPart

namespace Step

theorem ofPart_proper {part name : Text} (enters : ofPart part = .enter name) : name ≠ parentPart := by
  simp only [ofPart] at enters
  split at enters
  · cases enters
  · next differs => cases enters; exact differs

theorem AreProper.rest {step : Step} {steps : List Step} (proper : AreProper (step :: steps)) :
    AreProper steps :=
  fun name member => proper name (List.mem_cons_of_mem _ member)

theorem areProper_path (path : Path) : AreProper path.steps := by
  intro name member
  obtain ⟨part, _, enters⟩ := List.mem_map.mp member
  exact ofPart_proper enters

theorem areProper_target (target : Text) : AreProper (ofTarget target) := by
  intro name member
  have inside : ∀ part, (if part = ".".toList then Step.stay else ofPart part) = .enter name →
      name ≠ parentPart := by
    intro part enters
    split at enters
    · cases enters
    · exact ofPart_proper enters
  simp only [ofTarget] at member
  split at member
  · rcases List.mem_append.mp member with within | last
    · obtain ⟨part, _, enters⟩ := List.mem_map.mp within
      exact inside part enters
    · cases List.mem_singleton.mp last
  · obtain ⟨part, _, enters⟩ := List.mem_map.mp member
    exact inside part enters

end Step

namespace Node

/-- Whether a location is that of an object, or of a new one in a directory that is there. -/
def Opens (tree : Node) (location : Location) : Prop :=
  (tree.at? location).isSome = true ∨
    ∃ above name, location = above ++ [name] ∧ tree.shapeAt? above = some .directory ∧
      name ≠ parentPart

theorem Opens.noParent {tree : Node} (sound : tree.isSound = true) {location : Location}
    (opens : tree.Opens location) : parentPart ∉ location := by
  rcases opens with stands | ⟨above, name, rfl, directory, proper⟩
  · obtain ⟨node, stands⟩ := Option.isSome_iff_exists.mp stands
    exact parentPart_not_mem_of_at? sound stands
  · obtain ⟨entries, stands⟩ := shapeAt?_directory.mp directory
    simp only [List.mem_append, List.mem_singleton, not_or]
    exact ⟨parentPart_not_mem_of_at? sound stands, Ne.symm proper⟩

theorem Opens.room {tree : Node} {location : Location} (opens : tree.Opens location)
    (named : location ≠ []) : tree.shapeAt? location.dropLast = some .directory := by
  rcases opens with stands | ⟨above, name, rfl, directory, _⟩
  · obtain ⟨node, stands⟩ := Option.isSome_iff_exists.mp stands
    rw [← List.dropLast_append_getLast named] at stands
    exact shapeAt?_directory.mpr (directory_of_at?_append stands)
  · rwa [List.dropLast_concat]

private theorem above_isSome {tree : Node} {location : Location}
    (stands : (tree.at? location).isSome = true) : (tree.at? location.dropLast).isSome = true := by
  by_cases named : location = []
  · subst named; exact stands
  · obtain ⟨node, stands⟩ := Option.isSome_iff_exists.mp stands
    rw [← List.dropLast_append_getLast named] at stands
    obtain ⟨entries, above⟩ := directory_of_at?_append stands
    exact above ▸ rfl

private theorem isSome_of_shapeAt? {tree : Node} {location : Location} {shape : Shape}
    (stands : tree.shapeAt? location = some shape) : (tree.at? location).isSome = true := by
  obtain ⟨node, stands, -⟩ := shapeAt?_eq_some.mp stands
  exact stands ▸ rfl

/-- A path leads to an object, or to a new name in an existing directory. -/
theorem follow_opens (tree : Node) (toNew : Bool) (links : Nat) (here : Location) (steps : List Step)
    {there : Location} (proper : Step.AreProper steps)
    (start : (tree.at? here).isSome = true ∨ steps ≠ [])
    (reached : tree.follow toNew links here steps = .ok there) : tree.Opens there := by
  rw [follow_eq_ok] at reached
  induction reached with
  | done => exact .inl (start.resolve_right fun impossible => impossible rfl)
  | stay directory _ ih => exact ih proper.rest (.inl (isSome_of_shapeAt? directory))
  | up directory _ ih => exact ih proper.rest (.inl (above_isSome (isSome_of_shapeAt? directory)))
  | @new _ here name directory =>
    exact .inr ⟨here, name, rfl, directory, proper name List.mem_cons_self⟩
  | enter _ _ stands _ _ ih => exact ih proper.rest (.inl (isSome_of_shapeAt? stands))
  | link directory _ stands _ ih =>
    refine ih ?_ (.inl ?_)
    · intro name member
      rcases List.mem_append.mp member with within | later
      · exact Step.areProper_target _ name within
      · exact proper.rest name later
    · rw [startOf]
      split
      · exact isSome_of_shapeAt? directory
      · rfl

end Node

end ProjectSurvey
