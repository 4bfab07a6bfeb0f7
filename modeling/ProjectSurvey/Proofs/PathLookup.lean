import ProjectSurvey.Proofs.PathResolution
import ProjectSurvey.Proofs.PathText

/-! What paths lead to in a place: the faults of a lookup, and paths that go on below one that leads
to a directory. -/

namespace ProjectSurvey

namespace Place

theorem hasCurrent_eq (place : Place) : place.hasCurrent = (place.tree.shapeAt? place.current).isSome :=
  Option.isSome_map.symm

theorem workingDirectory_eq_ok {place : Place} {path : Path} :
    place.workingDirectory = .ok path ↔ place.hasCurrent = true ∧ place.currentPath = path := by
  rw [workingDirectory]
  cases place.hasCurrent <;> simp

theorem absolute_isAbsolute {place : Place} {path found : Path} (done : place.absolute path = .ok found) :
    found.isAbsolute = true := by
  rw [absolute] at done
  split at done
  · next away =>
    cases done
    simpa [Path.isAbsolute] using away
  · split at done
    · cases done
      rfl
    · cases done

theorem locate_eq_ok {place : Place} {toNew : Bool} {path : Path} {location : Location} :
    place.locate toNew path = .ok location ↔ textFault? path = none ∧
      place.tree.follow toNew linkLimit (startOf place.current path.anchor) path.steps =
        .ok location := by
  simp only [locate]
  cases textFault? path <;> simp

theorem locate_fault {place : Place} {toNew : Bool} {path : Path} {fault : Fault}
    (failed : place.locate toNew path = .error fault) :
    textFault? path = some fault ∨ (textFault? path = none ∧ fault.isOfWay = true) := by
  simp only [locate] at failed
  cases refused : textFault? path with
  | some cause => simp only [refused] at failed; cases failed; exact .inl rfl
  | none =>
    simp only [refused] at failed
    exact .inr ⟨rfl, Node.follow_fault _ _ _ _ _ failed⟩

theorem find_eq_ok {place : Place} {path : Path} {node : Node} :
    place.find path = .ok node ↔ ∃ location, place.locate false path = .ok location ∧
      place.tree.at? location = some node := by
  simp only [find, bind, Except.bind]
  cases place.locate false path with
  | error fault => simp
  | ok location =>
    simp only [Except.ok.injEq]
    cases standing : place.tree.at? location <;> simp [standing]

theorem find_fault {place : Place} {path : Path} {fault : Fault}
    (failed : place.find path = .error fault) :
    textFault? path = some fault ∨ (textFault? path = none ∧ fault.isOfWay = true) := by
  simp only [find, bind, Except.bind] at failed
  cases located : place.locate false path with
  | error cause =>
    rw [located] at failed
    cases failed
    exact locate_fault located
  | ok location =>
    simp only [located] at failed
    split at failed <;> cases failed
    exact .inr ⟨(locate_eq_ok.mp located).1, rfl⟩

theorem find_of_textFault? (place : Place) {path : Path} {fault : Fault}
    (refused : textFault? path = some fault) : place.find path = .error fault := by
  simp only [find, locate, refused, bind, Except.bind]

/-- A lookup is refused for the characters of its path alone. -/
theorem find_isOfText {place : Place} {path : Path} {fault : Fault}
    (failed : place.find path = .error fault) :
    fault.isOfText = true ↔ Fault.ofText? path.toText = some fault := by
  refine ⟨?_, Fault.isOfText_of_ofText?⟩
  intro ofText
  rcases find_fault failed with refused | ⟨_, ofWay⟩
  · rcases textFault?_cases refused with ⟨found, _⟩ | ⟨_, rfl⟩
    · exact found
    · cases ofText
  · cases fault <;> first | cases ofText; done | cases ofWay

/-- A lookup that does not come to nothing and still fails does so for the length of a name. -/
theorem find_not_absence {place : Place} {path : Path} {fault : Fault}
    (failed : place.find path = .error fault) :
    fault.isAbsence = false ↔ fault = .nameTooLong := by
  constructor
  · intro present
    rcases find_fault failed with refused | ⟨_, ofWay⟩
    · rcases textFault?_cases refused with ⟨_, ofText⟩ | ⟨_, rfl⟩
      · cases fault <;> first | cases ofText; done | cases present
      · rfl
    · cases fault <;> first | rfl | cases ofWay; done | cases present
  · rintro rfl; rfl

theorem isFile_eq_true {place : Place} {path : Path} :
    place.isFile path = .ok true ↔ ∃ content, place.find path = .ok (.file content) := by
  simp only [isFile, leadsTo]
  cases place.find path with
  | error fault => cases absent : fault.isAbsence <;> simp [absent]
  | ok node => cases node <;> simp

/-- Whether a path leads to a regular file cannot be told only where a name is too long. -/
theorem isFile_eq_error {place : Place} {path : Path} {fault : Fault} :
    place.isFile path = .error fault ↔ fault = .nameTooLong ∧ place.find path = .error fault := by
  simp only [isFile, leadsTo]
  cases found : place.find path with
  | ok node => cases node <;> simp
  | error cause =>
    have known := find_not_absence found
    by_cases absent : cause.isAbsence = true
    · simp only [absent, ite_true, reduceCtorEq, Except.error.injEq, false_iff, not_and]
      rintro rfl rfl
      cases absent
    · have long := known.mp (Bool.not_eq_true _ ▸ absent)
      simp only [absent, Bool.false_eq_true, ite_false, Except.error.injEq]
      exact ⟨fun same => ⟨same ▸ long, same⟩, fun same => same.2⟩

theorem list_isOk {place : Place} {path : Path} :
    (place.list path).isOk = true ↔ ∃ entries, place.find path = .ok (.directory entries) := by
  simp only [list]
  cases place.find path with
  | error fault => simp [Except.isOk, Except.toBool]
  | ok node => cases node <;> simp [Except.isOk, Except.toBool]

theorem sound_of_find {place : Place} (sound : place.tree.isSound = true) {path : Path} {node : Node}
    (found : place.find path = .ok node) : node.isSound = true := by
  obtain ⟨_, _, stands⟩ := find_eq_ok.mp found
  exact Node.isSound_of_at? sound stands

theorem descend_descend (path : Path) (names more : List Text) :
    (path.descend names).descend more = path.descend (names ++ more) := by
  simp only [Path.descend, List.append_assoc]

theorem textFault?_of_descend_names {path : Path} (named : path.parts ≠ []) {names : List Text}
    (accepted : textFault? (path.descend names) = none) : textFault? path = none := by
  induction names generalizing path with
  | nil => simpa only [Path.descend, List.append_nil] using accepted
  | cons name names ih =>
    rw [← List.singleton_append, ← descend_descend] at accepted
    exact textFault?_of_descend named (ih (by simp [Path.descend]) accepted)

theorem descend_dropLast (path : Path) {names : List Text} (named : names ≠ []) :
    (path.descend names.dropLast).descend [names.getLast named] = path.descend names := by
  rw [descend_descend, List.dropLast_append_getLast]

theorem descend_steps (path : Path) (names : List Text) :
    (path.descend names).steps = path.steps ++ names.map Step.ofPart := by
  simp only [Path.steps, Path.descend, List.map_append]

/-- A path that goes on along names of real directories leads to what stands there, unless one of
them is too long. -/
theorem locate_descend {place : Place} {root : Path} {here : Location} {node : Node} {names : List Text}
    (located : place.locate false root = .ok here) (standing : place.tree.at? (here ++ names) = some node)
    (real : ∀ target, node ≠ .link target) (noParent : parentPart ∉ names)
    (accepted : textFault? (root.descend names) = none) :
    place.locate false (root.descend names) =
      if AreShort names then .ok (here ++ names) else .error .nameTooLong := by
  obtain ⟨left, onward⟩ := Node.follow_append place.tree linkLimit
    (startOf place.current root.anchor) root.steps
  have steps := onward (names.map Step.ofPart)
  rw [(locate_eq_ok.mp located).2] at steps
  simp only [locate, accepted, descend_steps]
  exact steps.trans (Node.follow_names place.tree false left names here standing real noParent)

theorem find_descend {place : Place} {root : Path} {base node : Node} {names : List Text}
    (found : place.find root = .ok base) (standing : base.at? names = some node)
    (real : ∀ target, node ≠ .link target) (noParent : parentPart ∉ names)
    (accepted : textFault? (root.descend names) = none) :
    place.find (root.descend names) = if AreShort names then .ok node else .error .nameTooLong := by
  obtain ⟨here, located, stands⟩ := find_eq_ok.mp found
  have deeper : place.tree.at? (here ++ names) = some node := by
    rw [Node.at?_append, stands]; exact standing
  have leads := locate_descend located deeper real noParent accepted
  split at leads
  · next short => rw [if_pos short]; exact find_eq_ok.mpr ⟨_, leads, deeper⟩
  · next long => rw [if_neg long]; simp only [find, leads, bind, Except.bind]

/-- Whatever a path along names of real directories leads to is what stands there. -/
theorem eq_of_find_descend {place : Place} {root : Path} {base node object : Node} {names : List Text}
    (found : place.find root = .ok base) (standing : base.at? names = some node)
    (real : ∀ target, node ≠ .link target) (noParent : parentPart ∉ names)
    (inner : place.find (root.descend names) = .ok object) : object = node := by
  obtain ⟨_, located, -⟩ := find_eq_ok.mp inner
  rw [find_descend found standing real noParent (locate_eq_ok.mp located).1] at inner
  split at inner <;> cases inner
  rfl

/-- Whether a real directory below one that a path leads to can be listed is a matter of its names. -/
theorem list_descend_isOk {place : Place} {root : Path} {base : Node} {names : List Text}
    {entries : List (Text × Node)} (found : place.find root = .ok base)
    (standing : base.at? names = some (.directory entries)) (noParent : parentPart ∉ names) :
    (place.list (root.descend names)).isOk = true ↔
      textFault? (root.descend names) = none ∧ AreShort names := by
  rw [list_isOk]
  cases refused : textFault? (root.descend names) with
  | some fault => simp [find_of_textFault? place refused]
  | none =>
    rw [find_descend found standing (fun _ impossible => by cases impossible) noParent refused]
    by_cases short : AreShort names <;> simp [short]

theorem locate_descend_error {place : Place} {path : Path} {fault : Fault} {name : Text}
    (failed : place.locate false path = .error fault) (accepted : textFault? path = none)
    (further : textFault? (path.descend [name]) = none) :
    place.locate false (path.descend [name]) = .error fault := by
  obtain ⟨left, onward⟩ := Node.follow_append place.tree linkLimit
    (startOf place.current path.anchor) path.steps
  simp only [locate, accepted] at failed
  simp only [locate, further, descend_steps]
  exact (onward _).trans (by rw [failed]; rfl)

end Place

end ProjectSurvey
