import ProjectSurvey.Proofs.PlaceAgreement
import ProjectSurvey.Proofs.TreeChange

/-! Making directories. All that an attempt comes to is said once, of one directory and of those above it. A
directory that is there is left alone, one that has been made is there, nothing else is changed, and what could not
be made cannot be made later either. -/

namespace ProjectSurvey.Place

theorem gains_put (place : Place) {location : Location} {node : Node} (file : Option Location)
    (proper : place.tree.isSound = true → parentPart ∉ location) (nodeSound : node.isSound = true)
    (room : location ≠ [] → place.tree.shapeAt? location.dropLast = some .directory)
    (leaf : place.tree.shapeAt? location ≠ some .directory) (bare : node.IsBare)
    (gain : Gain file location (place.tree.shapeAt? location) (some node.shape)) :
    place.Gains { place with tree := place.tree.put location node } file := by
  refine ⟨rfl, fun sound => Node.isSound_put sound (proper sound) nodeSound, ?_⟩
  intro other
  rw [Node.shapeAt?_put room leaf bare]
  split
  · next same => exact same ▸ gain
  · exact .kept _

theorem textFault?_isOfText {path : Path} {fault : Fault} (refused : textFault? path = some fault)
    (nameable : path.IsNameable) : fault.isOfText = false := by
  rcases textFault?_cases refused with ⟨found, _⟩ | ⟨_, rfl⟩
  · cases (Fault.ofText?_eq_none.mpr (Path.isNameable_iff.mp nameable)).symm.trans found
  · rfl

theorem locate_isOfText {place : Place} {toNew : Bool} {path : Path} {fault : Fault}
    (failed : place.locate toNew path = .error fault) (nameable : path.IsNameable) : fault.isOfText = false := by
  rcases locate_fault failed with refused | ⟨_, ofWay⟩
  · exact textFault?_isOfText refused nameable
  · cases fault <;> first | rfl | cases ofWay

variable {place made : Place} {path : Path}

theorem isDirectory_eq_true :
    place.isDirectory path = .ok true ↔ ∃ entries, place.find path = .ok (.directory entries) := by
  simp only [isDirectory, leadsTo]
  cases place.find path with
  | error fault => cases absent : fault.isAbsence <;> simp [absent]
  | ok node => cases node <;> simp

/-- A path that leads to something has a directory above it, in which its last part is unless that leads
out of it. -/
theorem find_above {names : List Text} {name : Text} {anchor : Anchor} {node : Node}
    (found : place.find ⟨anchor, names ++ [name]⟩ = .ok node) :
    ∃ parent entries, place.locate false ⟨anchor, names⟩ = .ok parent ∧
      place.tree.at? parent = some (.directory entries) ∧
      (name = parentPart ∨ (Node.childNamed? entries name).isSome = true) := by
  obtain ⟨location, located, -⟩ := find_eq_ok.mp found
  obtain ⟨accepted, way⟩ := locate_eq_ok.mp located
  have above : textFault? ⟨anchor, names⟩ = none := by
    by_cases named : names = []
    · subst named
      cases anchor <;> decide
    · have descended : textFault? (Path.descend ⟨anchor, names⟩ [name]) = none := accepted
      exact textFault?_of_descend named descended
  obtain ⟨left, onward⟩ := Node.follow_append place.tree linkLimit (startOf place.current anchor)
    (Path.steps ⟨anchor, names⟩)
  have last := onward [Step.ofPart name]
  have steps : Path.steps ⟨anchor, names ++ [name]⟩ = Path.steps ⟨anchor, names⟩ ++ [Step.ofPart name] := by
    simp [Path.steps]
  rw [steps, last] at way
  cases led : place.tree.follow false linkLimit (startOf place.current anchor) (Path.steps ⟨anchor, names⟩) with
  | error fault => rw [led] at way; cases way
  | ok parent =>
    rw [led] at way
    have stepped : place.tree.Reaches false left parent [Step.ofPart name] location := Node.follow_eq_ok.mp way
    obtain ⟨entries, stands⟩ := Node.shapeAt?_directory.mp stepped.directory
    refine ⟨parent, entries, locate_eq_ok.mpr ⟨above, led⟩, stands, ?_⟩
    by_cases up : name = parentPart
    · exact .inl up
    · rw [Step.ofPart, if_neg up] at stepped
      cases stepped with
      | new _ _ _ asked => cases asked
      | enter _ _ inside | link _ _ inside =>
        obtain ⟨child, present, -⟩ := Node.shapeAt?_eq_some.mp inside
        rw [Node.at?_concat stands] at present
        exact .inr (present ▸ rfl)

theorem makeDirectory_of_find {node : Node} (found : place.find path = .ok node) :
    ∃ fault, place.makeDirectory path = .error fault ∧ fault ≠ .missing := by
  obtain ⟨location, located, -⟩ := find_eq_ok.mp found
  have accepted := (locate_eq_ok.mp located).1
  obtain ⟨anchor, parts⟩ := path
  rcases List.eq_nil_or_concat parts with rfl | ⟨names, name, rfl⟩
  · exact ⟨.exists, by simp only [makeDirectory, accepted]; rfl, by decide⟩
  · rw [List.concat_eq_append] at found accepted ⊢
    obtain ⟨parent, entries, above, stands, present⟩ := find_above found
    have parentPath : Path.parent ⟨anchor, names ++ [name]⟩ = ⟨anchor, names⟩ := by simp [Path.parent]
    simp only [makeDirectory, accepted, List.getLast?_concat, parentPath, above, bind, Except.bind, stands]
    split
    · exact ⟨_, rfl, by decide⟩
    · next proper =>
      split
      · exact ⟨_, rfl, by decide⟩
      · obtain ⟨child, found⟩ := Option.isSome_iff_exists.mp (present.resolve_left proper)
        rw [found]
        exact ⟨_, rfl, by decide⟩

/-- All that making a directory comes to: it is put under a new name into the one above it. -/
theorem makeDirectory_eq_ok (done : place.makeDirectory path = .ok made) :
    ∃ names name parent entries, path.parts = names ++ [name] ∧ textFault? path = none ∧
      place.locate false ⟨path.anchor, names⟩ = .ok parent ∧
      place.tree.at? parent = some (.directory entries) ∧ name ≠ parentPart ∧
      systemLength name ≤ nameLimit ∧ Node.childNamed? entries name = none ∧
      made = { place with tree := place.tree.put (parent ++ [name]) (.directory []) } := by
  obtain ⟨anchor, parts⟩ := path
  simp only [makeDirectory] at done
  split at done
  · cases done
  · cases done
  · next name accepted last =>
    obtain ⟨names, rfl⟩ := List.getLast?_eq_some_iff.mp last
    have above : Path.parent ⟨anchor, names ++ [name]⟩ = ⟨anchor, names⟩ := by simp [Path.parent]
    simp only [above, bind, Except.bind] at done
    cases located : place.locate false ⟨anchor, names⟩ with
    | error fault => rw [located] at done; cases done
    | ok parent =>
      simp only [located] at done
      split at done
      · next entries stands =>
        split at done
        · cases done
        next proper =>
        split at done
        · cases done
        next short =>
        split at done
        · cases done
        next absent =>
        cases done
        exact ⟨names, name, parent, entries, rfl, accepted, located, stands, proper, Nat.le_of_not_lt short,
          absent, rfl⟩
      · cases done
      · cases done

theorem makeDirectory_eq_error {fault : Fault} (failed : place.makeDirectory path = .error fault) :
    textFault? path = some fault ∨ place.locate false path.parent = .error fault ∨
      fault ∈ [Fault.exists, .nameTooLong, .notDirectory, .missing] := by
  simp only [makeDirectory] at failed
  split at failed
  · next cause refused =>
    cases failed
    exact .inl refused
  · cases failed
    exact .inr (.inr (by decide))
  · simp only [bind, Except.bind] at failed
    cases located : place.locate false path.parent with
    | error cause =>
      rw [located] at failed
      cases failed
      exact .inr (.inl rfl)
    | ok parent =>
      refine .inr (.inr ?_)
      simp only [located] at failed
      split at failed
      · split at failed
        · cases failed; decide
        split at failed
        · cases failed; decide
        split at failed <;> cases failed
        decide
      · cases failed; decide
      · cases failed; decide

theorem makeDirectory_isOfText {fault : Fault} (failed : place.makeDirectory path = .error fault)
    (nameable : path.IsNameable) : fault.isOfText = false := by
  rcases makeDirectory_eq_error failed with refused | unlocated | known
  · exact textFault?_isOfText refused nameable
  · exact locate_isOfText unlocated fun part member => nameable part ((List.dropLast_sublist _).subset member)
  · have others : ∀ fault ∈ [Fault.exists, .nameTooLong, .notDirectory, .missing], fault.isOfText = false := by decide
    exact others fault known

theorem makeDirectory_gains (done : place.makeDirectory path = .ok made) : place.Gains made none := by
  obtain ⟨names, name, parent, entries, -, -, -, stands, proper, -, absent, rfl⟩ := makeDirectory_eq_ok done
  have vacant : place.tree.shapeAt? (parent ++ [name]) = none := by
    rw [Node.shapeAt?, Node.at?_concat stands, absent]
    rfl
  refine gains_put place none ?_ (by decide) ?_ (by simp [vacant]) Node.isBare_directory (vacant ▸ .made)
  · intro sound
    simp only [List.mem_append, List.mem_singleton, not_or]
    exact ⟨Node.parentPart_not_mem_of_at? sound stands, Ne.symm proper⟩
  · intro _
    rw [List.dropLast_concat]
    exact Node.shapeAt?_directory.mpr ⟨entries, stands⟩

theorem makeDirectory_find (done : place.makeDirectory path = .ok made) :
    ∃ entries, made.find path = .ok (.directory entries) := by
  have gains := makeDirectory_gains done
  obtain ⟨names, name, parent, entries, parts, accepted, located, stands, proper, short, absent, rfl⟩ :=
    makeDirectory_eq_ok done
  have below : Path.descend ⟨path.anchor, names⟩ [name] = path := by rw [Path.descend, ← parts]
  have vacant : place.tree.shapeAt? (parent ++ [name]) = none := by
    rw [Node.shapeAt?, Node.at?_concat stands, absent]
    rfl
  have room : parent ++ [name] ≠ [] → place.tree.shapeAt? (parent ++ [name]).dropLast = some .directory := by
    intro _
    rw [List.dropLast_concat]
    exact Node.shapeAt?_directory.mpr ⟨entries, stands⟩
  have new : (place.tree.put (parent ++ [name]) (.directory [])).shapeAt? (parent ++ [name]) =
      some .directory := by
    rw [Node.shapeAt?_put room (by simp [vacant]) Node.isBare_directory, if_pos rfl]
    rfl
  obtain ⟨inner, there⟩ := Node.shapeAt?_directory.mp new
  have short : AreShort [name] := List.forall_mem_singleton.mpr short
  refine ⟨inner, find_eq_ok.mpr ⟨parent ++ [name], ?_, there⟩⟩
  rw [← below, locate_descend (gains.locate_ok located) there (fun _ same => Node.noConfusion same)
    (by simpa using Ne.symm proper) (by rwa [below]), if_pos short]

/-- An attempt to make a directory, unless it is there. -/
def makeOnce (place : Place) (path : Path) : Attempt :=
  place.settleMaking path (place.makeDirectory path)

theorem makeOnce_cases (place : Place) (path : Path) :
    (∃ made, place.makeDirectory path = .ok made ∧ place.makeOnce path = (made, none)) ∨
      ∃ fault, place.makeDirectory path = .error fault ∧
        ((∃ entries, place.find path = .ok (.directory entries)) ∧ place.makeOnce path = (place, none) ∨
          place.makeOnce path = (place, some ⟨fault, path⟩)) := by
  cases attempted : place.makeDirectory path with
  | ok made => exact .inl ⟨made, rfl, by rw [makeOnce, attempted, settleMaking]⟩
  | error fault =>
    refine .inr ⟨fault, rfl, ?_⟩
    rw [makeOnce, attempted, settleMaking]
    split
    · next there => exact .inl ⟨isDirectory_eq_true.mp there, rfl⟩
    · exact .inr rfl

theorem makeOnce_done (done : place.makeOnce path = (made, none)) :
    ∃ entries, made.find path = .ok (.directory entries) := by
  obtain ⟨_, new, same⟩ | ⟨_, _, ⟨there, same⟩ | same⟩ := place.makeOnce_cases path <;> cases done.symm.trans same
  · exact makeDirectory_find new
  · exact there

theorem makeOnce_failed {failure : Failure} (failed : (place.makeOnce path).2 = some failure) :
    place.makeOnce path = (place, some failure) ∧ place.makeDirectory path = .error failure.fault := by
  obtain ⟨_, _, same⟩ | ⟨_, refused, ⟨_, same⟩ | same⟩ := place.makeOnce_cases path <;>
    rw [same] at failed ⊢ <;> cases failed
  exact ⟨rfl, refused⟩

theorem makeOnce_gains (place : Place) (path : Path) : place.Gains (place.makeOnce path).1 none := by
  obtain ⟨_, new, same⟩ | ⟨_, _, ⟨_, same⟩ | same⟩ := place.makeOnce_cases path <;> rw [same]
  · exact makeDirectory_gains new
  · exact .refl place none
  · exact .refl place none

/-- What is missing is not there. -/
theorem makeOnce_missing (missing : place.makeDirectory path = .error .missing) :
    place.makeOnce path = (place, some ⟨.missing, path⟩) := by
  obtain ⟨_, new, _⟩ | ⟨_, refused, ⟨⟨_, there⟩, _⟩ | same⟩ := place.makeOnce_cases path
  · cases missing.symm.trans new
  · obtain ⟨_, again, other⟩ := makeDirectory_of_find there
    cases missing.symm.trans again
    exact absurd rfl other
  · cases missing.symm.trans refused
    exact same

theorem makeOnce_present {entries : List (Text × Node)} (found : place.find path = .ok (.directory entries)) :
    place.makeDirectory path ≠ .error .missing ∧ place.makeOnce path = (place, none) := by
  obtain ⟨fault, refused, present⟩ := makeDirectory_of_find found
  refine ⟨fun missing => ?_, ?_⟩
  · cases refused.symm.trans missing
    exact present rfl
  · rw [makeOnce, refused]
    simp only [settleMaking, isDirectory_eq_true.mpr ⟨entries, found⟩]

theorem makeOnce_above {anchor : Anchor} {names : List Text} {name : Text}
    (done : place.makeOnce ⟨anchor, names ++ [name]⟩ = (made, none)) :
    ∃ entries, place.find ⟨anchor, names⟩ = .ok (.directory entries) := by
  obtain ⟨_, new, same⟩ | ⟨_, _, ⟨⟨_, there⟩, same⟩ | same⟩ := place.makeOnce_cases ⟨anchor, names ++ [name]⟩
  · obtain ⟨_, _, parent, entries, parts, -, located, stands, -⟩ := makeDirectory_eq_ok new
    obtain ⟨rfl, -⟩ := List.append_inj' parts rfl
    exact ⟨entries, find_eq_ok.mpr ⟨parent, located, stands⟩⟩
  · obtain ⟨parent, entries, located, stands, -⟩ := find_above there
    exact ⟨entries, find_eq_ok.mpr ⟨parent, located, stands⟩⟩
  · cases done.symm.trans same

variable {anchor : Anchor} {backwards : List Text} {attempt : Attempt}

/-- All that making the directory at the parts given backwards comes to. Only where the one above it is missing is
that made first, and then there is a second attempt. -/
inductive MakesDirectories (anchor : Anchor) : List Text → Place → Attempt → Prop
  | once {backwards : List Text} {place : Place}
    (above : backwards ≠ [] → place.makeDirectory ⟨anchor, backwards.reverse⟩ ≠ .error .missing) :
    MakesDirectories anchor backwards place (place.makeOnce ⟨anchor, backwards.reverse⟩)
  | stopped {name : Text} {backwards : List Text} {place between : Place} {failure : Failure}
    (missing : place.makeDirectory ⟨anchor, (name :: backwards).reverse⟩ = .error .missing)
    (above : MakesDirectories anchor backwards place (between, some failure)) :
    MakesDirectories anchor (name :: backwards) place (between, some failure)
  | again {name : Text} {backwards : List Text} {place between : Place}
    (missing : place.makeDirectory ⟨anchor, (name :: backwards).reverse⟩ = .error .missing)
    (above : MakesDirectories anchor backwards place (between, none)) :
    MakesDirectories anchor (name :: backwards) place (between.makeOnce ⟨anchor, (name :: backwards).reverse⟩)

theorem makesDirectories (anchor : Anchor) (backwards : List Text) (place : Place) :
    MakesDirectories anchor backwards place (makeDirectoriesAt anchor backwards place) := by
  induction backwards generalizing place with
  | nil => exact .once (absurd rfl)
  | cons name above ih =>
    rw [makeDirectoriesAt]
    split
    · next missing =>
      have outer := ih place
      split
      · next between failure stopped =>
        rw [stopped] at outer
        exact .stopped missing outer
      · next between done =>
        rw [done] at outer
        split
        · next still => exact makeOnce_missing still ▸ .again missing outer
        · exact .again missing outer
    · next present => exact .once fun _ => present

namespace MakesDirectories

theorem unique {other : Attempt} (makes : MakesDirectories anchor backwards place attempt)
    (also : MakesDirectories anchor backwards place other) : attempt = other := by
  induction makes generalizing other with
  | once above =>
    cases also with
    | once _ => rfl
    | stopped missing _ | again missing _ => exact absurd missing (above (List.cons_ne_nil _ _))
  | stopped missing _ ih =>
    cases also with
    | once above => exact absurd missing (above (List.cons_ne_nil _ _))
    | stopped _ outer => exact ih outer
    | again _ outer => cases ih outer
  | again missing _ ih =>
    cases also with
    | once above => exact absurd missing (above (List.cons_ne_nil _ _))
    | stopped _ outer => cases ih outer
    | again _ outer => cases ih outer; rfl

theorem gains (makes : MakesDirectories anchor backwards place attempt) : place.Gains attempt.1 none := by
  induction makes with
  | once _ => exact makeOnce_gains _ _
  | stopped _ _ ih => exact ih
  | again _ _ ih => exact ih.trans (makeOnce_gains _ _)

theorem isOfText (makes : MakesDirectories anchor backwards place attempt)
    (nameable : Path.IsNameable ⟨anchor, backwards.reverse⟩) {failure : Failure}
    (failed : attempt.2 = some failure) : failure.fault.isOfText = false := by
  have last {between : Place} {path : Path} (nameable : path.IsNameable)
      (failed : (between.makeOnce path).2 = some failure) : failure.fault.isOfText = false :=
    makeDirectory_isOfText (makeOnce_failed failed).2 nameable
  induction makes with
  | once _ => exact last nameable failed
  | stopped _ _ ih =>
    refine ih (fun part member => nameable part ?_) failed
    rw [List.reverse_cons]
    exact List.mem_append_left _ member
  | again _ _ _ => exact last nameable failed

theorem of_find {entries : List (Text × Node)}
    (found : place.find ⟨anchor, backwards.reverse⟩ = .ok (.directory entries)) :
    MakesDirectories anchor backwards place (place, none) := by
  obtain ⟨present, once⟩ := makeOnce_present found
  exact once ▸ .once fun _ => present

theorem find (makes : MakesDirectories anchor backwards place (made, none)) :
    ∃ entries, made.find ⟨anchor, backwards.reverse⟩ = .ok (.directory entries) := by
  generalize outcome : (made, none) = attempt at makes
  cases makes with
  | once _ | again _ _ => exact makeOnce_done outcome.symm
  | stopped _ _ => cases outcome

/-- What could not be made cannot be made at the place that the attempt has left. -/
theorem fails_again {failure : Failure} (makes : MakesDirectories anchor backwards place attempt)
    (failed : attempt.2 = some failure) :
    ∃ later cause, MakesDirectories anchor backwards attempt.1 (later, some cause) := by
  induction makes generalizing failure with
  | @once backwards place above =>
    obtain ⟨same, -⟩ := makeOnce_failed failed
    have once := MakesDirectories.once above
    rw [same] at once ⊢
    exact ⟨place, failure, once⟩
  | @stopped name backwards _ between _ _ _ ih =>
    obtain ⟨later, cause, stopped⟩ := ih rfl
    by_cases missing : between.makeDirectory ⟨anchor, (name :: backwards).reverse⟩ = .error .missing
    · exact ⟨later, cause, .stopped missing stopped⟩
    · cases attempted : between.makeOnce ⟨anchor, (name :: backwards).reverse⟩ with
      | mk last outcome =>
        cases outcome with
        | some cause => exact ⟨last, cause, attempted ▸ .once fun _ => missing⟩
        | none =>
          rw [List.reverse_cons] at attempted
          obtain ⟨_, there⟩ := makeOnce_above attempted
          cases stopped.unique (of_find there)
  | @again name backwards _ between _ outer _ =>
    obtain ⟨same, -⟩ := makeOnce_failed failed
    obtain ⟨_, there⟩ := outer.find
    have further : MakesDirectories anchor (name :: backwards) between
        (between.makeOnce ⟨anchor, (name :: backwards).reverse⟩) := by
      by_cases missing : between.makeDirectory ⟨anchor, (name :: backwards).reverse⟩ = .error .missing
      · exact .again missing (of_find there)
      · exact .once fun _ => missing
    rw [same] at further ⊢
    exact ⟨between, failure, further⟩

end MakesDirectories

theorem makeDirectoriesAt_eq_iff :
    makeDirectoriesAt anchor backwards place = attempt ↔ MakesDirectories anchor backwards place attempt := by
  constructor
  · rintro rfl
    exact makesDirectories anchor backwards place
  · exact (makesDirectories anchor backwards place).unique

theorem makeDirectories_eq_iff :
    place.makeDirectories path = attempt ↔ MakesDirectories path.anchor path.parts.reverse place attempt :=
  makeDirectoriesAt_eq_iff

/-- A directory that no path can name is refused before anything is made. -/
theorem makeDirectories_unnameable (place : Place) {path : Path} (refused : ¬ path.IsNameable) :
    ∃ failure, place.makeDirectories path = (place, some failure) ∧ failure.fault.isOfText = true := by
  have faulty : ∃ fault, Fault.ofText? path.toText = some fault := by
    rw [Fault.ofText?_eq_some]
    simpa [Path.isNameable_iff] using refused
  obtain ⟨fault, faulty⟩ := faulty
  have ofText := Fault.isOfText_of_ofText? faulty
  have fails := textFault?_of_ofText? faulty
  have made : place.makeDirectory path = .error fault := by simp only [makeDirectory, fails]
  have settled : place.settleMaking path (.error fault) = (place, some ⟨fault, path⟩) := by
    have missing := find_of_textFault? place fails
    cases fault <;> first | (cases ofText; done) |
      simp [settleMaking, isDirectory, leadsTo, missing, Fault.isAbsence]
  refine ⟨⟨fault, path⟩, ?_, ofText⟩
  rw [← settled]
  obtain ⟨anchor, parts⟩ := path
  simp only [makeDirectories]
  cases backwards : parts.reverse with
  | nil =>
    have empty := List.reverse_eq_nil_iff.mp backwards
    subst empty
    simp only [makeDirectoriesAt, made]
  | cons name above =>
    have same : (name :: above).reverse = parts := by rw [← backwards, List.reverse_reverse]
    simp only [makeDirectoriesAt, same, made]
    cases fault <;> first | (cases ofText; done) | rfl

end ProjectSurvey.Place
