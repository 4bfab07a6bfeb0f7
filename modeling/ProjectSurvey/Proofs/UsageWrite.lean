import ProjectSurvey.Proofs.DirectoryMaking
import ProjectSurvey.UsageLog

/-! What writing to the usage log does to the files: directories are made and one file is made or added
to. The only faults that are not taken up are those of a directory that no path can name. -/

namespace ProjectSurvey

namespace Place

/-- All that opening comes to: the file is there, or it is made in a directory that is. -/
theorem openForAppending_eq_ok {place opened : Place} {path : Path} {location : Location}
    (named : path.parts ≠ []) (done : place.openForAppending path = .ok (opened, location)) :
    place.locate true path = .ok location ∧
      ((∃ content, place.tree.at? location = some (.file content) ∧ opened = place) ∨
        place.tree.at? location = none ∧ place.tree.Opens location ∧
          opened = { place with tree := place.tree.put location (.file []) }) := by
  simp only [openForAppending, bind, Except.bind] at done
  cases located : place.locate true path with
  | error fault => rw [located] at done; cases done
  | ok there =>
    simp only [located] at done
    split at done
    · next content stands =>
      cases done
      exact ⟨rfl, .inl ⟨content, stands, rfl⟩⟩
    · cases done
    · next absent =>
      cases done
      have steps : path.steps ≠ [] := by simpa [Path.steps] using named
      have opens := Node.follow_opens _ _ _ _ _ (Step.areProper_path path) (.inr steps)
        (locate_eq_ok.mp located).2
      exact ⟨rfl, .inr ⟨absent, opens, rfl⟩⟩

theorem openForAppending_gains {place opened : Place} {path : Path} {location : Location}
    (named : path.parts ≠ []) (done : place.openForAppending path = .ok (opened, location)) :
    place.Gains opened (some location) ∧ opened.locate false path = .ok location := by
  obtain ⟨located, ⟨content, stands, rfl⟩ | ⟨absent, opens, rfl⟩⟩ := openForAppending_eq_ok named done
  · obtain ⟨accepted, way⟩ := locate_eq_ok.mp located
    refine ⟨.refl _ _, locate_eq_ok.mpr ⟨accepted, ?_⟩⟩
    refine Node.follow_remains (fun _ shape shown => ⟨shape, shown, .same shape⟩) ?_
      _ _ _ way
    intro _ absent
    simp [Node.shapeAt?, stands] at absent
  · obtain ⟨accepted, way⟩ := locate_eq_ok.mp located
    have vacant : place.tree.shapeAt? location = none := Node.shapeAt?_eq_none.mpr absent
    have gains : place.Gains { place with tree := place.tree.put location (.file []) } (some location) :=
      gains_put place _ (fun sound => opens.noParent sound) rfl opens.room (by simp [vacant])
        (Node.isBare_file []) (vacant ▸ .opened [] rfl)
    refine ⟨gains, locate_eq_ok.mpr ⟨accepted, ?_⟩⟩
    refine Node.follow_remains gains.remains (fun _ _ => ⟨[], ?_⟩) _ _ _ way
    rw [Node.shapeAt?_put opens.room (by simp [vacant]) (Node.isBare_file []), if_pos rfl]
    rfl

theorem openForAppending_fault {place : Place} {path : Path} {fault : Fault}
    (failed : place.openForAppending path = .error fault) (nameable : path.IsNameable) :
    fault.isOfText = false := by
  simp only [openForAppending, bind, Except.bind] at failed
  cases located : place.locate true path with
  | error cause =>
    rw [located] at failed
    cases failed
    exact locate_isOfText located nameable
  | ok there =>
    simp only [located] at failed
    split at failed <;> cases failed
    rfl

theorem append_gains (place : Place) (location : Location) (bytes : Bytes) :
    place.Gains (place.append location bytes) (some location) := by
  simp only [append]
  split
  · next content stands =>
    have shown : place.tree.shapeAt? location = some (.file content) := by rw [Node.shapeAt?, stands]; rfl
    exact gains_put place _ (fun sound => Node.parentPart_not_mem_of_at? sound stands) rfl
      (Node.Opens.room (.inl (by rw [stands]; rfl))) (by simp [shown]) (Node.isBare_file _)
      (shown ▸ .extended _ _ rfl)
  · exact .refl place _

end Place

namespace UsageLog

/-- Where the file for the events of a day stands, once it is there. -/
def fileAt? (directory : Path) (occasion : Occasion) (place : Place) : Option Location :=
  (place.locate false (fileFor directory occasion.now)).toOption

theorem write_of_removed {place : Place} (removed : place.hasCurrent = false) (directory : Path)
    (occasion : Occasion) (event : Event) :
    write directory occasion place event = (place, some ⟨.missing, none⟩) := by
  have gone : place.workingDirectory = .error .missing := if_neg (Bool.eq_false_iff.mp removed)
  unfold write
  generalize place.workingDirectory = found at gone
  subst gone
  rfl

theorem write_of_hasCurrent {place : Place} (stands : place.hasCurrent = true) (directory : Path)
    (occasion : Occasion) (event : Event) :
    write directory occasion place event =
      match place.makeDirectories directory with
      | (made, some failure) => (made, some failure)
      | (made, none) =>
        match made.openForAppending (fileFor directory occasion.now) with
        | .error fault => (made, some ⟨fault, fileFor directory occasion.now⟩)
        | .ok (opened, location) =>
          (opened.append location (Utf8.encode (line occasion place.currentPath event)), none) := by
  have there : place.workingDirectory = .ok place.currentPath := if_pos stands
  unfold write
  generalize place.workingDirectory = found at there
  subst there
  rfl

/-- All that a write comes to: it stops where there is no current directory, at the directories or at the
file, or it adds the line. -/
theorem write_cases (directory : Path) (occasion : Occasion) (place : Place) (event : Event) :
    (place.hasCurrent = false ∧ write directory occasion place event = (place, some ⟨.missing, none⟩)) ∨
    place.hasCurrent = true ∧ ∃ made, place.Gains made none ∧
      ((∃ failure, place.makeDirectories directory = (made, some failure) ∧
          write directory occasion place event = (made, some failure)) ∨
        (∃ fault, made.openForAppending (fileFor directory occasion.now) = .error fault ∧
          write directory occasion place event = (made, some ⟨fault, fileFor directory occasion.now⟩)) ∨
        ∃ opened location, made.openForAppending (fileFor directory occasion.now) = .ok (opened, location) ∧
          write directory occasion place event =
            (opened.append location (Utf8.encode (line occasion place.currentPath event)), none)) := by
  cases stands : place.hasCurrent with
  | false => exact .inl ⟨rfl, write_of_removed stands directory occasion event⟩
  | true =>
    refine .inr ⟨rfl, ?_⟩
    rw [write_of_hasCurrent stands]
    split
    · next made failure found =>
      exact ⟨made, (Place.makeDirectories_eq_iff.mp found).gains, .inl ⟨failure, found, rfl⟩⟩
    · next made found =>
      refine ⟨made, (Place.makeDirectories_eq_iff.mp found).gains, .inr ?_⟩
      split
      · next fault closed => exact .inl ⟨fault, closed, rfl⟩
      · next opened location openedAt => exact .inr ⟨opened, location, openedAt, rfl⟩

theorem fileFor_parts (directory : Path) (moment : Moment) : (fileFor directory moment).parts ≠ [] := by
  simp [fileFor, Path.descend]

/-- A write makes directories and makes or adds to the file of the day, and nothing else. -/
theorem write_gains (directory : Path) (occasion : Occasion) (place : Place) (event : Event) :
    place.Gains (write directory occasion place event).1
      (fileAt? directory occasion (write directory occasion place event).1) := by
  obtain ⟨-, same⟩ | ⟨-, made, gains, ⟨_, _, same⟩ | ⟨_, _, same⟩ | ⟨opened, location, openedAt, same⟩⟩ :=
    write_cases directory occasion place event
  · rw [same]
    exact .refl place _
  · rw [same]
    exact gains.of_directories _
  · rw [same]
    exact gains.of_directories _
  · obtain ⟨opens, located⟩ := Place.openForAppending_gains (fileFor_parts _ _) openedAt
    have appends := opened.append_gains location (Utf8.encode (line occasion place.currentPath event))
    have here : fileAt? directory occasion (opened.append location
        (Utf8.encode (line occasion place.currentPath event))) = some location := by
      rw [fileAt?, appends.locate_ok located]
      rfl
    rw [same, here]
    exact (gains.of_directories _).trans (opens.trans appends)

/-- A write does not bring back a current directory that has been removed. -/
theorem write_hasCurrent (directory : Path) (occasion : Occasion) (place : Place) (event : Event) :
    (write directory occasion place event).1.hasCurrent = place.hasCurrent := by
  obtain ⟨-, same⟩ | ⟨stands, -⟩ := write_cases directory occasion place event
  · rw [same]
  · rw [(write_gains directory occasion place event).hasCurrent stands, stands]

private theorem digit_nameable {c : Char} (digit : c.isDigit = true) : isNameable c = true := by
  simp only [Char.isDigit, Bool.and_eq_true, decide_eq_true_eq, ge_iff_le, UInt32.le_iff_toNat_le] at digit
  have same : c.val.toNat = c.toNat := rfl
  refine isNameable_of_lt ?_ ?_
  · have bound : c.toNat ≤ 57 := digit.2
    exact Nat.lt_of_le_of_lt bound (by decide)
  · rintro rfl
    exact absurd digit.1 (by decide)

private theorem padded_nameable (width n : Nat) : ∀ c ∈ Text.padded 10 width n, isNameable c = true := by
  intro c member
  rcases List.mem_append.mp member with filled | inside
  · cases List.eq_of_mem_replicate filled
    decide
  · exact digit_nameable (Nat.isDigit_of_mem_toDigits (by decide) (by decide) inside)

private theorem nameable_append {first second : Text} (one : ∀ c ∈ first, isNameable c = true)
    (other : ∀ c ∈ second, isNameable c = true) : ∀ c ∈ first ++ second, isNameable c = true := by
  intro c member
  exact (List.mem_append.mp member).elim (one c) (other c)

theorem fileFor_nameable {directory : Path} (nameable : directory.IsNameable) (moment : Moment) :
    (fileFor directory moment).IsNameable := by
  have dashes : ∀ c ∈ "-".toList, isNameable c = true := List.all_eq_true.mp rfl
  have date : ∀ c ∈ moment.dateText, isNameable c = true :=
    nameable_append (nameable_append (nameable_append (nameable_append (padded_nameable _ _) dashes)
      (padded_nameable _ _)) dashes) (padded_nameable _ _)
  intro part member
  rcases List.mem_append.mp member with inside | last
  · exact nameable part inside
  · cases List.mem_singleton.mp last
    exact nameable_append (nameable_append (List.all_eq_true.mp rfl) date) (List.all_eq_true.mp rfl)

/-- Recording fails exactly for a directory that no path can name, whatever stands where, unless it has
stopped before for want of a current directory. -/
theorem record_eq_error {directory : Path} {occasion : Occasion} {place : Place} {event : Event} :
    (∃ fault, record (.daily directory) occasion place event = .error fault) ↔
      place.hasCurrent = true ∧ ¬ directory.IsNameable := by
  constructor
  · rintro ⟨fault, failed⟩
    simp only [record] at failed
    split at failed
    · next after failure written =>
      split at failed
      · next ofText =>
        obtain ⟨-, same⟩ | ⟨stands, made, -, ⟨cause, stopped, same⟩ | ⟨cause, closed, same⟩ | ⟨_, _, _, same⟩⟩ :=
          write_cases directory occasion place event
        · cases written.symm.trans same
          cases ofText
        · cases written.symm.trans same
          refine ⟨stands, fun nameable => ?_⟩
          have fine := (Place.makeDirectories_eq_iff.mp stopped).isOfText (by simpa using nameable) rfl
          cases fine.symm.trans ofText
        · cases written.symm.trans same
          refine ⟨stands, fun nameable => ?_⟩
          have fine := Place.openForAppending_fault closed (fileFor_nameable nameable occasion.now)
          cases fine.symm.trans ofText
        · cases written.symm.trans same
      · cases failed
    · cases failed
  · rintro ⟨stands, refused⟩
    obtain ⟨failure, made, ofText⟩ := Place.makeDirectories_unnameable place refused
    exact ⟨failure.fault, by simp only [record, write_of_hasCurrent stands, made, ofText, ite_true]⟩

theorem record_place {directory : Path} {occasion : Occasion} {place : Place} {event : Event} {recorded : Recorded}
    (done : record (.daily directory) occasion place event = .ok recorded) :
    recorded.place = (write directory occasion place event).1 := by
  simp only [record] at done
  split at done
  · next failed =>
    split at done
    · cases done
    · cases done
      rw [failed]
  · next wrote =>
    cases done
    rw [wrote]

/-- Where recording does not fail it leaves what the write has made of the place. -/
theorem record_eq_ok {directory : Path} {place : Place} (nameable : place.hasCurrent = true → directory.IsNameable)
    (occasion : Occasion) (event : Event) :
    ∃ notes, record (.daily directory) occasion place event =
      .ok ⟨(write directory occasion place event).1, notes⟩ := by
  cases recorded : record (.daily directory) occasion place event with
  | error fault =>
    obtain ⟨stands, refused⟩ := record_eq_error.mp ⟨fault, recorded⟩
    exact absurd (nameable stands) refused
  | ok outcome => exact ⟨outcome.notes, by rw [← record_place recorded]⟩

end UsageLog

end ProjectSurvey
