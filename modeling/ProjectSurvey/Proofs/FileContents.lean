import ProjectSurvey.Proofs.UsageWrite

/-! The bytes of the files of a place. Making directories keeps them all, and opening a file and adding to it
keeps those of every other. -/

namespace ProjectSurvey

namespace Place

/-- The bytes of the regular file at a location, if there is one. -/
def contentAt? (place : Place) (location : Location) : Option Bytes :=
  match place.tree.shapeAt? location with
  | some (.file content) => some content
  | _ => none

variable {place after : Place} {location : Location}

theorem contentAt?_of_at? {content : Bytes} (stands : place.tree.at? location = some (.file content)) :
    place.contentAt? location = some content := by
  rw [contentAt?, Node.shapeAt?, stands]
  rfl

theorem at?_of_contentAt? {content : Bytes} (stands : place.contentAt? location = some content) :
    place.tree.at? location = some (.file content) := by
  unfold contentAt? at stands
  split at stands
  · next other shown =>
    cases stands
    obtain ⟨node, found, same⟩ := Node.shapeAt?_eq_some.mp shown
    cases node <;> cases same
    exact found
  · cases stands

/-- Only the file that is made or added to has other bytes than before. -/
theorem Gains.contentAt? {file : Option Location} (gains : place.Gains after file) (apart : file ≠ some location) :
    after.contentAt? location = place.contentAt? location := by
  have gain := gains.gain location
  unfold Place.contentAt?
  generalize place.tree.shapeAt? location = before at gain ⊢
  generalize after.tree.shapeAt? location = later at gain ⊢
  cases gain with
  | kept => rfl
  | made => rfl
  | opened _ here => exact absurd here apart
  | extended _ _ here => exact absurd here apart

theorem contentAt?_put (place : Place) {content : Bytes} (opens : place.tree.Opens location)
    (leaf : place.tree.shapeAt? location ≠ some .directory) :
    Place.contentAt? { place with tree := place.tree.put location (.file content) } location = some content := by
  rw [Place.contentAt?, Node.shapeAt?_put opens.room leaf (Node.isBare_file content), if_pos rfl]
  rfl

theorem openForAppending_content {path : Path} {opened : Place} (named : path.parts ≠ [])
    (done : place.openForAppending path = .ok (opened, location)) :
    opened.contentAt? location = some ((place.contentAt? location).getD []) := by
  obtain ⟨-, ⟨content, stands, rfl⟩ | ⟨absent, opens, rfl⟩⟩ := openForAppending_eq_ok named done
  · rw [contentAt?_of_at? stands, Option.getD_some]
  · have vacant : place.tree.shapeAt? location = none := Node.shapeAt?_eq_none.mpr absent
    have nothing : place.contentAt? location = none := by rw [Place.contentAt?, vacant]
    rw [contentAt?_put place opens (by simp [vacant]), nothing, Option.getD_none]

/-- Opening a file by a path from the root makes it if it is not there, and changes no other file. -/
theorem openForAppending_contents {path : Path} {opened : Place} (absolute : path.isAbsolute = true)
    (done : place.openForAppending path = .ok (opened, location)) :
    opened.contentAt? location = some ((place.contentAt? location).getD []) ∧
      ∀ other, location ≠ other → opened.contentAt? other = place.contentAt? other := by
  by_cases named : path.parts = []
  · have located : place.locate true path = .ok [] := by
      obtain ⟨anchor, parts⟩ := path
      cases named
      cases anchor <;> first | rfl | cases absolute
    simp only [openForAppending, located, bind, Except.bind, Node.at?] at done
    split at done
    · next content stands =>
      cases done
      have content : place.contentAt? [] = some content := contentAt?_of_at? stands
      exact ⟨by rw [content, Option.getD_some], fun _ _ => rfl⟩
    · cases done
    · next absent => cases absent
  · refine ⟨openForAppending_content named done, fun other apart => ?_⟩
    exact (openForAppending_gains named done).1.contentAt? (by simpa using apart)

def openedAt? (place : Place) (path : Path) : Option Location :=
  match place.openForAppending path with
  | .ok (_, location) => some location
  | .error _ => none

theorem append_content {content : Bytes} (stands : place.contentAt? location = some content) (bytes : Bytes) :
    (place.append location bytes).contentAt? location = some (content ++ bytes) := by
  have there := at?_of_contentAt? stands
  have leaf : place.tree.shapeAt? location ≠ some .directory := by simp [Node.shapeAt?, there, Node.shape]
  simp only [append, there]
  exact contentAt?_put place (.inl (by rw [there]; rfl)) leaf

end Place

theorem Diagnostics.openFile_eq_ok {place opened : Place} {path : Path} {location : Location}
    (done : openFile place path = .ok (opened, location)) :
    ∃ found, found.isAbsolute = true ∧ place.openForAppending found = .ok (opened, location) := by
  simp only [openFile, bind, Except.bind] at done
  cases reached : place.absolute path with
  | error fault => simp only [reached, Except.mapError] at done; cases done
  | ok found =>
    simp only [reached, Except.mapError] at done
    cases opening : place.openForAppending found with
    | error fault => simp only [opening] at done; cases done
    | ok result =>
      simp only [opening] at done
      cases done
      exact ⟨found, Place.absolute_isAbsolute reached, opening⟩

end ProjectSurvey
