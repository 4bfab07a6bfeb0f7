import ProjectSurvey.Proofs.PathLookup

/-! Two places that answer questions about a path alike. So do places with the same shapes everywhere,
and a place to which something has been added, unless it is what the path was looking for in vain. -/

namespace ProjectSurvey

namespace Place

/-- Whether a path leads to like objects at two places, or nowhere for one reason. -/
def Alike (place other : Place) (path : Path) : Prop :=
  match place.find path with
  | .ok node => ∃ otherNode, other.find path = .ok otherNode ∧ node.shape.IsLike otherNode.shape
  | .error fault => other.find path = .error fault

variable {place other : Place} {path : Path}

theorem Alike.find_ok (alike : place.Alike other path) {node : Node}
    (found : place.find path = .ok node) :
    ∃ otherNode, other.find path = .ok otherNode ∧ node.shape.IsLike otherNode.shape := by
  simpa only [Alike, found] using alike

theorem Alike.find_error (alike : place.Alike other path) {fault : Fault}
    (failed : place.find path = .error fault) : other.find path = .error fault := by
  simpa only [Alike, failed] using alike

theorem Alike.isFile (alike : place.Alike other path) : other.isFile path = place.isFile path := by
  simp only [Place.isFile, leadsTo]
  cases found : place.find path with
  | error fault => rw [alike.find_error found]
  | ok node =>
    obtain ⟨otherNode, otherFound, like⟩ := alike.find_ok found
    rw [otherFound]
    cases node <;> cases otherNode <;> first | rfl | cases like

theorem Alike.list_error (alike : place.Alike other path) {fault : Fault}
    (failed : place.list path = .error fault) : other.list path = .error fault := by
  simp only [Place.list] at failed ⊢
  cases found : place.find path with
  | error cause => simpa only [found, alike.find_error found] using failed
  | ok node =>
    obtain ⟨otherNode, otherFound, like⟩ := alike.find_ok found
    rw [found] at failed
    rw [otherFound]
    cases node <;> cases otherNode <;> first | exact failed | (cases like; done) | cases failed

theorem Alike.list_ok (alike : place.Alike other path) {names : List Text}
    (listed : place.list path = .ok names) : ∃ otherNames, other.list path = .ok otherNames := by
  simp only [Place.list] at listed ⊢
  cases found : place.find path with
  | error cause => rw [found] at listed; cases listed
  | ok node =>
    obtain ⟨otherNode, otherFound, like⟩ := alike.find_ok found
    rw [found] at listed
    rw [otherFound]
    cases node <;> cases otherNode <;> first | exact ⟨_, rfl⟩ | (cases like; done) | cases listed

theorem find_shape (place : Place) (path : Path) : (place.find path).map Node.shape =
    (place.locate false path).bind fun location =>
      match place.tree.shapeAt? location with
      | some shape => .ok shape
      | none => .error .missing := by
  simp only [find, bind, Except.bind]
  cases place.locate false path with
  | error fault => rfl
  | ok location =>
    simp only [Node.shapeAt?]
    cases place.tree.at? location <;> rfl

theorem alike_of_shape (shown : (other.find path).map Node.shape = (place.find path).map Node.shape) :
    place.Alike other path := by
  simp only [Alike]
  cases found : place.find path with
  | error fault =>
    cases otherFound : other.find path with
    | error otherFault =>
      rw [found, otherFound] at shown
      cases shown
      rfl
    | ok otherNode => rw [found, otherFound] at shown; cases shown
  | ok node =>
    cases otherFound : other.find path with
    | error otherFault => rw [found, otherFound] at shown; cases shown
    | ok otherNode =>
      rw [found, otherFound] at shown
      have same : otherNode.shape = node.shape := Except.ok.inj shown
      exact ⟨otherNode, rfl, same ▸ .same _⟩

theorem readBytes_of_shape
    (shown : (other.find path).map Node.shape = (place.find path).map Node.shape) :
    other.readBytes path = place.readBytes path := by
  simp only [readBytes]
  cases found : place.find path with
  | error fault => rw [(alike_of_shape shown).find_error found]
  | ok node =>
    obtain ⟨otherNode, otherFound, -⟩ := (alike_of_shape shown).find_ok found
    rw [found, otherFound] at shown
    have same : otherNode.shape = node.shape := Except.ok.inj shown
    rw [otherFound]
    cases node <;> cases otherNode <;> cases same <;> rfl

theorem locate_of_same (current : other.current = place.current)
    (same : ∀ location, other.tree.shapeAt? location = place.tree.shapeAt? location) (toNew : Bool)
    (path : Path) : other.locate toNew path = place.locate toNew path := by
  simp only [locate, current, Node.follow_congr same]

theorem alike_of_same (current : other.current = place.current)
    (same : ∀ location, other.tree.shapeAt? location = place.tree.shapeAt? location) (path : Path) :
    place.Alike other path := by
  apply alike_of_shape
  simp only [find_shape, locate_of_same current same, same]

end Place

/-- What may become of a location: a new directory, or the one file that is made or added to. -/
inductive Gain (file : Option Location) (location : Location) : Option Shape → Option Shape → Prop where
  | kept (shape : Option Shape) : Gain file location shape shape
  | made : Gain file location none (some .directory)
  | opened (content : Bytes) : file = some location → Gain file location none (some (.file content))
  | extended (content longer : Bytes) : file = some location →
      Gain file location (some (.file content)) (some (.file longer))

/-- Whether a place comes from another by new directories and by what is done to one file. -/
structure Place.Gains (place after : Place) (file : Option Location) : Prop where
  current : after.current = place.current
  sound : place.tree.isSound = true → after.tree.isSound = true
  gain : ∀ location, Gain file location (place.tree.shapeAt? location) (after.tree.shapeAt? location)

namespace Place.Gains

theorem refl (place : Place) (file : Option Location) : place.Gains place file :=
  ⟨rfl, id, fun _ => .kept _⟩

theorem trans {first second third : Place} {file : Option Location} (one : first.Gains second file)
    (next : second.Gains third file) : first.Gains third file := by
  refine ⟨next.current.trans one.current, fun sound => next.sound (one.sound sound), fun location => ?_⟩
  have before := one.gain location
  have after := next.gain location
  generalize first.tree.shapeAt? location = a at before ⊢
  generalize second.tree.shapeAt? location = b at before after
  generalize third.tree.shapeAt? location = c at after ⊢
  cases before with
  | kept => exact after
  | made => cases after; exact .made
  | opened content here => cases after <;> exact .opened _ here
  | extended content longer here => cases after <;> exact .extended _ _ here

theorem of_directories {place after : Place} (gains : place.Gains after none) (file : Option Location) :
    place.Gains after file := by
  refine ⟨gains.current, gains.sound, ?_⟩
  intro location
  have gain := gains.gain location
  generalize place.tree.shapeAt? location = a at gain ⊢
  generalize after.tree.shapeAt? location = b at gain ⊢
  cases gain with
  | kept => exact .kept _
  | made => exact .made
  | opened _ impossible => cases impossible
  | extended _ _ impossible => cases impossible

section

variable {place after : Place} {file : Option Location} (gains : place.Gains after file)

include gains

theorem remains : place.tree.Remains after.tree := by
  intro location shape stands
  have gain := gains.gain location
  rw [stands] at gain
  generalize after.tree.shapeAt? location = later at gain
  cases gain with
  | kept => exact ⟨shape, rfl, .same shape⟩
  | extended content longer => exact ⟨_, rfl, .files content longer⟩

/-- What stands at a location other than that of the file is what stood there. -/
theorem unchanged {location : Location} {shape : Shape}
    (stands : place.tree.shapeAt? location = some shape) (apart : file ≠ some location) :
    after.tree.shapeAt? location = some shape := by
  have gain := gains.gain location
  rw [stands] at gain
  generalize after.tree.shapeAt? location = later at gain
  cases gain with
  | kept => rfl
  | extended _ _ here => exact False.elim (apart here)

/-- What is new at a location is a directory, or the file. -/
theorem fresh {location : Location} {shape : Shape} (absent : place.tree.shapeAt? location = none)
    (stands : after.tree.shapeAt? location = some shape) (other : shape ≠ .directory) :
    file = some location := by
  have gain := gains.gain location
  rw [absent, stands] at gain
  cases gain with
  | made => exact False.elim (other rfl)
  | opened _ here => exact here

theorem hasCurrent (stands : place.hasCurrent = true) : after.hasCurrent = true := by
  rw [Place.hasCurrent_eq] at stands ⊢
  obtain ⟨shape, shown⟩ := Option.isSome_iff_exists.mp stands
  obtain ⟨later, laterShown, -⟩ := gains.remains place.current shape shown
  rw [gains.current, laterShown, Option.isSome_some]

theorem locate_ok {path : Path} {location : Location}
    (located : place.locate false path = .ok location) : after.locate false path = .ok location := by
  obtain ⟨accepted, way⟩ := Place.locate_eq_ok.mp located
  refine Place.locate_eq_ok.mpr ⟨accepted, ?_⟩
  rw [gains.current]
  exact Node.follow_remains gains.remains (fun impossible => by cases impossible) _ _ _ way

theorem find_ok {path : Path} {node : Node} (found : place.find path = .ok node) :
    ∃ later, after.find path = .ok later ∧ node.shape.IsLike later.shape := by
  obtain ⟨location, located, stands⟩ := Place.find_eq_ok.mp found
  obtain ⟨_, shown, alike⟩ := gains.remains location node.shape (by rw [Node.shapeAt?, stands]; rfl)
  obtain ⟨later, laterStands, rfl⟩ := Node.shapeAt?_eq_some.mp shown
  exact ⟨later, Place.find_eq_ok.mpr ⟨location, gains.locate_ok located, laterStands⟩, alike⟩

end

end Place.Gains

/-- Whether what a path was looking for in vain at a place is still missing, for one reason. -/
def Place.StillFails (place after : Place) (path : Path) : Prop :=
  ∀ fault, place.find path = .error fault → after.find path = .error fault

section Later

variable {place after : Place} {file : Option Location} (gains : place.Gains after file) {path : Path}
  (fails : place.StillFails after path)

include gains fails

theorem Place.Gains.alike : place.Alike after path := by
  simp only [Place.Alike]
  cases found : place.find path with
  | error fault => exact fails fault found
  | ok node => exact gains.find_ok found

/-- A file other than the one that has been added to is read as before. -/
theorem Place.Gains.readBytes (apart : ∀ location, place.locate false path = .ok location →
    file ≠ some location) : after.readBytes path = place.readBytes path := by
  simp only [Place.readBytes]
  cases found : place.find path with
  | error fault => rw [fails fault found]
  | ok node =>
    obtain ⟨location, located, stands⟩ := Place.find_eq_ok.mp found
    have shown : place.tree.shapeAt? location = some node.shape := by rw [Node.shapeAt?, stands]; rfl
    obtain ⟨later, laterStands, same⟩ :=
      Node.shapeAt?_eq_some.mp (gains.unchanged shown (apart location located))
    have laterFound : after.find path = .ok later :=
      Place.find_eq_ok.mpr ⟨location, gains.locate_ok located, laterStands⟩
    rw [laterFound]
    cases node <;> cases later <;> cases same <;> rfl

end Later

end ProjectSurvey
