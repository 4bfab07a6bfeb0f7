import ProjectSurvey.Proofs.FileContents

/-! Places that differ in the bytes of files alone. Every path that starts at one location leads to the same in
both, and what is made in one is made in the other, or fails there for the same reason. Where files are new
besides, a file is opened at the same location or not at all in either. -/

namespace ProjectSurvey

theorem Shape.IsLike.trans {a b c : Shape} (one : a.IsLike b) (next : b.IsLike c) : a.IsLike c := by
  cases one with
  | same => exact next
  | files content other =>
    cases next with
    | same => exact .files content other
    | files _ third => exact .files content third

namespace Node

/-- Whether two trees differ in the bytes of files only. -/
def Resembles (a b : Node) : Prop :=
  ∀ location, Option.Rel Shape.IsLike (a.shapeAt? location) (b.shapeAt? location)

/-- Whether a tree differs from another in the bytes of files and in new files only. -/
def Refiles (a b : Node) : Prop :=
  ∀ location, Option.Rel Shape.IsLike (a.shapeAt? location) (b.shapeAt? location) ∨
    a.shapeAt? location = none ∧ ∃ content, b.shapeAt? location = some (.file content)

variable {a b c : Node}

theorem Resembles.refl (a : Node) : a.Resembles a :=
  fun _ => like_of_eq rfl

theorem Resembles.trans (one : a.Resembles b) (next : b.Resembles c) : a.Resembles c := by
  intro location
  have first := one location
  have second := next location
  generalize a.shapeAt? location = x at first ⊢
  generalize b.shapeAt? location = y at first second
  generalize c.shapeAt? location = z at second ⊢
  cases first with
  | none => exact second
  | some like => cases second with | some further => exact .some (like.trans further)

theorem Resembles.directory_iff (resembles : a.Resembles b) {location : Location} :
    b.shapeAt? location = some .directory ↔ a.shapeAt? location = some .directory := by
  have like := resembles location
  generalize a.shapeAt? location = x at like ⊢
  generalize b.shapeAt? location = y at like ⊢
  cases like with
  | none => rfl
  | some like => cases like <;> simp

theorem Resembles.none_iff (resembles : a.Resembles b) {location : Location} :
    b.shapeAt? location = none ↔ a.shapeAt? location = none := by
  have like := resembles location
  generalize a.shapeAt? location = x at like ⊢
  generalize b.shapeAt? location = y at like ⊢
  cases like <;> simp

theorem Resembles.refiles (resembles : a.Resembles b) : a.Refiles b :=
  fun location => .inl (resembles location)

theorem Refiles.trans_resembles (refiles : a.Refiles b) (resembles : b.Resembles c) : a.Refiles c := by
  intro location
  have further := resembles location
  rcases refiles location with first | ⟨absent, content, stands⟩
  · left
    generalize a.shapeAt? location = x at first ⊢
    generalize b.shapeAt? location = y at first further
    generalize c.shapeAt? location = z at further ⊢
    cases first with
    | none => exact further
    | some like => cases further with | some next => exact .some (like.trans next)
  · right
    rw [stands] at further
    generalize c.shapeAt? location = z at further ⊢
    cases further with | some like => cases like <;> exact ⟨absent, _, rfl⟩

private theorem take_resembles (resembles : a.Resembles b) (toNew : Bool)
    {onward otherOnward : Location → List Step → Except Fault Location}
    (beyond : ∀ here steps, otherOnward here steps = onward here steps) (steps : List Step) (here : Location) :
    b.take toNew otherOnward here steps = a.take toNew onward here steps := by
  induction steps generalizing here with
  | nil => rfl
  | cons step steps ih =>
    exact take_cons_congr (resembles here) (fun _ _ => ih _) (fun _ _ => ih _) (fun _ _ _ => resembles _)
      (fun _ _ _ _ _ _ => ih _) fun _ _ _ _ _ => beyond _ _

theorem Resembles.follow (resembles : a.Resembles b) (toNew : Bool) (links : Nat) (here : Location)
    (steps : List Step) : b.follow toNew links here steps = a.follow toNew links here steps := by
  induction links generalizing here steps with
  | zero => exact take_resembles resembles toNew (fun _ _ => rfl) steps here
  | succ links ih => exact take_resembles resembles toNew ih steps here

theorem Refiles.remains (refiles : a.Refiles b) : a.Remains b := by
  intro location shape stands
  rcases refiles location with like | ⟨absent, -⟩
  · rw [stands] at like
    generalize b.shapeAt? location = y at like ⊢
    cases like with | some like => exact ⟨_, rfl, like⟩
  · cases absent.symm.trans stands

theorem Refiles.stood (refiles : a.Refiles b) {location : Location} {shape : Shape}
    (stands : b.shapeAt? location = some shape) :
    (∃ older, a.shapeAt? location = some older ∧ older.IsLike shape) ∨
      a.shapeAt? location = none ∧ ∃ content, shape = .file content := by
  rcases refiles location with like | ⟨absent, content, new⟩
  · rw [stands] at like
    generalize a.shapeAt? location = x at like ⊢
    cases like with | some like => exact .inl ⟨_, rfl, like⟩
  · exact .inr ⟨absent, content, Option.some.inj (stands.symm.trans new)⟩

theorem Refiles.stood_real (refiles : a.Refiles b) {location : Location} {shape : Shape}
    (stands : b.shapeAt? location = some shape) (real : ∀ content, shape ≠ .file content) :
    a.shapeAt? location = some shape := by
  rcases refiles.stood stands with ⟨older, stood, like⟩ | ⟨-, content, same⟩
  · cases like with
    | same => exact stood
    | files _ other => exact absurd rfl (real other)
  · exact absurd same (real content)

/-- The way to a file that may be new is taken where files are new too. -/
theorem Refiles.reaches (refiles : a.Refiles b) {links : Nat} {here there : Location} {steps : List Step}
    (reaches : a.Reaches true links here steps there) : b.Reaches true links here steps there := by
  refine reaches.remains refiles.remains ?_
  rintro links above name directory short absent - rfl
  have otherDirectory := refiles.remains.directory directory
  cases stands : b.shapeAt? (above ++ [name]) with
  | none => exact .new otherDirectory short stands rfl
  | some shape =>
    rcases refiles.stood stands with ⟨_, stood, -⟩ | ⟨-, content, rfl⟩
    · cases absent.symm.trans stood
    · exact .enter otherDirectory short stands nofun .done

/-- Where files are new, a way that is taken ends in one of them at most, under what was a new name. -/
theorem Refiles.reached (refiles : a.Refiles b) {links : Nat} {here there : Location} {steps : List Step}
    (reaches : b.Reaches true links here steps there) : a.Reaches true links here steps there := by
  induction reaches with
  | done => exact .done
  | stay directory _ ih => exact .stay (refiles.stood_real directory nofun) ih
  | up directory _ ih => exact .up (refiles.stood_real directory nofun) ih
  | new directory short absent =>
    refine .new (refiles.stood_real directory nofun) short ?_ rfl
    by_contra stood
    obtain ⟨shape, stood⟩ := Option.ne_none_iff_exists'.mp stood
    obtain ⟨_, stands, -⟩ := refiles.remains _ _ stood
    cases absent.symm.trans stands
  | link directory short stands _ ih =>
    exact .link (refiles.stood_real directory nofun) short (refiles.stood_real stands nofun) ih
  | @enter _ _ _ _ _ steps directory short stands real onward ih =>
    have stoodDirectory := refiles.stood_real directory nofun
    rcases refiles.stood stands with ⟨older, stood, like⟩ | ⟨absent, content, rfl⟩
    · refine .enter stoodDirectory short stood ?_ ih
      rintro target rfl
      cases like
      exact real target rfl
    · cases steps with
      | nil =>
        cases onward
        exact .new stoodDirectory short absent rfl
      | cons step steps => cases stands.symm.trans onward.directory

/-- Steps to a file that may be new lead to the same location, or nowhere, where files are new. -/
theorem Refiles.follow (refiles : a.Refiles b) (links : Nat) (here : Location) (steps : List Step) :
    (b.follow true links here steps).toOption = (a.follow true links here steps).toOption := by
  cases led : b.follow true links here steps with
  | ok there => rw [(refiles.reached (follow_eq_ok.mp led)).follow]
  | error fault =>
    cases other : a.follow true links here steps with
    | error _ => rfl
    | ok there => cases led.symm.trans (refiles.reaches (follow_eq_ok.mp other)).follow

end Node

namespace Place

structure Resembles (anchor : Anchor) (place other : Place) : Prop where
  start : startOf other.current anchor = startOf place.current anchor
  tree : place.tree.Resembles other.tree

/-- Whether a place differs from another in the bytes of files and in new files only. -/
structure Refiles (anchor : Anchor) (place other : Place) : Prop where
  start : startOf other.current anchor = startOf place.current anchor
  tree : place.tree.Refiles other.tree

variable {place other : Place} {path : Path}

/-- Where a path leads does not depend on the current directory if the path is absolute. -/
theorem resembles_elsewhere {anchor : Anchor} (absolute : anchor ≠ .here) (place : Place) (current : Location) :
    Resembles anchor place { place with current := current } :=
  ⟨by rw [startOf, startOf, if_neg absolute, if_neg absolute], .refl place.tree⟩

section

variable (resembles : Resembles path.anchor place other)

include resembles

theorem Resembles.locate (toNew : Bool) : other.locate toNew path = place.locate toNew path := by
  simp only [Place.locate, resembles.start, resembles.tree.follow]

theorem Resembles.alike : place.Alike other path := by
  simp only [Alike, find, resembles.locate, bind, Except.bind]
  cases place.locate false path with
  | error fault => rfl
  | ok location =>
    have standing := resembles.tree location
    simp only [Node.shapeAt?] at standing ⊢
    generalize place.tree.at? location = x at standing ⊢
    generalize other.tree.at? location = y at standing ⊢
    cases x <;> cases y <;> simp only [Option.map_some, Option.map_none] at standing <;> cases standing
    · rfl
    · next like => exact ⟨_, rfl, like⟩

theorem Resembles.isDirectory : other.isDirectory path = place.isDirectory path := by
  simp only [Place.isDirectory, leadsTo]
  cases found : place.find path with
  | error fault => rw [resembles.alike.find_error found]
  | ok node =>
    obtain ⟨otherNode, otherFound, like⟩ := resembles.alike.find_ok found
    rw [otherFound]
    cases node <;> cases otherNode <;> first | rfl | cases like

end

/-- What is put under a new name at both places keeps them alike. -/
theorem Resembles.put {anchor : Anchor} (resembles : Resembles anchor place other) {location : Location}
    {node : Node} (room : location ≠ [] → place.tree.shapeAt? location.dropLast = some .directory)
    (vacant : place.tree.shapeAt? location = none) (bare : node.IsBare) :
    Resembles anchor { place with tree := place.tree.put location node }
      { other with tree := other.tree.put location node } := by
  have otherRoom (named : location ≠ []) := resembles.tree.directory_iff.mpr (room named)
  have leaf : place.tree.shapeAt? location ≠ some .directory := by simp [vacant]
  have otherLeaf := mt resembles.tree.directory_iff.mp leaf
  refine ⟨resembles.start, fun there => ?_⟩
  simp only
  rw [Node.shapeAt?_put room leaf bare, Node.shapeAt?_put otherRoom otherLeaf bare]
  split
  · exact .some (.same _)
  · exact resembles.tree there

/-- Whether two attempts leave places that resemble each other, for one and the same failure or none. -/
structure AttemptsResemble (anchor : Anchor) (attempt otherAttempt : Attempt) : Prop where
  place : Resembles anchor attempt.1 otherAttempt.1
  failure : otherAttempt.2 = attempt.2

/-- Making a directory depends on the shapes of two locations only. -/
theorem makeDirectory_eq (place : Place) (path : Path) : place.makeDirectory path =
    match textFault? path, path.parts.getLast? with
    | some fault, _ => .error fault
    | none, none => .error .exists
    | none, some name => (place.locate false path.parent).bind fun parent =>
      match place.tree.shapeAt? parent with
      | some .directory =>
        if name = parentPart then .error .exists
        else if nameLimit < systemLength name then .error .nameTooLong
        else match place.tree.shapeAt? (parent ++ [name]) with
          | some _ => .error .exists
          | none => .ok { place with tree := place.tree.put (parent ++ [name]) (.directory []) }
      | some _ => .error .notDirectory
      | none => .error .missing := by
  simp only [makeDirectory]
  cases textFault? path with
  | some fault => rfl
  | none =>
    cases path.parts.getLast? with
    | none => rfl
    | some name =>
      refine congrArg (Except.bind (place.locate false path.parent)) (funext fun parent => ?_)
      simp only [Node.shapeAt?]
      cases stands : place.tree.at? parent with
      | none => rfl
      | some node =>
        cases node with
        | file content => rfl
        | link target => rfl
        | directory entries =>
          simp only [Option.map_some, Node.shape, Node.at?_concat stands]
          cases Node.childNamed? entries name <;> rfl

theorem Resembles.makeDirectory (path : Path) (resembles : Resembles path.anchor place other) :
    (∃ fault, place.makeDirectory path = .error fault ∧ other.makeDirectory path = .error fault) ∨
      ∃ made otherMade, place.makeDirectory path = .ok made ∧ other.makeDirectory path = .ok otherMade ∧
        Resembles path.anchor made otherMade := by
  have above : Resembles path.parent.anchor place other := resembles
  rw [makeDirectory_eq, makeDirectory_eq, above.locate]
  split
  · exact .inl ⟨_, rfl, rfl⟩
  · exact .inl ⟨_, rfl, rfl⟩
  · next name _ _ =>
    cases place.locate false path.parent with
    | error fault => exact .inl ⟨fault, rfl, rfl⟩
    | ok parent =>
      simp only [Except.bind]
      by_cases stands : place.tree.shapeAt? parent = some .directory
      · have room : parent ++ [name] ≠ [] →
            place.tree.shapeAt? (parent ++ [name]).dropLast = some .directory := by
          intro _
          rwa [List.dropLast_concat]
        simp only [stands, resembles.tree.directory_iff.mpr stands]
        split
        · exact .inl ⟨_, rfl, rfl⟩
        split
        · exact .inl ⟨_, rfl, rfl⟩
        · cases vacant : place.tree.shapeAt? (parent ++ [name]) with
          | none =>
            rw [resembles.tree.none_iff.mpr vacant]
            exact .inr ⟨_, _, rfl, rfl, resembles.put room vacant Node.isBare_directory⟩
          | some shape =>
            have taken : other.tree.shapeAt? (parent ++ [name]) ≠ none := by
              rw [Ne, resembles.tree.none_iff, vacant]
              nofun
            obtain ⟨otherShape, there⟩ := Option.ne_none_iff_exists'.mp taken
            rw [there]
            exact .inl ⟨_, rfl, rfl⟩
      · left
        have standing := resembles.tree parent
        generalize place.tree.shapeAt? parent = x at standing stands ⊢
        generalize other.tree.shapeAt? parent = y at standing ⊢
        cases standing with
        | none => exact ⟨_, rfl, rfl⟩
        | some like =>
          cases like with
          | files => exact ⟨_, rfl, rfl⟩
          | same =>
            rename_i stood
            cases stood with
            | directory => exact absurd rfl stands
            | file content => exact ⟨_, rfl, rfl⟩
            | link target => exact ⟨_, rfl, rfl⟩

theorem Resembles.makeOnce (path : Path) (resembles : Resembles path.anchor place other) :
    AttemptsResemble path.anchor (place.makeOnce path) (other.makeOnce path) := by
  rw [Place.makeOnce, Place.makeOnce]
  obtain ⟨fault, refused, otherRefused⟩ | ⟨made, otherMade, done, otherDone, like⟩ := resembles.makeDirectory path
  · rw [refused, otherRefused]
    simp only [Place.settleMaking, resembles.isDirectory]
    split <;> exact ⟨resembles, rfl⟩
  · rw [done, otherDone]
    exact ⟨like, rfl⟩

theorem Resembles.missing_iff (path : Path) (resembles : Resembles path.anchor place other) :
    other.makeDirectory path = .error .missing ↔ place.makeDirectory path = .error .missing := by
  obtain ⟨fault, refused, otherRefused⟩ | ⟨made, otherMade, done, otherDone, -⟩ := resembles.makeDirectory path
  · rw [refused, otherRefused]
  · rw [done, otherDone]
    simp only [reduceCtorEq]

theorem MakesDirectories.resembles {anchor : Anchor} {backwards : List Text} {attempt : Attempt}
    (makes : MakesDirectories anchor backwards place attempt) (resembles : Resembles anchor place other) :
    ∃ otherAttempt, MakesDirectories anchor backwards other otherAttempt ∧
      AttemptsResemble anchor attempt otherAttempt := by
  induction makes generalizing other with
  | @once backwards _ above =>
    exact ⟨_, .once fun named => mt (Resembles.missing_iff ⟨anchor, backwards.reverse⟩ resembles).mp (above named),
      Resembles.makeOnce ⟨anchor, backwards.reverse⟩ resembles⟩
  | @stopped name backwards _ _ _ missing _ ih =>
    obtain ⟨⟨between, _⟩, outer, like, rfl⟩ := ih resembles
    have still := (Resembles.missing_iff ⟨anchor, (name :: backwards).reverse⟩ resembles).mpr missing
    exact ⟨_, .stopped still outer, like, rfl⟩
  | @again name backwards _ _ missing _ ih =>
    obtain ⟨⟨between, _⟩, outer, like, rfl⟩ := ih resembles
    have still := (Resembles.missing_iff ⟨anchor, (name :: backwards).reverse⟩ resembles).mpr missing
    exact ⟨_, .again still outer, Resembles.makeOnce ⟨anchor, (name :: backwards).reverse⟩ like⟩

theorem Resembles.makeDirectories (path : Path) (resembles : Resembles path.anchor place other) :
    AttemptsResemble path.anchor (place.makeDirectories path) (other.makeDirectories path) := by
  obtain ⟨otherAttempt, makes, alike⟩ := (makeDirectories_eq_iff.mp rfl).resembles resembles
  rwa [makeDirectories_eq_iff.mpr makes]

theorem append_current (place : Place) (location : Location) (bytes : Bytes) :
    (place.append location bytes).current = place.current := by
  simp only [append]
  split <;> rfl

theorem append_resembles (place : Place) (location : Location) (bytes : Bytes) :
    place.tree.Resembles (place.append location bytes).tree := by
  simp only [append]
  split
  · next content stands =>
    intro there
    have shown : place.tree.shapeAt? location = some (.file content) := by rw [Node.shapeAt?, stands]; rfl
    have room := Node.Opens.room (.inl (by rw [stands]; rfl) : place.tree.Opens location)
    rw [Node.shapeAt?_put room (by simp [shown]) (Node.isBare_file _)]
    split
    · next same =>
      rw [same, shown]
      exact .some (.files content _)
    · exact Node.Resembles.refl place.tree there
  · exact .refl place.tree

theorem openForAppending_refiles {opened : Place} {location : Location} (named : path.parts ≠ [])
    (done : place.openForAppending path = .ok (opened, location)) : place.tree.Refiles opened.tree := by
  obtain ⟨-, ⟨content, stands, rfl⟩ | ⟨absent, opens, rfl⟩⟩ := openForAppending_eq_ok named done
  · exact (Node.Resembles.refl _).refiles
  · have vacant : place.tree.shapeAt? location = none := Node.shapeAt?_eq_none.mpr absent
    intro there
    rw [Node.shapeAt?_put opens.room (by simp [vacant]) (Node.isBare_file [])]
    split
    · next same =>
      rw [same]
      exact .inr ⟨vacant, [], rfl⟩
    · exact .inl (Node.Resembles.refl place.tree there)

theorem openedAt?_eq (place : Place) (path : Path) : place.openedAt? path =
    (place.locate true path).toOption.bind fun location =>
      match place.tree.shapeAt? location with
      | none | some (.file _) => some location
      | _ => none := by
  simp only [openedAt?, openForAppending, bind, Except.bind, Node.shapeAt?]
  cases place.locate true path with
  | error fault => rfl
  | ok location =>
    simp only [Except.toOption, Option.bind_some]
    cases place.tree.at? location with
    | none => rfl
    | some node => cases node <;> rfl

/-- A file is opened at the same location where other files have come, or not at all in either. -/
theorem Refiles.openedAt? (path : Path) (refiles : Refiles path.anchor place other) :
    other.openedAt? path = place.openedAt? path := by
  have located : (other.locate true path).toOption = (place.locate true path).toOption := by
    simp only [Place.locate, refiles.start]
    split
    · rfl
    · exact refiles.tree.follow _ _ _
  rw [openedAt?_eq, openedAt?_eq, located]
  refine congrArg _ (funext fun location => ?_)
  rcases refiles.tree location with standing | ⟨absent, content, stands⟩
  · generalize place.tree.shapeAt? location = x at standing ⊢
    generalize other.tree.shapeAt? location = y at standing ⊢
    cases standing with
    | none => rfl
    | some like => cases like <;> rfl
  · rw [absent, stands]

end Place

end ProjectSurvey
