import ProjectSurvey.Proofs.SourceListing

/-! The files of a walk as they are told from its root. The way on to a file is the names below the root,
however the root is written and wherever it is read: what is in front of these names cancels out. -/

namespace ProjectSurvey

/-- Whether a directory can hold an entry of this name. -/
def isEntryName (name : Text) : Bool :=
  !name.isEmpty && name != ".".toList && name != parentPart && !name.contains '/'

theorem isEntryName_iff {name : Text} :
    isEntryName name = true ↔ name ≠ [] ∧ name ≠ "." ∧ name ≠ parentPart ∧ '/' ∉ name := by
  simp only [isEntryName, Bool.and_eq_true, bne_iff_ne, Bool.not_eq_true', ← Bool.not_eq_true, List.isEmpty_iff,
    List.contains_iff_mem, and_assoc, ne_eq]

theorem Node.Meets.everyName {test : Text → Bool} {node : Node} {x : Location} (met : node.Meets x)
    (every : node.everyName test = true) : ∀ name ∈ x, test name = true := by
  induction met with
  | entry member other => exact List.forall_mem_singleton.mpr (everyName_of_mem every member).1
  | deeper member kept met ih =>
    have entry := everyName_of_mem every member
    exact List.forall_mem_cons.mpr ⟨entry.1, ih entry.2⟩

theorem relativeText_cons (c : Char) (rest : Text) (others : Location) :
    ∃ more, relativeText ((c :: rest) :: others) = c :: more := by
  rw [relativeText_of_ne_nil (List.cons_ne_nil _ _), Text.join]
  cases others with
  | nil => exact ⟨rest, List.intercalate_singleton⟩
  | cons next others =>
    rw [List.intercalate_cons_cons, List.append_assoc, List.cons_append]
    exact ⟨_, rfl⟩

namespace Path

theorem anchorOf_cons {c : Char} (apart : c ≠ '/') (rest : Text) : anchorOf (c :: rest) = .here := by
  simp [anchorOf, apart]

theorem ofText_relativeText {names : Location} (some : names ≠ [])
    (named : ∀ name ∈ names, isEntryName name = true) : ofText (relativeText names) = ⟨.here, names⟩ := by
  have slashless : ∀ name ∈ names, '/' ∉ name := by
    intro name member
    exact (isEntryName_iff.mp (named name member)).2.2.2
  have parts : partsOf (relativeText names) = names := by
    rw [partsOf, pieces_relativeText some slashless, List.filter_eq_self]
    intro name member
    obtain ⟨filled, apart, -⟩ := isEntryName_iff.mp (named name member)
    rw [Bool.and_eq_true, Bool.not_eq_true', ← Bool.not_eq_true, List.isEmpty_iff, bne_iff_ne]
    exact ⟨filled, apart⟩
  have anchor : anchorOf (relativeText names) = .here := by
    obtain ⟨first, others, rfl⟩ := List.exists_cons_of_ne_nil some
    have filled := (isEntryName_iff.mp (named first List.mem_cons_self)).1
    obtain ⟨c, rest, rfl⟩ := List.exists_cons_of_ne_nil filled
    obtain ⟨more, written⟩ := relativeText_cons c rest others
    rw [written]
    apply anchorOf_cons
    intro same
    exact slashless _ List.mem_cons_self (same ▸ List.mem_cons_self)
  rw [ofText, anchor, parts]

end Path

/-- Whether a text tells how to go on from a root to a path: by the names below the root with slashes between
them. Such a text is no absolute path, none of its parts leads nowhere or back, reading it changes nothing in it,
and it leads from the root to the path. -/
structure TellsWay (root path : Path) (told : Text) : Prop where
  names : ∃ names, names ≠ [] ∧ path = root.descend names ∧ told = Text.join "/" names
  relative : (Path.ofText told).isAbsolute = false
  plain : ∀ part ∈ told.pieces '/', part ≠ [] ∧ part ≠ "." ∧ part ≠ ".."
  settled : (Path.ofText told).toText = told
  joined : root.join (Path.ofText told) = path

theorem tellsWay_relativeText (root : Path) {names : Location} (some : names ≠ [])
    (named : ∀ name ∈ names, isEntryName name = true) : TellsWay root (root.descend names) (relativeText names) := by
  have read := Path.ofText_relativeText some named
  refine ⟨⟨names, some, rfl, relativeText_of_ne_nil some⟩, ?_, ?_, ?_, ?_⟩
  · rw [read]
    rfl
  · rw [pieces_relativeText some fun name member => (isEntryName_iff.mp (named name member)).2.2.2]
    intro name member
    obtain ⟨filled, apart, below, -⟩ := isEntryName_iff.mp (named name member)
    exact ⟨filled, apart, below⟩
  · rw [read]
    rfl
  · rw [read]
    rfl

/-- Every file of a walk is told from its root by the names below it, however the root is written and wherever it
is read, and no two files are told alike. -/
theorem Place.relativeTo_of_walk {place : Place} {root : Path} {paths : List Path}
    (named : place.tree.everyName isEntryName = true) (walked : place.walk root = .ok paths) :
    (∀ path ∈ paths, TellsWay root path (path.relativeTo place.current root)) ∧
    ∀ path ∈ paths, ∀ other ∈ paths,
      path.relativeTo place.current root = other.relativeTo place.current root → path = other := by
  have tells : ∀ path ∈ paths, TellsWay root path (path.relativeTo place.current root) := by
    intro path member
    obtain ⟨base, names, found, listed, rfl⟩ := mem_of_walk walked member
    have met := (mem_listed.mp listed).1
    obtain ⟨_, -, stands⟩ := find_eq_ok.mp found
    have every := met.everyName (Node.everyName_of_at? named stands).2
    have apart : parentPart ∉ names := by
      intro parent
      exact (isEntryName_iff.mp (every _ parent)).2.2.1 rfl
    rw [Path.relativeTo_descend place.current root apart]
    exact tellsWay_relativeText root met.ne_nil every
  refine ⟨tells, ?_⟩
  intro path member other second same
  rw [← (tells path member).joined, same, (tells other second).joined]

/-- A root that is written with detours is left out of the ways to its files. -/
theorem Place.relativeTo_of_walk_detour :
    let place : Place := ⟨.directory [("p", .directory [("a.py", .file []),
      ("sub", .directory [("b.py", .link "../a.py")])])], ["p"]⟩
    let root : Path := .ofText "..//./p/../p"
    ∃ paths, place.walk root = .ok paths ∧
      paths.map (·.relativeTo place.current root) = ["a.py".toList, "sub/b.py"] ∧
      ∀ path ∈ paths, TellsWay root path (path.relativeTo place.current root) := by
  intro place root
  have walked : place.walk root = .ok [root.descend ["a.py"], root.descend ["sub", "b.py"]] := by
    rw [Place.walk_of_met rfl (show _ = arrange [⟨"a.py", none⟩, ⟨"sub", some (arrange [⟨"b.py", none⟩])⟩] from rfl)
      (.refl _) (by decide)]
    decide +kernel
  exact ⟨_, walked, by decide, (relativeTo_of_walk (by decide) walked).1⟩

end ProjectSurvey
