import ProjectSurvey.Path
import ProjectSurvey.Proofs.TextPieces
import ProjectSurvey.Proofs.TreeShape

/-! The path of a file as seen from the root of its project. It is the names that lead on from the root,
however the root is written, and tells apart files whose names have no slash in them. -/

namespace ProjectSurvey

/-- The place below a root as it is written from there. -/
def relativeText (names : Location) : Text :=
  Path.toText ⟨.here, names⟩

/-- A path as it is seen from above the directory `names`. -/
def beneath (names : Location) (file : Text) : Text :=
  relativeText names ++ '/' :: file

/-- Whether a path leads into the directory `names` below the root. -/
def isBeneath (names : Location) (file : Text) : Bool :=
  (beneath names []).isPrefixOf file

namespace Path

theorem settle_append (parts : List Text) {names : List Text} (apart : parentPart ∉ names) :
    settle (parts ++ names) = settle parts ++ names := by
  induction names using List.reverseRecOn with
  | nil => simp
  | append_singleton names name ih =>
    simp only [List.mem_append, List.mem_singleton, not_or] at apart
    have onward := ih apart.1
    simp only [settle] at onward ⊢
    rw [← List.append_assoc, List.foldl_append, onward]
    simp [Ne.symm apart.2]

theorem partsBetween_append (start names : List Text) : partsBetween start (start ++ names) = names := by
  induction start with
  | nil => cases names <;> rfl
  | cons part start ih => rw [List.cons_append, partsBetween, if_pos rfl, ih]

theorem absoluteParts_descend (current : List Text) (root : Path) {names : List Text}
    (apart : parentPart ∉ names) :
    (root.descend names).absoluteParts current = root.absoluteParts current ++ names := by
  have anchored : (root.descend names).isAbsolute = root.isAbsolute := rfl
  have parts : (root.descend names).parts = root.parts ++ names := rfl
  rw [absoluteParts, absoluteParts, anchored, parts]
  split
  · exact settle_append _ apart
  · rw [← List.append_assoc]
    exact settle_append _ apart

theorem relativeTo_descend (current : List Text) (root : Path) {names : List Text}
    (apart : parentPart ∉ names) :
    (root.descend names).relativeTo current root = relativeText names := by
  rw [relativeTo, absoluteParts_descend current root apart, partsBetween_append]
  rfl

end Path

theorem relativeText_of_ne_nil {names : Location} (some : names ≠ []) :
    relativeText names = Text.join "/" names := by
  cases names with
  | nil => exact absurd rfl some
  | cons name names => rfl

theorem pieces_relativeText {names : Location} (some : names ≠ []) (slashless : ∀ name ∈ names, '/' ∉ name) :
    (relativeText names).pieces '/' = names := by
  rw [relativeText_of_ne_nil some]
  exact Text.pieces_join some slashless

theorem relativeText_append {above below : Location} (someAbove : above ≠ []) (someBelow : below ≠ []) :
    relativeText (above ++ below) = beneath above (relativeText below) := by
  rw [beneath, relativeText_of_ne_nil someAbove, relativeText_of_ne_nil someBelow,
    relativeText_of_ne_nil (by simp [someAbove]), Text.join_append "/" someAbove someBelow]
  rfl

theorem isBeneath_iff {names place : Location} (some : names ≠ []) (somePlace : place ≠ [])
    (slashless : ∀ name ∈ names, '/' ∉ name) (slashlessPlace : ∀ name ∈ place, '/' ∉ name) :
    isBeneath names (relativeText place) = true ↔ ∃ rest, rest ≠ [] ∧ place = names ++ rest := by
  rw [isBeneath, List.isPrefixOf_iff_prefix]
  constructor
  · rintro ⟨more, written⟩
    have cut : relativeText place = relativeText names ++ '/' :: more := by
      rw [← written, beneath]
      simp
    have pieces := pieces_relativeText somePlace slashlessPlace
    rw [cut, Text.pieces_eq, List.splitOn_append_cons_self, ← Text.pieces_eq,
      pieces_relativeText some slashless] at pieces
    exact ⟨_, List.splitOn_ne_nil _ _, pieces.symm⟩
  · rintro ⟨rest, someRest, rfl⟩
    rw [relativeText_append some someRest]
    exact ⟨relativeText rest, by simp [beneath]⟩

namespace Node

mutual

/-- Whether the names of all entries in the tree pass a test. -/
def everyName (test : Text → Bool) : Node → Bool
  | .directory entries => everyEntry test entries
  | _ => true
  termination_by structural node => node

def everyEntry (test : Text → Bool) : List (Text × Node) → Bool
  | [] => true
  | (name, child) :: others => test name && child.everyName test && everyEntry test others
  termination_by structural entries => entries

end

mutual

/-- Whether no name in the tree has a slash in it, as in every file system. -/
def isSlashless : Node → Bool
  | .directory entries => areSlashless entries
  | _ => true
  termination_by structural node => node

def areSlashless : List (Text × Node) → Bool
  | [] => true
  | (name, child) :: others => !name.contains '/' && child.isSlashless && areSlashless others
  termination_by structural entries => entries

end

mutual

theorem isSlashless_eq : ∀ node : Node, node.isSlashless = node.everyName fun name => !name.contains '/'
  | .directory entries => areSlashless_eq entries
  | .file _ => rfl
  | .link _ => rfl
  termination_by structural node => node

theorem areSlashless_eq :
    ∀ entries : List (Text × Node), areSlashless entries = everyEntry (fun name => !name.contains '/') entries
  | [] => rfl
  | (name, child) :: others => by rw [areSlashless, everyEntry, isSlashless_eq child, areSlashless_eq others]
  termination_by structural entries => entries

end

variable {test : Text → Bool}

theorem everyName_of_mem {entries : List (Text × Node)} (every : everyEntry test entries = true)
    {entry : Text × Node} (member : entry ∈ entries) : test entry.1 = true ∧ entry.2.everyName test = true := by
  induction entries with
  | nil => cases member
  | cons first others ih =>
    simp only [everyEntry, Bool.and_eq_true] at every
    rcases List.mem_cons.mp member with rfl | later
    · exact every.1
    · exact ih every.2 later

theorem everyName_of_at? {tree : Node} (every : tree.everyName test = true) {location : Location} {node : Node}
    (found : tree.at? location = some node) :
    (∀ name ∈ location, test name = true) ∧ node.everyName test = true :=
  forall_of_at? (·.everyName test = true) (test · = true) (fun _ every _ => everyName_of_mem every) every found

theorem slashless_of_at? {tree : Node} (slashless : tree.isSlashless = true) {location : Location}
    {node : Node} (found : tree.at? location = some node) :
    (∀ name ∈ location, '/' ∉ name) ∧ node.isSlashless = true := by
  rw [isSlashless_eq] at slashless ⊢
  obtain ⟨names, inner⟩ := everyName_of_at? slashless found
  refine ⟨?_, inner⟩
  intro name member
  have passed := names name member
  rwa [Bool.not_eq_true', ← Bool.not_eq_true, List.contains_iff_mem] at passed

end Node

end ProjectSurvey
