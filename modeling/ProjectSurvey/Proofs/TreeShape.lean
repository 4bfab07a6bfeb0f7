import Mathlib.Data.List.Nodup
import ProjectSurvey.FileTree.Basic

/-! What stands where in a tree, whatever the order in which its directories are listed. Two trees
with the same shape at every location are one tree to whoever follows paths through them. -/

namespace ProjectSurvey

/-- An object of a tree, apart from what a directory holds. -/
inductive Shape where
  | file (content : Bytes)
  | link (target : Text)
  | directory
  deriving DecidableEq

/-- Whether two shapes are the same, or those of two files. -/
inductive Shape.IsLike : Shape → Shape → Prop where
  | same (shape : Shape) : IsLike shape shape
  | files (content other : Bytes) : IsLike (.file content) (.file other)

namespace Node

def shape : Node → Shape
  | .file content => .file content
  | .link target => .link target
  | .directory _ => .directory

/-- What stands at a location, following no link. -/
def shapeAt? (tree : Node) (location : Location) : Option Shape :=
  (tree.at? location).map shape

mutual

/-- Whether the names in each directory differ and none of them is `..`, as in every file system. -/
def isSound : Node → Bool
  | .directory entries => decide (entries.map (·.1)).Nodup && areSound entries
  | _ => true
  termination_by structural node => node

def areSound : List (Text × Node) → Bool
  | [] => true
  | (name, child) :: others => name != parentPart && child.isSound && areSound others
  termination_by structural entries => entries

end

/-- Induction over a tree with the entries of a directory taken together. -/
theorem entriesInduction {motive : Node → Prop} (file : ∀ content, motive (.file content))
    (link : ∀ target, motive (.link target))
    (directory : ∀ entries, (∀ entry ∈ entries, motive entry.2) → motive (.directory entries)) :
    ∀ node, motive node
  | .file content => file content
  | .link target => link target
  | .directory entries => directory entries fun entry member =>
      have smaller : sizeOf entry < sizeOf entries := List.sizeOf_lt_of_mem member
      have inside : sizeOf entry.2 < sizeOf entry := by
        cases entry
        simp only [Prod.mk.sizeOf_spec]
        omega
      entriesInduction file link directory entry.2
  termination_by node => sizeOf node
  decreasing_by simp; omega

theorem areSound_iff (entries : List (Text × Node)) :
    areSound entries = true ↔ ∀ entry ∈ entries, entry.1 ≠ parentPart ∧ entry.2.isSound = true := by
  induction entries with
  | nil => simp [areSound]
  | cons entry others ih =>
    simp only [areSound, Bool.and_eq_true, bne_iff_ne, ih, List.forall_mem_cons]

theorem isSound_directory {entries : List (Text × Node)} :
    (directory entries).isSound = true ↔ (entries.map (·.1)).Nodup ∧
      ∀ entry ∈ entries, entry.1 ≠ parentPart ∧ entry.2.isSound = true := by
  simp only [isSound, Bool.and_eq_true, decide_eq_true_eq, areSound_iff]

theorem mem_of_childNamed {entries : List (Text × Node)} {name : Text} {child : Node}
    (found : childNamed? entries name = some child) : (name, child) ∈ entries := by
  simp only [childNamed?, Option.map_eq_some_iff] at found
  obtain ⟨⟨other, node⟩, found, rfl⟩ := found
  have same : other = name := by simpa using List.find?_some found
  exact same ▸ List.mem_of_find?_eq_some found

theorem childNamed_of_mem {entries : List (Text × Node)} {name : Text} {child : Node}
    (distinct : (entries.map (·.1)).Nodup) (member : (name, child) ∈ entries) :
    childNamed? entries name = some child := by
  induction entries with
  | nil => cases member
  | cons entry others ih =>
    obtain ⟨absent, rest⟩ := List.nodup_cons.mp distinct
    rcases List.mem_cons.mp member with rfl | later
    · simp [childNamed?]
    · have differs : entry.1 ≠ name := by
        intro same
        exact absent (List.mem_map.mpr ⟨(name, child), later, same.symm⟩)
      simpa [childNamed?, differs] using ih rest later

theorem childNamed_isSome {entries : List (Text × Node)} {name : Text} :
    (childNamed? entries name).isSome = true ↔ name ∈ entries.map (·.1) := by
  simp [childNamed?, List.find?_isSome]

@[simp] theorem at?_nil (tree : Node) : tree.at? [] = some tree := by
  cases tree <;> rfl

@[simp] theorem at?_directory (entries : List (Text × Node)) (name : Text) (location : Location) :
    (directory entries).at? (name :: location) = (childNamed? entries name).bind (·.at? location) :=
  rfl

@[simp] theorem at?_file (content : Bytes) (name : Text) (location : Location) :
    (file content).at? (name :: location) = none := rfl

@[simp] theorem at?_link (target : Text) (name : Text) (location : Location) :
    (link target).at? (name :: location) = none := rfl

theorem at?_append (tree : Node) (above below : Location) :
    tree.at? (above ++ below) = (tree.at? above).bind (·.at? below) := by
  induction above generalizing tree with
  | nil => simp
  | cons name above ih =>
    cases tree with
    | directory entries =>
      simp only [List.cons_append, at?_directory]
      cases childNamed? entries name with
      | none => rfl
      | some child => exact ih child
    | file _ => rfl
    | link _ => rfl

/-- What stands in a directory of the tree is found by name among its entries. -/
theorem at?_concat {tree : Node} {here : Location} {entries : List (Text × Node)}
    (found : tree.at? here = some (.directory entries)) (name : Text) :
    tree.at? (here ++ [name]) = childNamed? entries name := by
  simp [at?_append, found]

/-- Only directories have something below them. -/
theorem directory_of_at?_append {tree : Node} {above : Location} {name : Text} {below : Location}
    {node : Node} (found : tree.at? (above ++ name :: below) = some node) :
    ∃ entries, tree.at? above = some (.directory entries) := by
  rw [at?_append, Option.bind_eq_some_iff] at found
  obtain ⟨parent, found, deeper⟩ := found
  cases parent with
  | directory entries => exact ⟨entries, found⟩
  | file _ => cases deeper
  | link _ => cases deeper

/-- What holds of a tree and goes down from a directory to its entries holds of all that stands in the tree, and
what the entries of such a directory are called holds of the names on the way. -/
theorem forall_of_at? (Holds : Node → Prop) (Fits : Text → Prop)
    (down : ∀ entries, Holds (.directory entries) → ∀ entry ∈ entries, Fits entry.1 ∧ Holds entry.2)
    {tree : Node} (holds : Holds tree) {location : Location} {node : Node}
    (found : tree.at? location = some node) : (∀ name ∈ location, Fits name) ∧ Holds node := by
  induction location generalizing tree with
  | nil =>
    simp only [at?_nil, Option.some.injEq] at found
    exact ⟨List.forall_mem_nil _, found ▸ holds⟩
  | cons name location ih =>
    cases tree with
    | directory entries =>
      rw [at?_directory, Option.bind_eq_some_iff] at found
      obtain ⟨child, present, found⟩ := found
      obtain ⟨fits, below⟩ := down entries holds _ (mem_of_childNamed present)
      obtain ⟨names, inner⟩ := ih below found
      exact ⟨List.forall_mem_cons.mpr ⟨fits, names⟩, inner⟩
    | file _ => cases found
    | link _ => cases found

theorem isSound_of_at? {tree : Node} (sound : tree.isSound = true) {location : Location} {node : Node}
    (found : tree.at? location = some node) : node.isSound = true :=
  (forall_of_at? (·.isSound = true) (· ≠ parentPart) (fun _ sound => (isSound_directory.mp sound).2) sound found).2

/-- No location of a sound tree passes through an entry called `..`. -/
theorem parentPart_not_mem_of_at? {tree : Node} (sound : tree.isSound = true) {location : Location}
    {node : Node} (found : tree.at? location = some node) : parentPart ∉ location := by
  obtain ⟨others, -⟩ := forall_of_at? (·.isSound = true) (· ≠ parentPart)
    (fun _ sound => (isSound_directory.mp sound).2) sound found
  exact fun member => others parentPart member rfl

theorem shape_eq_directory {node : Node} :
    node.shape = .directory ↔ ∃ entries, node = .directory entries := by
  cases node <;> simp [shape]

theorem shapeAt?_eq_some {tree : Node} {location : Location} {shape : Shape} :
    tree.shapeAt? location = some shape ↔ ∃ node, tree.at? location = some node ∧ node.shape = shape :=
  Option.map_eq_some_iff

theorem shapeAt?_eq_none {tree : Node} {location : Location} :
    tree.shapeAt? location = none ↔ tree.at? location = none :=
  Option.map_eq_none_iff

theorem shapeAt?_directory {tree : Node} {location : Location} :
    tree.shapeAt? location = some .directory ↔
      ∃ entries, tree.at? location = some (.directory entries) := by
  rw [shapeAt?_eq_some]
  constructor
  · rintro ⟨node, found, same⟩
    obtain ⟨entries, rfl⟩ := shape_eq_directory.mp same
    exact ⟨entries, found⟩
  · rintro ⟨entries, found⟩
    exact ⟨_, found, rfl⟩

end Node

end ProjectSurvey
