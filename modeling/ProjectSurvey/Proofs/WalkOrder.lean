import Mathlib.Data.List.Sort
import ProjectSurvey.FileTree.Walk
import ProjectSurvey.Proofs.TextOrder
import ProjectSurvey.Proofs.TreeShape

/-! The places that a walk visits below a directory, and the order in which it does. Together they
determine the list, so it does not matter how directories are enumerated. -/

namespace ProjectSurvey

/-- The order of a walk: in each directory its own files come before what lies below its
directories; files among themselves, and directories with all that is below them, go by name. -/
inductive VisitedBefore : Location → Location → Prop
  | files {a b : Text} : Text.Before a b → VisitedBefore [a] [b]
  | fileFirst {a b c : Text} {below : Location} : VisitedBefore [a] (b :: c :: below)
  | directories {a b c d : Text} {first second : Location} : Text.Before a b →
      VisitedBefore (a :: c :: first) (b :: d :: second)
  | inside {a c d : Text} {first second : Location} : VisitedBefore (c :: first) (d :: second) →
      VisitedBefore (a :: c :: first) (a :: d :: second)

theorem VisitedBefore.asymm {x y : Location} (first : VisitedBefore x y) : ¬ VisitedBefore y x := by
  induction first with
  | files less =>
    intro second
    cases second with
    | files greater => exact Text.Before.irrefl _ (less.trans greater)
  | fileFirst => intro second; cases second
  | directories less =>
    intro second
    cases second with
    | directories greater => exact Text.Before.irrefl _ (less.trans greater)
    | inside => exact Text.Before.irrefl _ less
  | inside _ ih =>
    intro second
    cases second with
    | directories greater => exact Text.Before.irrefl _ greater
    | inside second => exact ih second

instance : Std.Asymm VisitedBefore :=
  ⟨fun _ _ => VisitedBefore.asymm⟩

theorem VisitedBefore.ne {x y : Location} (first : VisitedBefore x y) : x ≠ y := by
  rintro rfl
  exact first.asymm first

theorem VisitedBefore.prepend {x y : Location} (before : VisitedBefore x y) (names : Location) :
    VisitedBefore (names ++ x) (names ++ y) := by
  have further (x : Location) (some : x ≠ []) (names : Location) :
      ∃ first rest, names ++ x = first :: rest :=
    List.exists_cons_of_ne_nil (List.append_ne_nil_of_right_ne_nil names some)
  have someFirst : x ≠ [] := by cases before <;> exact List.cons_ne_nil _ _
  have someSecond : y ≠ [] := by cases before <;> exact List.cons_ne_nil _ _
  induction names with
  | nil => exact before
  | cons name names ih =>
    obtain ⟨a, first, first_eq⟩ := further x someFirst names
    obtain ⟨b, second, second_eq⟩ := further y someSecond names
    rw [first_eq, second_eq] at ih
    rw [List.cons_append, List.cons_append, first_eq, second_eq]
    exact .inside ih

/-- Two lists in the order of the walk with the same members are one list. -/
theorem eq_of_visited {first second : List Location} (one : first.Pairwise VisitedBefore)
    (other : second.Pairwise VisitedBefore) (same : ∀ x, x ∈ first ↔ x ∈ second) :
    first = second :=
  one.eq_of_mem_iff other same

private theorem sorted_names (met : List Met) (distinct : (met.map (·.name)).Nodup) :
    (met.mergeSort fun a b => Text.inOrder a.name b.name).Pairwise
      fun a b => Text.Before a.name b.name := by
  have ordered : (met.mergeSort fun a b => Text.inOrder a.name b.name).Pairwise
      fun a b => Text.inOrder a.name b.name = true :=
    List.pairwise_mergeSort (fun a b c => Text.inOrder_trans a.name b.name c.name)
      (fun a b => Text.inOrder_total a.name b.name) met
  have differ : (met.mergeSort fun a b => Text.inOrder a.name b.name).Pairwise
      fun a b => a.name ≠ b.name := by
    have same := (List.mergeSort_perm met fun a b => Text.inOrder a.name b.name).map (·.name)
    exact List.pairwise_map.mp (same.nodup_iff.mpr distinct)
  refine (ordered.and differ).imp ?_
  rintro a b ⟨inOrder, differs⟩
  exact ((Text.inOrder_iff _ _).mp inOrder).resolve_right differs

/-- What is met is arranged in the order of its names, whatever order it is met in. -/
theorem arrange_eq {met sorted : List Met} (perm : met.Perm sorted)
    (ordered : sorted.Pairwise fun a b => Text.inOrder b.name a.name = false) :
    arrange met = (sorted.filterMap fun m => if m.below.isNone then some [m.name] else none) ++
      sorted.flatMap fun m => (m.below.getD []).map (m.name :: ·) := by
  have less : sorted.Pairwise fun a b => Text.Before a.name b.name := by
    refine ordered.imp fun {a b} apart => ?_
    obtain before | same := (Text.inOrder_iff a.name b.name).mp (by simpa [apart] using Text.inOrder_total a.name b.name)
    · exact before
    · rw [(Text.inOrder_iff _ _).mpr (.inr same.symm)] at apart
      cases apart
  have distinct : (met.map (·.name)).Nodup := by
    refine (perm.map _).nodup_iff.mpr (List.pairwise_map.mpr (less.imp ?_))
    exact fun before same => Text.Before.irrefl _ (same ▸ before)
  have same := List.Perm.eq_of_pairwise
    (fun a b _ _ before after => absurd (before.trans after) (Text.Before.irrefl _))
    (sorted_names met distinct) less ((List.mergeSort_perm met _).trans perm)
  simp only [arrange, same]

theorem mem_arrange {met : List Met} {x : Location} :
    x ∈ arrange met ↔ ∃ m ∈ met, (m.below = none ∧ x = [m.name]) ∨
      ∃ below, m.below = some below ∧ ∃ rest ∈ below, x = m.name :: rest := by
  simp only [arrange, List.mem_append, List.mem_filterMap, List.mem_flatMap, List.mem_mergeSort,
    List.mem_map]
  constructor
  · rintro (⟨m, member, found⟩ | ⟨m, member, rest, deeper, rfl⟩)
    · cases none : m.below <;> simp [none] at found
      exact ⟨m, member, .inl ⟨none, found.symm⟩⟩
    · cases some : m.below with
      | none => simp [some] at deeper
      | some below =>
        rw [some, Option.getD_some] at deeper
        exact ⟨m, member, .inr ⟨below, some, rest, deeper, rfl⟩⟩
  · rintro ⟨m, member, ⟨none, rfl⟩ | ⟨below, some, rest, deeper, rfl⟩⟩
    · exact .inl ⟨m, member, by simp [none]⟩
    · exact .inr ⟨m, member, rest, by simpa [some] using deeper, rfl⟩

theorem arrange_ordered {met : List Met} (distinct : (met.map (·.name)).Nodup)
    (inner : ∀ m ∈ met, ∀ below, m.below = some below →
      below.Pairwise VisitedBefore ∧ [] ∉ below) :
    (arrange met).Pairwise VisitedBefore := by
  have sorted := sorted_names met distinct
  have kept : ∀ m ∈ met.mergeSort fun a b => Text.inOrder a.name b.name, ∀ rest ∈ m.below.getD [],
      ∃ name others, rest = name :: others := by
    intro m member rest deeper
    cases some : m.below with
    | none => simp [some] at deeper
    | some below =>
      rw [some, Option.getD_some] at deeper
      have nonempty := (inner m (List.mem_mergeSort.mp member) below some).2
      cases rest with
      | nil => exact False.elim (nonempty deeper)
      | cons name others => exact ⟨name, others, rfl⟩
  simp only [arrange, List.pairwise_append]
  refine ⟨?_, ?_, ?_⟩
  · rw [List.pairwise_filterMap]
    refine sorted.imp ?_
    intro a b less x first y second
    simp only [Option.ite_none_right_eq_some, Option.some.injEq] at first second
    obtain ⟨-, rfl⟩ := first
    obtain ⟨-, rfl⟩ := second
    exact .files less
  · rw [List.pairwise_flatMap]
    constructor
    · intro m member
      rw [List.pairwise_map]
      cases some : m.below with
      | none => simp
      | some below =>
        have deeper := kept m member
        simp only [some, Option.getD_some] at deeper ⊢
        refine ((inner m (List.mem_mergeSort.mp member) below some).1).imp_of_mem ?_
        intro first second left right before
        obtain ⟨_, _, rfl⟩ := deeper first left
        obtain ⟨_, _, rfl⟩ := deeper second right
        exact .inside before
    · refine sorted.imp_of_mem ?_
      intro a b left right less x first y second
      obtain ⟨rest, deeper, rfl⟩ := List.mem_map.mp first
      obtain ⟨others, further, rfl⟩ := List.mem_map.mp second
      obtain ⟨_, _, rfl⟩ := kept a left rest deeper
      obtain ⟨_, _, rfl⟩ := kept b right others further
      exact .directories less
  · intro x first y second
    obtain ⟨a, -, found⟩ := List.mem_filterMap.mp first
    simp only [Option.ite_none_right_eq_some, Option.some.injEq] at found
    obtain ⟨-, rfl⟩ := found
    obtain ⟨b, member, second⟩ := List.mem_flatMap.mp second
    obtain ⟨rest, deeper, rfl⟩ := List.mem_map.mp second
    obtain ⟨_, _, rfl⟩ := kept b member rest deeper
    exact .fileFirst

namespace Node

/-- What a walk comes upon below a node: an entry that is no directory, in the node or below one of
its directories that are not pruned. -/
inductive Meets : Node → Location → Prop
  | entry {entries : List (Text × Node)} {name : Text} {child : Node} :
      (name, child) ∈ entries → child.shape ≠ .directory → Meets (.directory entries) [name]
  | deeper {entries : List (Text × Node)} {name : Text} {child : Node} {rest : Location} :
      (name, child) ∈ entries → isPruned name = false → child.Meets rest →
      Meets (.directory entries) (name :: rest)

theorem Meets.ne_nil {node : Node} {x : Location} (met : node.Meets x) : x ≠ [] := by
  cases met <;> exact List.cons_ne_nil _ _

theorem mem_meet {entries : List (Text × Node)} {m : Met} :
    m ∈ meet entries ↔ ∃ entry ∈ entries,
      (entry.2.shape ≠ .directory ∧ m = ⟨entry.1, none⟩) ∨
        (entry.2.shape = .directory ∧ isPruned entry.1 = false ∧
          m = ⟨entry.1, some entry.2.leaves⟩) := by
  induction entries with
  | nil => simp [meet]
  | cons entry others ih =>
    obtain ⟨name, child⟩ := entry
    cases child with
    | file content => simp [meet, shape, ih]
    | link target => simp [meet, shape, ih]
    | directory inner =>
      by_cases pruned : isPruned name = true
      · simp [meet, shape, ih, pruned]
      · simp [meet, shape, ih, pruned]

theorem mem_leaves {node : Node} {x : Location} : x ∈ node.leaves ↔ node.Meets x := by
  induction node using entriesInduction generalizing x with
  | file content => constructor <;> intro impossible <;> cases impossible
  | link target => constructor <;> intro impossible <;> cases impossible
  | directory entries ih =>
    simp only [leaves, mem_arrange, mem_meet]
    constructor
    · rintro ⟨m, ⟨⟨name, child⟩, member, kind⟩, found⟩
      rcases kind with ⟨other, rfl⟩ | ⟨_, kept, rfl⟩
      · rcases found with ⟨_, rfl⟩ | ⟨_, impossible, _⟩
        · exact .entry member other
        · cases impossible
      · rcases found with ⟨impossible, _⟩ | ⟨below, same, rest, deeper, rfl⟩
        · cases impossible
        · cases same
          exact .deeper member kept ((ih _ member).mp deeper)
    · intro met
      cases met with
      | @entry _ name child member other =>
        exact ⟨_, ⟨(name, child), member, .inl ⟨other, rfl⟩⟩, .inl ⟨rfl, rfl⟩⟩
      | @deeper _ name child rest member kept deeper =>
        have directory : child.shape = .directory := by cases deeper <;> rfl
        exact ⟨_, ⟨(name, child), member, .inr ⟨directory, kept, rfl⟩⟩,
          .inr ⟨_, rfl, rest, (ih _ member).mpr deeper, rfl⟩⟩

private theorem meet_names (entries : List (Text × Node)) :
    ((meet entries).map (·.name)).Sublist (entries.map (·.1)) := by
  induction entries with
  | nil => simp [meet]
  | cons entry others ih =>
    obtain ⟨name, child⟩ := entry
    cases child with
    | file content => simpa [meet] using ih
    | link target => simpa [meet] using ih
    | directory inner =>
      by_cases pruned : isPruned name = true
      · simpa [meet, pruned] using ih.cons name
      · simpa [meet, pruned] using ih

theorem leaves_ordered {node : Node} (sound : node.isSound = true) :
    node.leaves.Pairwise VisitedBefore := by
  induction node using entriesInduction with
  | file content => exact .nil
  | link target => exact .nil
  | directory entries ih =>
    obtain ⟨distinct, inner⟩ := isSound_directory.mp sound
    refine arrange_ordered ((meet_names entries).nodup distinct) ?_
    intro m member below same
    obtain ⟨entry, present, ⟨_, rfl⟩ | ⟨_, _, rfl⟩⟩ := mem_meet.mp member
    · cases same
    · cases same
      exact ⟨ih entry present (inner entry present).2, fun empty => (mem_leaves.mp empty).ne_nil rfl⟩

/-- What is met in a sound tree is what is no directory and stands in directories of which none is
pruned. -/
theorem meets_iff {node : Node} (sound : node.isSound = true) {x : Location} :
    node.Meets x ↔ x ≠ [] ∧ (∀ name ∈ x.dropLast, isPruned name = false) ∧
      ∃ standing, node.shapeAt? x = some standing ∧ standing ≠ .directory := by
  constructor
  · intro met
    induction met with
    | @entry entries name child member other =>
      have present := childNamed_of_mem (isSound_directory.mp sound).1 member
      exact ⟨List.cons_ne_nil _ _, by simp, child.shape, by simp [shapeAt?, present], other⟩
    | @deeper entries name child rest member kept met ih =>
      have present := childNamed_of_mem (isSound_directory.mp sound).1 member
      obtain ⟨nonempty, names, standing, found, other⟩ :=
        ih ((isSound_directory.mp sound).2 _ member).2
      refine ⟨List.cons_ne_nil _ _, ?_, standing, ?_, other⟩
      · simp only [List.dropLast_cons_of_ne_nil nonempty, List.forall_mem_cons]
        exact ⟨kept, names⟩
      · simpa [shapeAt?, present] using found
  · rintro ⟨nonempty, names, standing, found, other⟩
    obtain ⟨object, stands, rfl⟩ := shapeAt?_eq_some.mp found
    clear sound found
    induction x generalizing node with
    | nil => exact False.elim (nonempty rfl)
    | cons name rest ih =>
      cases node with
      | file _ => cases stands
      | link _ => cases stands
      | directory entries =>
        rw [at?_directory, Option.bind_eq_some_iff] at stands
        obtain ⟨child, present, stands⟩ := stands
        cases rest with
        | nil =>
          simp only [at?_nil, Option.some.injEq] at stands
          exact .entry (mem_of_childNamed present) (stands ▸ other)
        | cons next rest =>
          simp only [List.dropLast_cons_cons, List.forall_mem_cons] at names
          exact .deeper (mem_of_childNamed present) names.1
            (ih (List.cons_ne_nil _ _) names.2 stands)

end Node

end ProjectSurvey
