import ProjectSurvey.Proofs.PlaceAgreement
import ProjectSurvey.Proofs.WalkOrder

/-! What a walk lists: exactly the names below its root that lead to regular files, each once, in the
order of the walk, however the directories are enumerated. -/

namespace ProjectSurvey

private theorem filterAuxM_onto {ε α : Type} (test : α → Except ε Bool) (xs done : List α) :
    xs.filterAuxM test done = (xs.filterAuxM test []).map (· ++ done) := by
  induction xs generalizing done with
  | nil => rfl
  | cons x xs ih =>
    simp only [List.filterAuxM, bind, Except.bind]
    cases test x with
    | error fault => rfl
    | ok keep =>
      cases keep
      · simpa using ih done
      · simp only [cond_true]
        rw [ih (x :: done), ih [x]]
        cases xs.filterAuxM test [] <;> simp [Except.map]

theorem filterM_cons {ε α : Type} (test : α → Except ε Bool) (x : α) (xs : List α) :
    (x :: xs).filterM test = (test x).bind fun keep =>
      (xs.filterM test).map fun rest => if keep then x :: rest else rest := by
  simp only [List.filterM, List.filterAuxM, bind, Except.bind, pure, Except.pure]
  cases test x with
  | error fault => rfl
  | ok keep =>
    cases keep
    · simp only [cond_false]
      cases xs.filterAuxM test [] <;> simp [Except.map]
    · simp only [cond_true]
      rw [filterAuxM_onto]
      cases xs.filterAuxM test [] <;> simp [Except.map]

theorem filterM_congr {ε α : Type} {first second : α → Except ε Bool} {xs : List α}
    (same : ∀ x ∈ xs, first x = second x) : xs.filterM first = xs.filterM second := by
  induction xs with
  | nil => rfl
  | cons x xs ih =>
    rw [filterM_cons, filterM_cons, same x List.mem_cons_self,
      ih fun y member => same y (List.mem_cons_of_mem _ member)]

/-- A test that fails nowhere keeps what passes it. -/
theorem filterM_eq_filter {ε α : Type} {test : α → Except ε Bool} {passes : α → Bool} {xs : List α}
    (answers : ∀ x ∈ xs, test x = .ok (passes x)) : xs.filterM test = .ok (xs.filter passes) := by
  induction xs with
  | nil => rfl
  | cons x xs ih =>
    rw [filterM_cons, answers x List.mem_cons_self,
      ih fun y member => answers y (List.mem_cons_of_mem _ member)]
    cases kept : passes x <;> simp [Except.bind, Except.map, kept]

/-- Filtering fails for what the test fails for somewhere. -/
theorem filterM_fault {ε α : Type} {test : α → Except ε Bool} {xs : List α} {fault : ε}
    (failed : xs.filterM test = .error fault) : ∃ x ∈ xs, test x = .error fault := by
  induction xs with
  | nil => cases failed
  | cons x xs ih =>
    rw [filterM_cons] at failed
    cases answer : test x with
    | error cause =>
      rw [answer] at failed
      cases failed
      exact ⟨x, List.mem_cons_self, answer⟩
    | ok keep =>
      rw [answer] at failed
      cases rest : xs.filterM test with
      | error cause =>
        rw [rest] at failed
        cases failed
        obtain ⟨y, member, stuck⟩ := ih rest
        exact ⟨y, List.mem_cons_of_mem _ member, stuck⟩
      | ok kept => rw [rest] at failed; cases failed

theorem filterM_fails {ε α : Type} {test : α → Except ε Bool} {xs : List α} :
    (∃ fault, xs.filterM test = .error fault) ↔ ∃ x ∈ xs, ∃ fault, test x = .error fault := by
  induction xs with
  | nil =>
    refine ⟨?_, fun ⟨_, member, _⟩ => by cases member⟩
    rintro ⟨_, failed⟩
    cases failed
  | cons x xs ih =>
    simp only [filterM_cons, List.exists_mem_cons_iff, ← ih]
    cases answer : test x with
    | error fault => simp [Except.bind]
    | ok keep => cases xs.filterM test <;> simp [Except.bind, Except.map]

namespace Place

variable {place other : Place} {root : Path}

theorem mem_listed {node : Node} {x : Location} :
    x ∈ place.listed root node ↔
      node.Meets x ∧ (place.list (root.descend x.dropLast)).isOk = true := by
  simp only [Place.listed, List.mem_filter, Node.mem_leaves]

private theorem directory_above_met (sound : place.tree.isSound = true) {base : Node} {x : Location}
    (found : place.find root = .ok base) (met : base.Meets x) :
    parentPart ∉ x.dropLast ∧ ∃ entries, base.at? x.dropLast = some (.directory entries) := by
  have baseSound := sound_of_find sound found
  obtain ⟨named, -, standing, shown, -⟩ := (Node.meets_iff baseSound).mp met
  obtain ⟨object, stands, -⟩ := Node.shapeAt?_eq_some.mp shown
  rw [← List.dropLast_append_getLast named] at stands
  obtain ⟨entries, directory⟩ := Node.directory_of_at?_append stands
  exact ⟨Node.parentPart_not_mem_of_at? baseSound directory, entries, directory⟩

/-- The directory of what is met can be listed unless its path or a name on it is too long. -/
theorem list_above_met (sound : place.tree.isSound = true) {base : Node} {x : Location}
    (found : place.find root = .ok base) (met : base.Meets x) :
    (place.list (root.descend x.dropLast)).isOk = true ↔
      textFault? (root.descend x.dropLast) = none ∧ AreShort x.dropLast := by
  obtain ⟨noParent, entries, directory⟩ := directory_above_met sound found met
  exact list_descend_isOk found directory noParent

theorem walk_found_fails {base : Node} (found : place.find root = .ok base) :
    (∃ fault, place.walk root = .error fault) ↔
      ∃ x ∈ place.listed root base, place.find (root.descend x) = .error .nameTooLong := by
  simp only [walk, found, filterM_fails]
  constructor
  · rintro ⟨_, member, fault, failed⟩
    obtain ⟨x, inside, rfl⟩ := List.mem_map.mp member
    obtain ⟨rfl, long⟩ := isFile_eq_error.mp failed
    exact ⟨x, inside, long⟩
  · rintro ⟨x, inside, long⟩
    exact ⟨root.descend x, List.mem_map_of_mem inside, .nameTooLong,
      isFile_eq_error.mpr ⟨rfl, long⟩⟩

theorem walk_found_fault {base : Node} {fault : Fault} (found : place.find root = .ok base)
    (failed : place.walk root = .error fault) : fault = .nameTooLong := by
  simp only [walk, found] at failed
  obtain ⟨_, _, stuck⟩ := filterM_fault failed
  exact (isFile_eq_error.mp stuck).1

/-- Whether a path is known to lead to a regular file. -/
def leadsToFile (place : Place) (path : Path) : Bool :=
  (place.isFile path).toOption.getD false

theorem leadsToFile_iff {path : Path} :
    place.leadsToFile path = true ↔ place.isFile path = .ok true := by
  simp only [leadsToFile]
  cases place.isFile path <;> simp [Except.toOption]

/-- A walk that can tell of all that is listed whether it is a file keeps the files. -/
theorem walk_eq_ok {base : Node} (found : place.find root = .ok base)
    (answers : ∀ x ∈ place.listed root base, ∃ answer, place.isFile (root.descend x) = .ok answer) :
    place.walk root =
      .ok (((place.listed root base).filter (place.leadsToFile ∘ root.descend)).map root.descend) := by
  simp only [walk, found]
  rw [← List.filter_map]
  apply filterM_eq_filter
  intro path member
  obtain ⟨x, inside, rfl⟩ := List.mem_map.mp member
  obtain ⟨answer, asked⟩ := answers x inside
  simp [leadsToFile, asked, Except.toOption]

theorem walk_unbroken {base : Node} (found : place.find root = .ok base)
    (unbroken : ¬ ∃ fault, place.walk root = .error fault) :
    place.walk root =
      .ok (((place.listed root base).filter (place.leadsToFile ∘ root.descend)).map root.descend) := by
  apply walk_eq_ok found
  intro x inside
  cases asked : place.isFile (root.descend x) with
  | ok answer => exact ⟨answer, rfl⟩
  | error fault =>
    obtain ⟨rfl, long⟩ := isFile_eq_error.mp asked
    exact False.elim (unbroken ((walk_found_fails found).mpr ⟨x, inside, long⟩))

theorem mem_of_walk {paths : List Path} (walked : place.walk root = .ok paths) {path : Path}
    (member : path ∈ paths) :
    ∃ base x, place.find root = .ok base ∧ x ∈ place.listed root base ∧ path = root.descend x := by
  cases found : place.find root with
  | error fault =>
    simp only [walk, found] at walked
    split at walked <;> cases walked
    cases member
  | ok base =>
    have unbroken : ¬ ∃ fault, place.walk root = .error fault :=
      fun ⟨_, failed⟩ => by cases walked.symm.trans failed
    cases walked.symm.trans (walk_unbroken found unbroken)
    obtain ⟨x, inside, rfl⟩ := List.mem_map.mp member
    exact ⟨base, x, rfl, (List.mem_filter.mp inside).1, rfl⟩

theorem listed_ordered (sound : place.tree.isSound = true) {base : Node}
    (found : place.find root = .ok base) : (place.listed root base).Pairwise VisitedBefore :=
  (Node.leaves_ordered (sound_of_find sound found)).filter _

theorem walk_of_fault (way : place.Alike other root) {fault : Fault}
    (failed : place.find root = .error fault) : other.walk root = place.walk root := by
  simp only [walk, failed, way.find_error failed]

/-- Places that agree on a root and on whatever a walk meets below it are walked alike. -/
theorem walk_congr (sound : place.tree.isSound = true) (otherSound : other.tree.isSound = true)
    (way : place.Alike other root)
    (met : ∀ base otherBase, place.find root = .ok base → other.find root = .ok otherBase →
      ∀ x, otherBase.Meets x ↔ base.Meets x)
    (below : ∀ base x, place.find root = .ok base → base.Meets x →
      place.Alike other (root.descend x)) :
    other.walk root = place.walk root := by
  cases found : place.find root with
  | error fault => exact walk_of_fault way found
  | ok base =>
    obtain ⟨otherBase, otherFound, _⟩ := way.find_ok found
    have both := met base otherBase found otherFound
    have leaves : otherBase.leaves = base.leaves := by
      refine eq_of_visited (Node.leaves_ordered (sound_of_find otherSound otherFound))
        (Node.leaves_ordered (sound_of_find sound found)) ?_
      intro x
      rw [Node.mem_leaves, Node.mem_leaves]
      exact both x
    have listed : other.listed root otherBase = place.listed root base := by
      simp only [Place.listed, leaves]
      apply List.filter_congr
      intro x member
      have reached := Node.mem_leaves.mp member
      rw [Bool.eq_iff_iff, list_above_met sound found reached,
        list_above_met otherSound otherFound ((both x).mpr reached)]
    simp only [walk, found, otherFound, listed]
    apply filterM_congr
    intro path member
    obtain ⟨x, inside, rfl⟩ := List.mem_map.mp member
    exact (below base x found (mem_listed.mp inside).1).isFile

/-- A walk fails for a character in its root, or else for a name that is too long, met in a directory
that can still be listed. Every other failure comes to nothing. -/
theorem walk_fails :
    (∃ fault, place.walk root = .error fault) ↔
      (∃ c ∈ root.toText, isNameable c = false) ∨
        ∃ base x, place.find root = .ok base ∧ base.Meets x ∧
          (place.list (root.descend x.dropLast)).isOk = true ∧
          place.find (root.descend x) = .error .nameTooLong := by
  rw [← Fault.ofText?_eq_some]
  cases found : place.find root with
  | error fault =>
    simp only [walk, found]
    constructor
    · rintro ⟨cause, failed⟩
      cases ofText : fault.isOfText with
      | true => exact .inl ⟨fault, (find_isOfText found).mp ofText⟩
      | false => simp [ofText] at failed
    · rintro (⟨cause, refused⟩ | ⟨_, _, again, _⟩)
      · have failed := find_of_textFault? place (textFault?_of_ofText? refused)
        cases failed.symm.trans found
        exact ⟨fault, by simp [Fault.isOfText_of_ofText? refused]⟩
      · cases again
  | ok base =>
    rw [walk_found_fails found]
    constructor
    · rintro ⟨x, inside, long⟩
      obtain ⟨met, listed⟩ := mem_listed.mp inside
      exact .inr ⟨base, x, rfl, met, listed, long⟩
    · rintro (⟨cause, refused⟩ | ⟨_, x, again, met, listed, long⟩)
      · have failed := find_of_textFault? place (textFault?_of_ofText? refused)
        cases failed.symm.trans found
      · cases again
        exact ⟨x, mem_listed.mpr ⟨met, listed⟩, long⟩

theorem isPruned_eq_false {name : Text} :
    isPruned name = false ↔ name.head? ≠ some '.' ∧ name ∉ ignoredDirectories := by
  have hidden : ".".toList.isPrefixOf name = true ↔ name.head? = some '.' := by
    change ['.'].isPrefixOf name = true ↔ _
    cases name with
    | nil => simp
    | cons c rest =>
      simp only [List.isPrefixOf, Bool.and_true, beq_iff_eq, List.head?_cons, Option.some.injEq]
      exact eq_comm
  rw [← Bool.not_eq_true, isPruned, Bool.or_eq_true, hidden, List.contains_iff_mem, not_or]

/-- The directory of what is met can be listed, unless the name below it is too long to be looked
at. -/
theorem list_above_short (sound : place.tree.isSound = true) {base : Node} {x : Location}
    (found : place.find root = .ok base) (met : base.Meets x)
    (accepted : textFault? (root.descend x) = none)
    (short : place.find (root.descend x) ≠ .error .nameTooLong) :
    (place.list (root.descend x.dropLast)).isOk = true := by
  obtain ⟨noParent, entries, directory⟩ := directory_above_met sound found met
  obtain ⟨here, located, stands⟩ := find_eq_ok.mp found
  refine (list_descend_isOk found directory noParent).mpr ?_
  by_cases outermost : x.dropLast = []
  · refine ⟨?_, by simp [AreShort, outermost]⟩
    simpa only [outermost, Path.descend, List.append_nil] using (locate_eq_ok.mp located).1
  · rw [← descend_dropLast root met.ne_nil] at accepted short
    have above := textFault?_of_descend (by simp [Path.descend, outermost]) accepted
    refine ⟨above, ?_⟩
    by_contra long
    have deeper : place.tree.at? (here ++ x.dropLast) = some (.directory entries) := by
      rw [Node.at?_append, stands]; exact directory
    have stuck := locate_descend located deeper (fun _ impossible => by cases impossible) noParent above
    rw [if_neg long] at stuck
    apply short
    simp only [find, locate_descend_error stuck above accepted, bind, Except.bind]

/-- What the walk of a root is to list. Below the directory that the root leads to, links followed,
the directories on the way stand there themselves and are not passed by; the last name leads, links
followed, to a regular file. -/
def Lists (place : Place) (root : Path) (x : Location) : Prop :=
  ∃ base directories name content, x = directories ++ [name] ∧ place.find root = .ok base ∧
    (∀ depth ≤ directories.length,
      base.shapeAt? (directories.take depth) = some .directory) ∧
    (∀ directory ∈ directories, directory.head? ≠ some '.' ∧ directory ∉ ignoredDirectories) ∧
    (base.at? x).isSome ∧ place.find (root.descend x) = .ok (.file content)

private theorem lists_iff (sound : place.tree.isSound = true) {base : Node}
    (found : place.find root = .ok base) {x : Location} :
    place.Lists root x ↔ base.Meets x ∧ place.isFile (root.descend x) = .ok true := by
  have baseSound := sound_of_find sound found
  rw [Node.meets_iff baseSound, isFile_eq_true]
  constructor
  · rintro ⟨_, directories, name, content, rfl, again, real, kept, present, reached⟩
    cases found.symm.trans again
    obtain ⟨node, stands⟩ := Option.isSome_iff_exists.mp present
    refine ⟨⟨by simp, ?_, node.shape, by simp [Node.shapeAt?, stands], ?_⟩, content, reached⟩
    · simpa only [List.dropLast_concat, isPruned_eq_false] using kept
    · intro directory
      obtain ⟨entries, rfl⟩ := Node.shape_eq_directory.mp directory
      obtain ⟨_, located, _⟩ := find_eq_ok.mp reached
      rw [find_descend found stands (fun _ impossible => by cases impossible)
        (Node.parentPart_not_mem_of_at? baseSound stands) (locate_eq_ok.mp located).1] at reached
      split at reached <;> cases reached
  · rintro ⟨⟨named, kept, standing, shown, -⟩, content, reached⟩
    obtain ⟨node, stands, -⟩ := Node.shapeAt?_eq_some.mp shown
    refine ⟨base, x.dropLast, x.getLast named, content, (List.dropLast_append_getLast named).symm,
      found, ?_, fun directory member => isPruned_eq_false.mp (kept directory member),
      by simp [stands], reached⟩
    intro depth _
    refine Node.shapeAt?_directory.mpr ?_
    have further : x.dropLast.take depth ++ (x.dropLast.drop depth ++ [x.getLast named]) = x := by
      rw [← List.append_assoc, List.take_append_drop, List.dropLast_append_getLast]
    cases rest : x.dropLast.drop depth ++ [x.getLast named] with
    | nil => simp at rest
    | cons next below =>
      rw [rest] at further
      rw [← further] at stands
      exact Node.directory_of_at?_append stands

/-- A walk of two trees with the same shapes at every location lists the same, however their directories are
enumerated. -/
theorem walk_of_same (sound : place.tree.isSound = true) {tree : Node} (otherSound : tree.isSound = true)
    (same : ∀ location, tree.shapeAt? location = place.tree.shapeAt? location) :
    Place.walk ⟨tree, place.current⟩ root = place.walk root := by
  have current : (⟨tree, place.current⟩ : Place).current = place.current := rfl
  have alike := alike_of_same current same
  refine walk_congr sound otherSound (alike root) ?_ fun _ _ _ _ => alike _
  intro base otherBase found otherFound x
  obtain ⟨here, located, stands⟩ := find_eq_ok.mp found
  obtain ⟨there, otherLocated, otherStands⟩ := find_eq_ok.mp otherFound
  rw [locate_of_same current same, located] at otherLocated
  cases otherLocated
  have below := same (here ++ x)
  simp only [Node.shapeAt?, Node.at?_append, stands, otherStands, Option.bind_some] at below
  rw [Node.meets_iff (sound_of_find otherSound otherFound), Node.meets_iff (sound_of_find sound found)]
  simp only [Node.shapeAt?, below]

/-- What is met can be asked about, and its directory listed, unless looking at it goes wrong. -/
theorem asked_of_settled (sound : place.tree.isSound = true) {base : Node} {x : Location}
    (found : place.find root = .ok base) (met : base.Meets x)
    (settled : ∀ fault, place.find (root.descend x) = .error fault →
      fault = .missing ∨ fault = .notDirectory ∨ fault = .tooManyLinks) :
    (place.list (root.descend x.dropLast)).isOk = true ∧
      ∃ passes, place.isFile (root.descend x) = .ok passes := by
  have short : place.find (root.descend x) ≠ .error .nameTooLong := by
    intro failed
    rcases settled _ failed with impossible | impossible | impossible <;> cases impossible
  have accepted : textFault? (root.descend x) = none := by
    cases refused : textFault? (root.descend x) with
    | none => rfl
    | some fault =>
      have failed := find_of_textFault? place refused
      rcases textFault?_cases refused with ⟨_, ofText⟩ | ⟨_, rfl⟩
      · rcases settled fault failed with rfl | rfl | rfl <;> cases ofText
      · exact False.elim (short failed)
  refine ⟨list_above_short sound found met accepted short, ?_⟩
  cases asked : place.isFile (root.descend x) with
  | ok passes => exact ⟨passes, rfl⟩
  | error fault =>
    obtain ⟨rfl, failed⟩ := isFile_eq_error.mp asked
    exact False.elim (short failed)

/-- Where looking at what is met succeeds or comes to nothing, a walk ends with exactly what it is to
list, each path once and in its order. How the directories are enumerated makes no difference. -/
theorem walk_lists (sound : place.tree.isSound = true)
    (nameable : ∀ c ∈ root.toText, isNameable c = true)
    (settled : ∀ base x fault, place.find root = .ok base → base.Meets x →
      place.find (root.descend x) = .error fault →
        fault = .missing ∨ fault = .notDirectory ∨ fault = .tooManyLinks) :
    ∃ locations : List Location, place.walk root = .ok (locations.map root.descend) ∧
      locations.Pairwise VisitedBefore ∧ (locations.map root.descend).Nodup ∧
      (∀ x, x ∈ locations ↔ place.Lists root x) ∧
      ∀ tree : Node, tree.isSound = true →
        (∀ location, tree.shapeAt? location = place.tree.shapeAt? location) →
        Place.walk ⟨tree, place.current⟩ root = place.walk root := by
  cases found : place.find root with
  | error fault =>
    have absent : fault.isOfText = false := by
      rw [← Bool.not_eq_true, find_isOfText found, Fault.ofText?_eq_none.mpr nameable]
      exact fun impossible => by cases impossible
    refine ⟨[], by simp [walk, found, absent], .nil, by simp, ?_, fun _ => walk_of_same sound⟩
    intro x
    simp only [List.not_mem_nil, false_iff]
    rintro ⟨_, _, _, _, _, again, _⟩
    cases found.symm.trans again
  | ok base =>
    have answers (x : Location) (met : base.Meets x) :=
      asked_of_settled sound found met fun fault => settled base x fault found met
    have kept := walk_eq_ok found fun x member => (answers x (mem_listed.mp member).1).2
    have chosen := (listed_ordered sound found).filter (place.leadsToFile ∘ root.descend)
    refine ⟨_, kept, chosen, ?_, ?_, fun _ => walk_of_same sound⟩
    · refine List.pairwise_map.mpr (chosen.imp fun {x y} before same => before.ne ?_)
      simpa [Path.descend] using same
    · intro x
      rw [lists_iff sound found, List.mem_filter, mem_listed, Function.comp_apply, leadsToFile_iff]
      exact and_congr_left fun _ => and_iff_left_of_imp fun met => (answers x met).1

/-- A project with a source file, a link that leads back to itself, a directory and a hidden one. -/
theorem walk_lists_small_project :
    let place : Place := ⟨.directory [
      ("main.py".toList, .file []), ("again".toList, .link "again"),
      ("src".toList, .directory [("part.py".toList, .link "../main.py")]),
      (".git".toList, .directory [("config".toList, .file [])])], []⟩
    ∃ locations : List Location, place.walk ⟨.here, []⟩ = .ok (locations.map (Path.descend ⟨.here, []⟩)) ∧
      ∀ x, x ∈ locations ↔ place.Lists ⟨.here, []⟩ x := by
  intro place
  have settled : ∀ base x fault, place.find ⟨.here, []⟩ = .ok base → base.Meets x →
      place.find (Path.descend ⟨.here, []⟩ x) = .error fault →
        fault = .missing ∨ fault = .notDirectory ∨ fault = .tooManyLinks := by
    intro base x fault found met failed
    have root : place.find ⟨.here, []⟩ = .ok place.tree := rfl
    cases root.symm.trans found
    cases met with
    | entry member other =>
      simp only [List.mem_cons, Prod.mk.injEq, List.not_mem_nil, or_false] at member
      rcases member with ⟨rfl, rfl⟩ | ⟨rfl, rfl⟩ | ⟨rfl, rfl⟩ | ⟨rfl, rfl⟩
      · cases failed
      · cases failed; exact .inr (.inr rfl)
      · cases other rfl
      · cases other rfl
    | deeper member kept met =>
      simp only [List.mem_cons, Prod.mk.injEq, List.not_mem_nil, or_false] at member
      rcases member with ⟨rfl, rfl⟩ | ⟨rfl, rfl⟩ | ⟨rfl, rfl⟩ | ⟨rfl, rfl⟩
      · cases met
      · cases met
      · cases met with
        | entry member other =>
          simp only [List.mem_singleton, Prod.mk.injEq] at member
          obtain ⟨rfl, rfl⟩ := member
          cases failed
        | deeper member kept met =>
          simp only [List.mem_singleton, Prod.mk.injEq] at member
          obtain ⟨rfl, rfl⟩ := member
          cases met
      · cases kept
  obtain ⟨locations, listed, _, _, exact, _⟩ := walk_lists (by decide) (List.all_eq_true.mp rfl) settled
  exact ⟨locations, listed, exact⟩

/-- A root with a lone surrogate in it holds no NUL character, and still nothing can be listed. -/
theorem walk_fails_at_lone_surrogate :
    ¬ ∀ (place : Place) (root : Path), place.tree.isSound = true → Char.ofNat 0 ∉ root.toText →
      (∀ base x fault, place.find root = .ok base → base.Meets x →
        place.find (root.descend x) = .error fault →
          fault = .missing ∨ fault = .notDirectory ∨ fault = .tooManyLinks) →
      ∃ paths, place.walk root = .ok paths := by
  intro always
  have refused : Place.find ⟨.directory [], []⟩ (.ofText [Text.charOf 0xD800]) =
      .error (.unencodable ⟨0, 1, 0xD800⟩) := rfl
  obtain ⟨paths, listed⟩ := always ⟨.directory [], []⟩ (.ofText [Text.charOf 0xD800]) (by decide)
    (by decide) (fun base _ _ found _ _ => by cases refused.symm.trans found)
  rw [walk, refused] at listed
  cases listed

end Place

end ProjectSurvey
