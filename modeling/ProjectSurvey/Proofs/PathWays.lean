import Mathlib.Logic.Relation
import ProjectSurvey.Proofs.PathResolution

/-! The ways that paths take through a tree, move by move, and what they come by. Where two trees agree on
all that the way of a path comes by, the path leads to the same place in both. -/

namespace ProjectSurvey

namespace Node

/-- One move on the way of a path, from where it has come to with the steps that are left. A link is come
by before the way goes on behind it. -/
inductive Moves (tree : Node) : Location × List Step → Location × List Step → Prop
  | stay {here : Location} {steps : List Step} : tree.shapeAt? here = some .directory →
      Moves tree (here, .stay :: steps) (here, steps)
  | up {here : Location} {steps : List Step} : tree.shapeAt? here = some .directory →
      Moves tree (here, .up :: steps) (here.dropLast, steps)
  | enter {here : Location} {name : Text} {shape : Shape} {steps : List Step} :
      tree.shapeAt? here = some .directory → tree.shapeAt? (here ++ [name]) = some shape →
      Moves tree (here, .enter name :: steps) (here ++ [name], steps)
  | link {here : Location} {target : Text} {steps : List Step} :
      tree.shapeAt? here = some (.link target) →
      Moves tree (here, steps)
        (startOf here.dropLast (Path.anchorOf target), Step.ofTarget target ++ steps)

/-- Whether the way of steps from a location comes by another one, however many links it leads through. -/
def ComesBy (tree : Node) (here : Location) (steps : List Step) (goal : Location) : Prop :=
  ∃ rest, Relation.ReflTransGen tree.Moves (here, steps) (goal, rest)

variable {tree : Node} {here there goal : Location} {steps rest : List Step}

theorem Moves.unique {start first second : Location × List Step} (one : tree.Moves start first)
    (other : tree.Moves start second) : first = second := by
  cases one with
  | stay directory =>
    cases other with
    | stay _ => rfl
    | link link => cases directory.symm.trans link
  | up directory =>
    cases other with
    | up _ => rfl
    | link link => cases directory.symm.trans link
  | enter directory _ =>
    cases other with
    | enter _ _ => rfl
    | link link => cases directory.symm.trans link
  | link link =>
    cases other with
    | stay directory => cases directory.symm.trans link
    | up directory => cases directory.symm.trans link
    | enter directory _ => cases directory.symm.trans link
    | link again => cases again.symm.trans link; rfl

theorem Moves.append (moves : tree.Moves (here, steps) (there, rest)) (more : List Step) :
    tree.Moves (here, steps ++ more) (there, rest ++ more) := by
  cases moves with
  | stay directory => exact .stay directory
  | up directory => exact .up directory
  | enter directory inside => exact .enter directory inside
  | link link =>
    rw [List.append_assoc]
    exact .link link

theorem comesBy_self (tree : Node) (here : Location) (steps : List Step) : tree.ComesBy here steps here :=
  ⟨steps, .refl⟩

theorem Moves.comesBy (moves : tree.Moves (here, steps) (there, rest))
    (onward : tree.ComesBy there rest goal) : tree.ComesBy here steps goal := by
  obtain ⟨last, run⟩ := onward
  exact ⟨last, .head moves run⟩

theorem comesBy_cases (comes : tree.ComesBy here steps goal) :
    goal = here ∨ ∃ there rest, tree.Moves (here, steps) (there, rest) ∧ tree.ComesBy there rest goal := by
  obtain ⟨last, run⟩ := comes
  rcases Relation.ReflTransGen.cases_head run with same | ⟨⟨there, rest⟩, moves, run⟩
  · cases same
    exact .inl rfl
  · exact .inr ⟨there, rest, moves, last, run⟩

theorem comesBy_end (real : ∀ target, tree.shapeAt? here ≠ some (.link target))
    (comes : tree.ComesBy here [] goal) : goal = here := by
  rcases comesBy_cases comes with same | ⟨_, _, moves, _⟩
  · exact same
  · cases moves with
    | link link => exact absurd link (real _)

theorem comesBy_append {more : List Step}
    (run : Relation.ReflTransGen tree.Moves (here, steps) (there, []))
    (comes : tree.ComesBy here (steps ++ more) goal) :
    tree.ComesBy here steps goal ∨ tree.ComesBy there more goal := by
  generalize start : (here, steps) = config at run
  induction run using Relation.ReflTransGen.head_induction_on generalizing here steps with
  | refl =>
    cases start
    exact .inr comes
  | head moves _ ih =>
    cases start
    rcases comesBy_cases comes with rfl | ⟨_, _, first, onward⟩
    · exact .inl (comesBy_self tree _ _)
    · cases first.unique (moves.append more)
      exact (ih onward rfl).imp_left moves.comesBy

theorem run_of_follow (links : Nat) (here : Location) (steps : List Step)
    (reached : tree.follow false links here steps = .ok there) :
    Relation.ReflTransGen tree.Moves (here, steps) (there, []) := by
  rw [follow_eq_ok] at reached
  induction reached with
  | done => exact .refl
  | stay directory _ ih => exact .head (.stay directory) ih
  | up directory _ ih => exact .head (.up directory) ih
  | new _ _ _ asked => cases asked
  | enter directory _ stands _ _ ih => exact .head (.enter directory stands) ih
  | link directory _ link _ ih =>
    refine .head (.enter directory link) (.head (.link link) ?_)
    rw [List.dropLast_concat]
    exact ih

/-- The way along names comes by what stands under them, and by more only behind a link at their end. -/
theorem comesBy_names {names : List Text} {shape : Shape}
    (stands : tree.shapeAt? (here ++ names) = some shape) (noParent : parentPart ∉ names)
    (comes : tree.ComesBy here (names.map Step.ofPart) goal) :
    (∃ depth, goal = here ++ names.take depth) ∨ tree.ComesBy (here ++ names) [] goal := by
  induction names generalizing here with
  | nil => exact .inr (by simpa using comes)
  | cons name names ih =>
    simp only [List.mem_cons, not_or] at noParent
    obtain ⟨node, standing, -⟩ := shapeAt?_eq_some.mp stands
    have directory := shapeAt?_directory.mpr (directory_of_at?_append standing)
    rcases comesBy_cases comes with same | ⟨_, _, moves, onward⟩
    · exact .inl ⟨0, by simpa using same⟩
    · rw [List.map_cons, Step.ofPart, if_neg (Ne.symm noParent.1)] at moves
      cases moves with
      | enter _ _ =>
        rcases ih (by simpa using stands) noParent.2 onward with ⟨depth, same⟩ | behind
        · exact .inl ⟨depth + 1, by simpa using same⟩
        · exact .inr (by simpa using behind)
      | link link => cases directory.symm.trans link

theorem comesBy_of_stands {names : List Text} {shape : Shape} (stands : tree.shapeAt? (here ++ names) = some shape)
    (noParent : parentPart ∉ names) : tree.ComesBy here (names.map Step.ofPart) (here ++ names) := by
  induction names generalizing here with
  | nil =>
    rw [List.append_nil]
    exact comesBy_self tree here _
  | cons name names ih =>
    simp only [List.mem_cons, not_or] at noParent
    obtain ⟨node, standing, -⟩ := shapeAt?_eq_some.mp stands
    have directory := shapeAt?_directory.mpr (directory_of_at?_append standing)
    rw [List.append_cons] at standing stands ⊢
    rw [at?_append, Option.bind_eq_some_iff] at standing
    obtain ⟨inner, inside, -⟩ := standing
    rw [List.map_cons, Step.ofPart, if_neg (Ne.symm noParent.1)]
    exact (Moves.enter directory (shapeAt?_eq_some.mpr ⟨inner, inside, rfl⟩)).comesBy (ih stands noParent.2)

theorem comesBy_real {names : List Text} {shape : Shape} (stands : tree.shapeAt? (here ++ names) = some shape)
    (real : ∀ target, shape ≠ .link target) (noParent : parentPart ∉ names)
    (comes : tree.ComesBy here (names.map Step.ofPart) goal) : ∃ depth, goal = here ++ names.take depth := by
  rcases comesBy_names stands noParent comes with along | behind
  · exact along
  · have last := comesBy_end (fun target link => real target (Option.some.inj (stands.symm.trans link))) behind
    exact ⟨names.length, by rw [last, List.take_length]⟩

/-- Whether the way of steps comes by nothing unseen in either of two trees. -/
structure Clear (a b : Node) (seen otherSeen : Location → Prop) (here : Location) (steps : List Step) :
    Prop where
  one : ∀ goal, a.ComesBy here steps goal → seen goal
  other : ∀ goal, b.ComesBy here steps goal → otherSeen goal

section Agreement

variable {a b : Node} {seen otherSeen : Location → Prop}

theorem Clear.onward (clear : Clear a b seen otherSeen here steps)
    (moves : a.Moves (here, steps) (there, rest)) (otherMoves : b.Moves (here, steps) (there, rest)) :
    Clear a b seen otherSeen there rest :=
  ⟨fun goal comes => clear.one goal (moves.comesBy comes),
    fun goal comes => clear.other goal (otherMoves.comesBy comes)⟩

variable (same : ∀ location shape, (b.shapeAt? location = some shape ∧ otherSeen location) ↔
  (a.shapeAt? location = some shape ∧ seen location))

include same

theorem shapeAt?_agree {location : Location} (clear : ∀ shape, a.shapeAt? location = some shape → seen location)
    (otherClear : ∀ shape, b.shapeAt? location = some shape → otherSeen location) :
    b.shapeAt? location = a.shapeAt? location := by
  apply Option.ext
  intro shape
  constructor
  · intro stands
    exact ((same location shape).mp ⟨stands, otherClear shape stands⟩).1
  · intro stands
    exact ((same location shape).mpr ⟨stands, clear shape stands⟩).1

theorem Clear.standing (clear : Clear a b seen otherSeen here steps) :
    b.shapeAt? here = a.shapeAt? here :=
  shapeAt?_agree same (fun _ _ => clear.one here (comesBy_self a here steps))
    fun _ _ => clear.other here (comesBy_self b here steps)

theorem Clear.entered {name : Text} (clear : Clear a b seen otherSeen here (.enter name :: steps))
    (directory : a.shapeAt? here = some .directory) :
    b.shapeAt? (here ++ [name]) = a.shapeAt? (here ++ [name]) := by
  have otherDirectory := (clear.standing same).trans directory
  apply shapeAt?_agree same
  · intro shape stands
    exact clear.one _ (Moves.comesBy (.enter directory stands) (comesBy_self a _ _))
  · intro shape stands
    exact clear.other _ (Moves.comesBy (.enter otherDirectory stands) (comesBy_self b _ _))

private theorem take_agree {onward otherOnward : Location → List Step → Except Fault Location}
    (beyond : ∀ here steps, Clear a b seen otherSeen here steps → otherOnward here steps = onward here steps)
    (steps : List Step) (here : Location) (clear : Clear a b seen otherSeen here steps) :
    b.take false otherOnward here steps = a.take false onward here steps := by
  induction steps generalizing here with
  | nil => rfl
  | cons step steps ih =>
    have standing := clear.standing same
    refine take_cons_congr (like_of_eq standing) ?_ ?_ ?_ ?_ ?_
    · rintro shown rfl
      exact ih _ (clear.onward (.stay shown) (.stay (standing.trans shown)))
    · rintro shown rfl
      exact ih _ (clear.onward (.up shown) (.up (standing.trans shown)))
    · rintro name shown rfl
      exact like_of_eq (clear.entered same shown)
    · rintro name shape rfl shown entered -
      have inside := clear.entered same shown
      exact ih _ (clear.onward (.enter shown entered) (.enter (standing.trans shown) (inside.trans entered)))
    · rintro name target rfl shown entered
      have inside := clear.entered same shown
      have next := clear.onward (.enter shown entered) (.enter (standing.trans shown) (inside.trans entered))
      have behind := next.onward (.link entered) (.link (inside.trans entered))
      rw [List.dropLast_concat] at behind
      exact beyond _ _ behind

theorem follow_agree (links : Nat) (here : Location) (steps : List Step)
    (clear : Clear a b seen otherSeen here steps) :
    b.follow false links here steps = a.follow false links here steps := by
  induction links generalizing here steps with
  | zero => exact take_agree same (fun _ _ _ => rfl) steps here clear
  | succ links ih => exact take_agree same ih steps here clear

end Agreement

end Node

end ProjectSurvey
