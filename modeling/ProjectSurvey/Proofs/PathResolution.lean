import ProjectSurvey.FileTree.Access
import ProjectSurvey.Proofs.TreeShape

/-! Following paths, said through the shapes of trees: which faults it can end in, how it goes on
behind a place that has been reached, and where it still leads when things have been added. -/

namespace ProjectSurvey

/-- The faults in which following a path can end once its text is in order. -/
def Fault.isOfWay : Fault → Bool
  | .missing | .notDirectory | .nameTooLong | .tooManyLinks => true
  | _ => false

/-- Whether none of the names is too long for a file system. -/
def AreShort (names : List Text) : Prop :=
  ∀ name ∈ names, systemLength name ≤ nameLimit

instance (names : List Text) : Decidable (AreShort names) :=
  inferInstanceAs (Decidable (∀ name ∈ names, systemLength name ≤ nameLimit))

theorem areShort_cons {name : Text} {names : List Text} :
    AreShort (name :: names) ↔ systemLength name ≤ nameLimit ∧ AreShort names :=
  List.forall_mem_cons

namespace Node

/-- What goes on behind a link when `links` more of them may be followed. -/
def behind (tree : Node) (toNew : Bool) : (links : Nat) → Location → List Step →
    Except Fault Location
  | 0 => fun _ _ => .error .tooManyLinks
  | links + 1 => tree.follow toNew links

theorem follow_eq_take (tree : Node) (toNew : Bool) (links : Nat) :
    tree.follow toNew links = tree.take toNew (tree.behind toNew links) := by
  cases links <;> rfl

/-- One step along a path depends on the shapes of two locations only. -/
theorem take_cons (tree : Node) (toNew : Bool) (onward : Location → List Step → Except Fault Location)
    (here : Location) (step : Step) (steps : List Step) :
    tree.take toNew onward here (step :: steps) =
      match tree.shapeAt? here with
      | none => .error .missing
      | some .directory =>
        match step with
        | .stay => tree.take toNew onward here steps
        | .up => tree.take toNew onward here.dropLast steps
        | .enter name =>
          if nameLimit < systemLength name then .error .nameTooLong
          else match tree.shapeAt? (here ++ [name]) with
            | none => if toNew && steps.isEmpty then .ok (here ++ [name]) else .error .missing
            | some (.link target) =>
              onward (startOf here (Path.anchorOf target)) (Step.ofTarget target ++ steps)
            | some _ => tree.take toNew onward (here ++ [name]) steps
      | some _ => .error .notDirectory := by
  rw [take]
  cases found : tree.at? here with
  | none => simp [shapeAt?, found]
  | some node =>
    cases node with
    | file content => simp [shapeAt?, found, shape]
    | link target => simp [shapeAt?, found, shape]
    | directory entries =>
      cases step with
      | stay => simp [shapeAt?, found, shape]
      | up => simp [shapeAt?, found, shape]
      | enter name =>
        simp only [shapeAt?, found, Option.map_some, shape, at?_concat found]
        cases childNamed? entries name with
        | none => rfl
        | some child => cases child <;> rfl

/-- The way that steps take to a location through at most so many links: what stands where each of them is
taken. With `toNew` the last name may be one under which nothing stands. -/
inductive Reaches (tree : Node) (toNew : Bool) : (links : Nat) → Location → List Step → Location → Prop
  | done {links : Nat} {here : Location} : tree.Reaches toNew links here [] here
  | stay {links : Nat} {here there : Location} {steps : List Step} :
      tree.shapeAt? here = some .directory → tree.Reaches toNew links here steps there →
      tree.Reaches toNew links here (.stay :: steps) there
  | up {links : Nat} {here there : Location} {steps : List Step} :
      tree.shapeAt? here = some .directory → tree.Reaches toNew links here.dropLast steps there →
      tree.Reaches toNew links here (.up :: steps) there
  | new {links : Nat} {here : Location} {name : Text} :
      tree.shapeAt? here = some .directory → systemLength name ≤ nameLimit →
      tree.shapeAt? (here ++ [name]) = none → toNew = true →
      tree.Reaches toNew links here [.enter name] (here ++ [name])
  | enter {links : Nat} {here there : Location} {name : Text} {shape : Shape} {steps : List Step} :
      tree.shapeAt? here = some .directory → systemLength name ≤ nameLimit →
      tree.shapeAt? (here ++ [name]) = some shape → (∀ target, shape ≠ .link target) →
      tree.Reaches toNew links (here ++ [name]) steps there →
      tree.Reaches toNew links here (.enter name :: steps) there
  | link {links : Nat} {here there : Location} {name target : Text} {steps : List Step} :
      tree.shapeAt? here = some .directory → systemLength name ≤ nameLimit →
      tree.shapeAt? (here ++ [name]) = some (.link target) →
      tree.Reaches toNew links (startOf here (Path.anchorOf target)) (Step.ofTarget target ++ steps) there →
      tree.Reaches toNew (links + 1) here (.enter name :: steps) there

theorem Reaches.directory {tree : Node} {toNew : Bool} {links : Nat} {here there : Location} {step : Step}
    {steps : List Step} (reaches : tree.Reaches toNew links here (step :: steps) there) :
    tree.shapeAt? here = some .directory := by
  cases reaches <;> assumption

private theorem reaches_of_take {tree : Node} {toNew : Bool} {links : Nat} {there : Location}
    (beyond : ∀ here steps, tree.behind toNew links here steps = .ok there →
      ∃ fewer, links = fewer + 1 ∧ tree.Reaches toNew fewer here steps there)
    (steps : List Step) (here : Location)
    (reached : tree.take toNew (tree.behind toNew links) here steps = .ok there) :
    tree.Reaches toNew links here steps there := by
  induction steps generalizing here with
  | nil =>
    cases reached
    exact .done
  | cons step steps ih =>
    rw [take_cons] at reached
    split at reached
    · cases reached
    · next directory =>
      split at reached
      · exact .stay directory (ih _ reached)
      · exact .up directory (ih _ reached)
      · split at reached
        · cases reached
        · next short =>
          have short := Nat.le_of_not_lt short
          split at reached
          · next absent =>
            split at reached
            · next asked =>
              obtain ⟨new, last⟩ := Bool.and_eq_true_iff.mp asked
              cases reached
              obtain rfl := List.isEmpty_iff.mp last
              exact .new directory short absent new
            · cases reached
          · next stands =>
            obtain ⟨fewer, rfl, onward⟩ := beyond _ _ reached
            exact .link directory short stands onward
          · next shape real stands => exact .enter directory short stands real (ih _ reached)
    · cases reached

theorem Reaches.follow {tree : Node} {toNew : Bool} {links : Nat} {here there : Location} {steps : List Step}
    (reaches : tree.Reaches toNew links here steps there) :
    tree.follow toNew links here steps = .ok there := by
  rw [follow_eq_take]
  induction reaches with
  | done => rfl
  | stay directory _ ih => simpa only [take_cons, directory] using ih
  | up directory _ ih => simpa only [take_cons, directory] using ih
  | new directory short absent asked =>
    simp only [take_cons, directory, if_neg (Nat.not_lt_of_le short), absent, asked, List.isEmpty_nil,
      Bool.and_self, if_true]
  | @enter _ _ _ _ shape _ directory short stands real _ ih =>
    simp only [take_cons, directory, if_neg (Nat.not_lt_of_le short), stands]
    cases shape with
    | link target => exact absurd rfl (real target)
    | file content => exact ih
    | directory => exact ih
  | link directory short stands _ ih =>
    simp only [take_cons, directory, if_neg (Nat.not_lt_of_le short), stands]
    exact (congrFun (congrFun (follow_eq_take _ _ _) _) _).trans ih

/-- Steps lead to a location exactly if they take a way to it. -/
theorem follow_eq_ok {tree : Node} {toNew : Bool} {links : Nat} {here there : Location} {steps : List Step} :
    tree.follow toNew links here steps = .ok there ↔ tree.Reaches toNew links here steps there := by
  refine ⟨fun reached => ?_, Reaches.follow⟩
  rw [follow_eq_take] at reached
  induction links generalizing here steps with
  | zero => exact reaches_of_take (fun _ _ stuck => by cases stuck) steps here reached
  | succ links ih =>
    refine reaches_of_take (fun here steps onward => ⟨links, rfl, ih ?_⟩) steps here reached
    rw [← follow_eq_take]
    exact onward

private theorem take_fault (tree : Node) (toNew : Bool)
    {onward : Location → List Step → Except Fault Location}
    (beyond : ∀ here steps fault, onward here steps = .error fault → fault.isOfWay = true)
    (steps : List Step) (here : Location) {fault : Fault}
    (failed : tree.take toNew onward here steps = .error fault) : fault.isOfWay = true := by
  induction steps generalizing here with
  | nil => cases failed
  | cons step steps ih =>
    rw [take_cons] at failed
    split at failed
    · cases failed; rfl
    · split at failed
      · exact ih _ failed
      · exact ih _ failed
      · split at failed
        · cases failed; rfl
        · split at failed
          · split at failed <;> cases failed
            rfl
          · exact beyond _ _ _ failed
          · exact ih _ failed
    · cases failed; rfl

theorem follow_fault (tree : Node) (toNew : Bool) (links : Nat) (here : Location)
    (steps : List Step) {fault : Fault}
    (failed : tree.follow toNew links here steps = .error fault) : fault.isOfWay = true := by
  induction links generalizing here steps fault with
  | zero =>
    rw [follow_eq_take] at failed
    exact take_fault tree toNew (fun _ _ _ stuck => by cases stuck; rfl) steps here failed
  | succ links ih =>
    rw [follow_eq_take] at failed
    exact take_fault tree toNew (fun here steps _ => ih here steps) steps here failed

private theorem take_append (tree : Node)
    (continues : Except Fault Location → (List Step → Except Fault Location) → Prop)
    {onward : Location → List Step → Except Fault Location}
    (own : ∀ there, continues (.ok there) (tree.take false onward there))
    (failed : ∀ fault, continues (.error fault) fun _ => .error fault)
    (beyond : ∀ here steps, continues (onward here steps) fun more => onward here (steps ++ more))
    (steps : List Step) (here : Location) :
    continues (tree.take false onward here steps)
      fun more => tree.take false onward here (steps ++ more) := by
  induction steps generalizing here with
  | nil => exact own here
  | cons step steps ih =>
    simp only [List.cons_append, take_cons]
    split
    · exact failed _
    · split
      · exact ih _
      · exact ih _
      · split
        · exact failed _
        · split
          · exact failed _
          · simpa only [List.append_assoc] using beyond _ (_ ++ steps)
          · exact ih _
    · exact failed _

/-- Further steps are taken as from the place that the first ones lead to, with the links that are
left; a fault on the way to it stays. -/
theorem follow_append (tree : Node) (links : Nat) (here : Location) (steps : List Step) :
    ∃ left, ∀ more, tree.follow false links here (steps ++ more) =
      (tree.follow false links here steps).bind fun there => tree.follow false left there more := by
  let continues (result : Except Fault Location) (run : List Step → Except Fault Location) : Prop :=
    ∃ left, ∀ more, run more = result.bind fun there => tree.follow false left there more
  induction links generalizing here steps with
  | zero =>
    rw [follow_eq_take]
    exact take_append tree continues (fun _ => ⟨0, fun _ => rfl⟩) (fun _ => ⟨0, fun _ => rfl⟩)
      (fun _ _ => ⟨0, fun _ => rfl⟩) steps here
  | succ links ih =>
    rw [follow_eq_take]
    exact take_append tree continues (fun _ => ⟨links + 1, fun _ => rfl⟩)
      (fun _ => ⟨0, fun _ => rfl⟩) ih steps here

/-- What stands on the way to a location, or there if that is no link, is entered as it is. -/
private theorem no_link_on_way {tree : Node} {here : Location} {name : Text} {names : List Text}
    {node : Node} (found : tree.at? (here ++ name :: names) = some node)
    (real : ∀ target, node ≠ .link target) :
    ∃ child, tree.at? (here ++ [name]) = some child ∧ ∀ target, child ≠ .link target := by
  have further : tree.at? ((here ++ [name]) ++ names) = some node := by simpa using found
  cases names with
  | nil => exact ⟨node, by simpa using further, real⟩
  | cons next names =>
    obtain ⟨entries, found⟩ := directory_of_at?_append further
    exact ⟨.directory entries, found, fun _ impossible => by cases impossible⟩

/-- Names of real directories lead where they stand in the tree, unless one of them is too long. -/
theorem follow_names (tree : Node) (toNew : Bool) (links : Nat) (names : List Text) (here : Location)
    {node : Node} (found : tree.at? (here ++ names) = some node)
    (real : ∀ target, node ≠ .link target) (noParent : parentPart ∉ names) :
    tree.follow toNew links here (names.map Step.ofPart) =
      if AreShort names then .ok (here ++ names) else .error .nameTooLong := by
  rw [follow_eq_take]
  induction names generalizing here with
  | nil => simp [take, AreShort]
  | cons name names ih =>
    simp only [List.mem_cons, not_or] at noParent
    have stepIn : Step.ofPart name = .enter name := if_neg (Ne.symm noParent.1)
    obtain ⟨child, entered, notLink⟩ := no_link_on_way found real
    simp only [List.map_cons, stepIn, take_cons,
      shapeAt?_directory.mpr (directory_of_at?_append found), areShort_cons]
    split
    · next long => rw [if_neg fun short => absurd short.1 (Nat.not_le_of_lt long)]
    · next short =>
      have onward := ih (here ++ [name]) (by simpa using found) noParent.2
      rw [List.append_assoc] at onward
      simp only [Nat.le_of_not_lt short, true_and]
      cases child with
      | link target => exact False.elim (notLink target rfl)
      | file content => simpa [shapeAt?, entered, shape] using onward
      | directory entries => simpa [shapeAt?, entered, shape] using onward

theorem like_of_eq {shape? other? : Option Shape} (same : other? = shape?) :
    Option.Rel Shape.IsLike shape? other? := by
  subst same
  cases other? with
  | none => exact .none
  | some shape => exact .some (.same shape)

section

variable {a b : Node} {toNew : Bool} {onward otherOnward : Location → List Step → Except Fault Location}

/-- A step comes to the same in two trees if what it looks at is alike in both and the way goes on to the
same. -/
theorem take_cons_congr {here : Location} {step : Step} {steps : List Step}
    (standing : Option.Rel Shape.IsLike (a.shapeAt? here) (b.shapeAt? here))
    (stay : a.shapeAt? here = some .directory → step = .stay →
      b.take toNew otherOnward here steps = a.take toNew onward here steps)
    (up : a.shapeAt? here = some .directory → step = .up →
      b.take toNew otherOnward here.dropLast steps = a.take toNew onward here.dropLast steps)
    (inside : ∀ name, a.shapeAt? here = some .directory → step = .enter name →
      Option.Rel Shape.IsLike (a.shapeAt? (here ++ [name])) (b.shapeAt? (here ++ [name])))
    (enter : ∀ name shape, step = .enter name → a.shapeAt? here = some .directory →
      a.shapeAt? (here ++ [name]) = some shape → (∀ target, shape ≠ .link target) →
        b.take toNew otherOnward (here ++ [name]) steps = a.take toNew onward (here ++ [name]) steps)
    (link : ∀ name target, step = .enter name → a.shapeAt? here = some .directory →
      a.shapeAt? (here ++ [name]) = some (.link target) →
        otherOnward (startOf here (Path.anchorOf target)) (Step.ofTarget target ++ steps) =
          onward (startOf here (Path.anchorOf target)) (Step.ofTarget target ++ steps)) :
    b.take toNew otherOnward here (step :: steps) = a.take toNew onward here (step :: steps) := by
  rw [take_cons, take_cons]
  generalize a.shapeAt? here = x at *
  generalize b.shapeAt? here = y at *
  cases standing with
  | none => rfl
  | some like =>
    cases like with
    | files => rfl
    | same =>
      rename_i stood
      cases stood with
      | file content => rfl
      | link target => rfl
      | directory =>
        cases step with
        | stay => exact stay rfl rfl
        | up => exact up rfl rfl
        | enter name =>
          have inside := inside name rfl rfl
          have enter := fun shape => enter name shape rfl rfl
          have link := fun target => link name target rfl rfl
          simp only
          generalize a.shapeAt? (here ++ [name]) = x at inside enter link ⊢
          generalize b.shapeAt? (here ++ [name]) = y at inside ⊢
          split
          · rfl
          · cases inside with
            | none => rfl
            | some like =>
              cases like with
              | files => exact enter _ rfl nofun
              | same =>
                rename_i entered
                cases entered with
                | file content => exact enter _ rfl nofun
                | directory => exact enter _ rfl nofun
                | link target => exact link target rfl

end

private theorem take_congr {a b : Node} (same : ∀ location, b.shapeAt? location = a.shapeAt? location)
    (toNew : Bool) {onward otherOnward : Location → List Step → Except Fault Location}
    (beyond : ∀ here steps, otherOnward here steps = onward here steps)
    (steps : List Step) (here : Location) :
    b.take toNew otherOnward here steps = a.take toNew onward here steps := by
  induction steps generalizing here with
  | nil => rfl
  | cons step steps ih => simp only [take_cons, same, ih, beyond]

/-- Steps lead to the same place in trees that have the same shape everywhere. -/
theorem follow_congr {a b : Node} (same : ∀ location, b.shapeAt? location = a.shapeAt? location)
    (toNew : Bool) (links : Nat) (here : Location) (steps : List Step) :
    b.follow toNew links here steps = a.follow toNew links here steps := by
  induction links generalizing here steps with
  | zero => exact take_congr same toNew (fun _ _ => rfl) steps here
  | succ links ih => exact take_congr same toNew ih steps here

/-- Whether everything in one tree still stands in another; only bytes of files may differ. -/
def Remains (a b : Node) : Prop :=
  ∀ location shape, a.shapeAt? location = some shape →
    ∃ other, b.shapeAt? location = some other ∧ shape.IsLike other

theorem Remains.directory {a b : Node} (remains : a.Remains b) {location : Location}
    (stands : a.shapeAt? location = some .directory) : b.shapeAt? location = some .directory := by
  obtain ⟨other, found, alike⟩ := remains location _ stands
  cases alike
  exact found

theorem Remains.link {a b : Node} (remains : a.Remains b) {location : Location} {target : Text}
    (stands : a.shapeAt? location = some (.link target)) :
    b.shapeAt? location = some (.link target) := by
  obtain ⟨other, found, alike⟩ := remains location _ stands
  cases alike
  exact found

/-- A way is still taken where everything still stands, if the last step of one to a new name is. -/
theorem Reaches.remains {a b : Node} (remains : a.Remains b) {toNew otherNew : Bool} {links : Nat}
    {here there : Location} {steps : List Step}
    (new : ∀ links above name, a.shapeAt? above = some .directory → systemLength name ≤ nameLimit →
      a.shapeAt? (above ++ [name]) = none → toNew = true → above ++ [name] = there →
        b.Reaches otherNew links above [.enter name] there)
    (reaches : a.Reaches toNew links here steps there) : b.Reaches otherNew links here steps there := by
  induction reaches with
  | done => exact .done
  | stay directory _ ih => exact .stay (remains.directory directory) (ih new)
  | up directory _ ih => exact .up (remains.directory directory) (ih new)
  | new directory short absent asked => exact new _ _ _ directory short absent asked rfl
  | enter directory short stands real _ ih =>
    obtain ⟨other, found, alike⟩ := remains _ _ stands
    refine .enter (remains.directory directory) short found ?_ (ih new)
    cases alike with
    | same => exact real
    | files => exact nofun
  | link directory short stands _ ih =>
    exact .link (remains.directory directory) short (remains.link stands) (ih new)

/-- Steps that lead to a place still do so where everything still stands, and a new name does once a
file stands under it. -/
theorem follow_remains {a b : Node} (remains : a.Remains b) {toNew : Bool} {there : Location}
    (settled : toNew = true → a.shapeAt? there = none → ∃ content, b.shapeAt? there = some (.file content))
    (links : Nat) (here : Location) (steps : List Step)
    (reached : a.follow toNew links here steps = .ok there) :
    b.follow false links here steps = .ok there := by
  refine (Reaches.remains remains ?_ (follow_eq_ok.mp reached)).follow
  rintro links above name directory short absent asked rfl
  obtain ⟨content, found⟩ := settled asked absent
  exact .enter (remains.directory directory) short found nofun .done

end Node

end ProjectSurvey
