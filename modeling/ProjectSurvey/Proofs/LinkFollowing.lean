import ProjectSurvey.FileTree.Canonical
import ProjectSurvey.Proofs.PathText

/-! Following links to their ends. The canonical form of a path is settled part by part: each link is followed to its
end before the way goes on, and where it leads is kept in mind. The way leads to the same end with nothing kept in
mind: a link that is met again leads where it led before, and none is met on its own way, which would then lead
through more links than it does. -/

namespace ProjectSurvey

/-- Where the way behind a link begins, if the link stands in the directory `here`. -/
def Path.readAt (here : Path) (written : Text) : Path :=
  if written.head? = some '/' then ⟨.root, []⟩ else here

theorem Path.parent_descend (path : Path) (name : Text) : (path.descend [name]).parent = path := by
  simp [Path.parent, Path.descend]

namespace Place

/-- The way along parts that are written after a path, each link being followed to its end, with the number of all
links on it. -/
inductive Leads (place : Place) : Nat → Path → List Text → Path → Prop
  | done {here : Path} : Leads place 0 here [] here
  | up {n : Nat} {here there : Path} {parts : List Text} (onward : Leads place n here.above parts there) :
      Leads place n here (parentPart :: parts) there
  | enter {n : Nat} {here there : Path} {name : Text} {parts : List Text} (proper : name ≠ parentPart)
      (real : place.linkAt? (here.descend [name]) = .ok none)
      (onward : Leads place n (here.descend [name]) parts there) : Leads place n here (name :: parts) there
  | link {m k : Nat} {here middle there : Path} {name target : Text} {parts : List Text} (proper : name ≠ parentPart)
      (link : place.linkAt? (here.descend [name]) = .ok (some target))
      (behind : Leads place m (here.readAt target) (Path.partsOf target) middle)
      (onward : Leads place k middle parts there) : Leads place (m + k + 1) here (name :: parts) there

variable {place : Place} {m n k : Nat} {here there other : Path} {parts : List Text}

namespace Leads

theorem unique (leads : place.Leads m here parts there) (again : place.Leads n here parts other) :
    m = n ∧ there = other := by
  induction leads generalizing n other with
  | done =>
    cases again
    exact ⟨rfl, rfl⟩
  | up _ ih =>
    cases again with
    | up onward => exact ih onward
    | enter proper => exact absurd rfl proper
    | link proper => exact absurd rfl proper
  | enter proper real _ ih =>
    cases again with
    | up => exact absurd rfl proper
    | enter _ _ onward => exact ih onward
    | link _ link => cases real.symm.trans link
  | link proper link _ _ ihBehind ihOnward =>
    cases again with
    | up => exact absurd rfl proper
    | enter _ real => cases real.symm.trans link
    | link _ same behind onward =>
      cases link.symm.trans same
      obtain ⟨rfl, rfl⟩ := ihBehind behind
      obtain ⟨rfl, rfl⟩ := ihOnward onward
      exact ⟨rfl, rfl⟩

theorem split {first second : List Text} (leads : place.Leads n here (first ++ second) there) :
    ∃ m k middle, m + k = n ∧ place.Leads m here first middle ∧ place.Leads k middle second there := by
  induction first generalizing n here with
  | nil => exact ⟨0, n, here, Nat.zero_add n, .done, leads⟩
  | cons name first ih =>
    cases leads with
    | up onward =>
      obtain ⟨m, k, middle, sum, before, behind⟩ := ih onward
      exact ⟨m, k, middle, sum, .up before, behind⟩
    | enter proper real onward =>
      obtain ⟨m, k, middle, sum, before, behind⟩ := ih onward
      exact ⟨m, k, middle, sum, .enter proper real before, behind⟩
    | @link a b _ _ _ _ _ _ proper link inside onward =>
      obtain ⟨m, k, middle, rfl, before, behind⟩ := ih onward
      exact ⟨a + m + 1, k, middle, by omega, .link proper link inside before, behind⟩

end Leads

/-- Whether the link at a path leads to another one through `n` further links. -/
def Follows (place : Place) (n : Nat) (link there : Path) : Prop :=
  ∃ target, place.linkAt? link = .ok (some target) ∧
    place.Leads n (link.parent.readAt target) (Path.partsOf target) there

theorem Follows.unique {link : Path} (follows : place.Follows m link there) (again : place.Follows n link other) :
    m = n ∧ there = other := by
  obtain ⟨target, found, leads⟩ := follows
  obtain ⟨_, same, others⟩ := again
  cases found.symm.trans same
  exact leads.unique others

variable {met before after : MetLinks}

/-- Whether each link that has been followed to its end leads where that is kept. -/
def Recalls (place : Place) (met : MetLinks) : Prop :=
  ∀ link there, met.find? (·.1 == link) = some (link, some there) → ∃ n, place.Follows n link there

/-- Whether each link that is being followed leads through at least `n` further links. -/
def Awaits (place : Place) (n : Nat) (met : MetLinks) : Prop :=
  ∀ link, met.find? (·.1 == link) = some (link, none) → ∃ m there, n ≤ m ∧ place.Follows m link there

/-- Whether what is kept in mind is right afterwards, and no link is being followed that was not before. -/
structure Grown (place : Place) (before after : MetLinks) : Prop where
  recalls : place.Recalls after
  open_of_open : ∀ link, after.find? (·.1 == link) = some (link, none) →
    before.find? (·.1 == link) = some (link, none)

theorem find?_first (link : Path) (value : Option Path) (met : MetLinks) :
    ((link, value) :: met).find? (·.1 == link) = some (link, value) :=
  List.find?_cons_of_pos (by simp)

theorem find?_later {link other : Path} (apart : link ≠ other) (value : Option Path) (met : MetLinks) :
    ((link, value) :: met).find? (·.1 == other) = met.find? (·.1 == other) :=
  List.find?_cons_of_neg (by simpa using apart)

theorem Recalls.begin (recalls : place.Recalls met) (link : Path) : place.Recalls ((link, none) :: met) := by
  intro other there found
  by_cases same : link = other
  · subst same
    cases (find?_first link none met).symm.trans found
  · exact recalls other there (find?_later same none met ▸ found)

theorem Recalls.settle (recalls : place.Recalls met) {link : Path} (follows : place.Follows n link there) :
    place.Recalls ((link, some there) :: met) := by
  intro other far found
  by_cases same : link = other
  · subst same
    cases (find?_first link (some there) met).symm.trans found
    exact ⟨n, follows⟩
  · exact recalls other far (find?_later same _ met ▸ found)

theorem Awaits.mono (awaits : place.Awaits n met) (few : m ≤ n) : place.Awaits m met := by
  intro link found
  obtain ⟨k, there, many, follows⟩ := awaits link found
  exact ⟨k, there, few.trans many, follows⟩

theorem Awaits.begin (awaits : place.Awaits n met) {link : Path} (follows : place.Follows n link there) :
    place.Awaits n ((link, none) :: met) := by
  intro other found
  by_cases same : link = other
  · exact ⟨n, there, Nat.le_refl n, same ▸ follows⟩
  · exact awaits other (find?_later same none met ▸ found)

theorem Grown.awaits (grown : place.Grown before after) (awaits : place.Awaits n before) : place.Awaits n after :=
  fun link found => awaits link (grown.open_of_open link found)

theorem Grown.trans {last : MetLinks} (grown : place.Grown before after) (again : place.Grown after last) :
    place.Grown before last :=
  ⟨again.recalls, fun link found => grown.open_of_open link (again.open_of_open link found)⟩

theorem Grown.settle {link : Path} (grown : place.Grown ((link, none) :: before) after)
    (follows : place.Follows n link there) : place.Grown before ((link, some there) :: after) := by
  refine ⟨grown.recalls.settle follows, fun other found => ?_⟩
  by_cases same : link = other
  · subst same
    cases (find?_first link (some there) after).symm.trans found
  · rw [find?_later same] at found
    exact find?_later same none before ▸ grown.open_of_open other found

section

variable {enter : MetLinks → Path → Text → Except CanonicalFault (MetLinks × Reached)} {name target : Text}
  {names : List Text} (kept : ¬(name.isEmpty || name = ".".toList) = true) (proper : name ≠ parentPart)

include kept proper

theorem goAlong_enter (real : place.linkAt? (here.descend [name]) = .ok none) :
    place.goAlong enter met here (name :: names) = place.goAlong enter met (here.descend [name]) names := by
  rw [goAlong, if_neg kept, if_neg proper]
  simp only [real, bind, Except.bind]

theorem goAlong_known (link : place.linkAt? (here.descend [name]) = .ok (some target)) {next : Path}
    (found : met.find? (·.1 == here.descend [name]) = some (next, some there)) :
    place.goAlong enter met here (name :: names) = place.goAlong enter met there names := by
  rw [goAlong, if_neg kept, if_neg proper]
  simp only [link, found, bind, Except.bind]

theorem goAlong_new (link : place.linkAt? (here.descend [name]) = .ok (some target))
    (found : met.find? (·.1 == here.descend [name]) = none)
    (followed : enter met (here.descend [name]) target = .ok (after, .settled there)) :
    place.goAlong enter met here (name :: names) =
      place.goAlong enter ((here.descend [name], some there) :: after) there names := by
  rw [goAlong, if_neg kept, if_neg proper]
  simp only [link, found, followed, bind, Except.bind]

end

/-- Names lead on as they do with nothing kept in mind, if each link does whose way leads through fewer links than
`depth`. -/
theorem goAlong_settles {enter : MetLinks → Path → Text → Except CanonicalFault (MetLinks × Reached)} {depth : Nat}
    (enters : ∀ {m met link target there}, m < depth → place.Recalls met → place.Awaits m ((link, none) :: met) →
      place.linkAt? link = .ok (some target) → place.Leads m (link.parent.readAt target) (Path.partsOf target) there →
      ∃ after, enter met link target = .ok (after, .settled there) ∧ place.Grown ((link, none) :: met) after)
    {names : List Text} (few : n ≤ depth)
    (leads : place.Leads n here (names.filter fun part => !part.isEmpty && part != ".".toList) there)
    (recalls : place.Recalls met) (awaits : place.Awaits n met) :
    ∃ after, place.goAlong enter met here names = .ok (after, .settled there) ∧ place.Grown met after := by
  induction names generalizing n here met with
  | nil =>
    cases leads
    exact ⟨met, rfl, recalls, fun _ => id⟩
  | cons name names ih =>
    by_cases kept : ¬(name.isEmpty || name = ".".toList) = true
    · rw [List.filter_cons_of_pos (by simpa using kept)] at leads
      cases leads with
      | up onward =>
        rw [goAlong, if_neg kept, if_pos rfl]
        exact ih few onward recalls awaits
      | enter proper real onward =>
        rw [goAlong_enter kept proper real]
        exact ih few onward recalls awaits
      | @link m k _ middle _ _ target _ proper link behind onward =>
        have inside : place.Leads m ((here.descend [name]).parent.readAt target) (Path.partsOf target) middle := by
          rwa [Path.parent_descend]
        have follows : place.Follows m (here.descend [name]) middle := ⟨target, link, inside⟩
        cases found : met.find? (·.1 == here.descend [name]) with
        | none =>
          obtain ⟨after, followed, grown⟩ := enters (by omega) recalls
            ((awaits.mono (by omega : m ≤ m + k + 1)).begin follows) link inside
          have settled := grown.settle follows
          obtain ⟨last, reached, later⟩ := ih (by omega) onward settled.recalls
            ((settled.awaits awaits).mono (by omega))
          exact ⟨last, (goAlong_new kept proper link found followed).trans reached, settled.trans later⟩
        | some entry =>
          obtain ⟨next, value⟩ := entry
          have same : next = here.descend [name] := by simpa using List.find?_some found
          subst same
          cases value with
          | some path =>
            obtain ⟨_, again⟩ := recalls _ path found
            obtain ⟨-, rfl⟩ := follows.unique again
            obtain ⟨last, reached, later⟩ := ih (by omega) onward recalls (awaits.mono (by omega))
            exact ⟨last, (goAlong_known kept proper link found).trans reached, later⟩
          | none =>
            obtain ⟨many, _, more, again⟩ := awaits _ found
            obtain ⟨rfl, -⟩ := follows.unique again
            omega
    · rw [goAlong, if_pos (not_not.mp kept)]
      rw [List.filter_cons_of_neg (by simpa [imp_iff_not_or] using kept)] at leads
      exact ih few leads recalls awaits

/-- What is written after a path leads on as it does with nothing kept in mind, if that takes fewer links than may
lead to further ones. -/
theorem reach_settles {depth : Nat} {written : Text} (few : n < depth)
    (leads : place.Leads n (here.readAt written) (Path.partsOf written) there) (recalls : place.Recalls met)
    (awaits : place.Awaits n met) :
    ∃ after, place.reach depth met here written = .ok (after, .settled there) ∧ place.Grown met after := by
  induction depth generalizing n met here written there with
  | zero => cases few
  | succ depth ih =>
    rw [reach]
    refine goAlong_settles ?_ (Nat.le_of_lt_succ few) leads recalls awaits
    intro m met link target there fewer recalls awaits _ inside
    exact ih fewer inside (recalls.begin link) awaits

end Place

end ProjectSurvey
