import ProjectSurvey.Proofs.LinkFollowing
import ProjectSurvey.Proofs.PathLookup
import ProjectSurvey.Proofs.WalkedPaths

/-! The canonical form of a path that leads to something is the location that it leads to. The system goes on behind a
link with what is left of the path and counts the links; the canonical form follows each link to its end first. What
is written for the places on the way stands for where the system has come to, step by step. -/

namespace ProjectSurvey

/-- Whether a file system can hold an entry of this name. -/
def isFileName (name : Text) : Bool :=
  isEntryName name && name.all isNameable && decide (systemLength name ≤ nameLimit)

theorem isFileName_iff {name : Text} : isFileName name = true ↔
    isEntryName name = true ∧ (∀ c ∈ name, isNameable c = true) ∧ systemLength name ≤ nameLimit := by
  simp only [isFileName, Bool.and_eq_true, List.all_eq_true, decide_eq_true_eq, and_assoc]

namespace Path

/-- Whether a part is one that reading a text of a path can give. -/
def IsPart (part : Text) : Prop :=
  part ≠ [] ∧ part ≠ "." ∧ '/' ∉ part

theorem isKept_iff {part : Text} : (!part.isEmpty && part != ".".toList) = true ↔ part ≠ [] ∧ part ≠ "." := by
  rw [Bool.and_eq_true, Bool.not_eq_true', ← Bool.not_eq_true, List.isEmpty_iff, bne_iff_ne]

theorem isPart_of_mem_partsOf {text part : Text} (member : part ∈ partsOf text) : IsPart part := by
  obtain ⟨inside, kept⟩ := List.mem_filter.mp member
  obtain ⟨some, apart⟩ := isKept_iff.mp kept
  exact ⟨some, apart, Text.not_mem_of_mem_pieces inside⟩

theorem partsOf_slash (text : Text) : partsOf ('/' :: text) = partsOf text := by
  have cut : Text.pieces '/' ('/' :: text) = [] :: text.pieces '/' := Text.pieces_append List.not_mem_nil text
  rw [partsOf, cut]
  rfl

theorem partsOf_join {parts : List Text} (proper : ∀ part ∈ parts, IsPart part) :
    partsOf (Text.join "/" parts) = parts := by
  cases parts with
  | nil => rfl
  | cons first others =>
    have pieces : (Text.join "/" (first :: others)).pieces '/' = first :: others :=
      Text.pieces_join (List.cons_ne_nil first others) fun part member => (proper part member).2.2
    rw [partsOf, pieces, List.filter_eq_self]
    exact fun part member => isKept_iff.mpr ⟨(proper part member).1, (proper part member).2.1⟩

theorem partsOf_toText {path : Path} (proper : ∀ part ∈ path.parts, IsPart part) :
    partsOf path.toText = path.parts := by
  obtain ⟨anchor, parts⟩ := path
  have joined := partsOf_join proper
  cases anchor with
  | here =>
    cases parts with
    | nil => rfl
    | cons first others => exact joined
  | root => exact (partsOf_slash _).trans joined
  | doubleRoot => exact ((partsOf_slash _).trans (partsOf_slash _)).trans joined

end Path

namespace Step

theorem ofPart_eq_up {part : Text} : ofPart part = .up ↔ part = parentPart := by
  simp [ofPart]

theorem ofPart_eq_enter {part name : Text} : ofPart part = .enter name ↔ part = name ∧ name ≠ parentPart := by
  rw [ofPart]
  split
  · next parent => simp [parent, eq_comm]
  · next proper =>
    constructor
    · rintro ⟨⟩
      exact ⟨rfl, proper⟩
    · rintro ⟨rfl, -⟩
      rfl

theorem ofPart_ne_stay (part : Text) : ofPart part ≠ .stay := by
  rw [ofPart]
  split <;> rintro ⟨⟩

/-- The steps of a link's target that go somewhere are those of its parts. -/
theorem ofTarget_moving (target : Text) :
    (ofTarget target).filter (· ≠ .stay) = (Path.partsOf target).map ofPart := by
  have moving (parts : List Text) : ((parts.filter fun part => !part.isEmpty).map fun part =>
      if part = ".".toList then Step.stay else ofPart part).filter (· ≠ .stay) =
        (parts.filter fun part => !part.isEmpty && part != ".".toList).map ofPart := by
    induction parts with
    | nil => rfl
    | cons part parts ih =>
      by_cases empty : part = []
      · subst empty
        exact ih
      · by_cases dot : part = ".".toList
        · subst dot
          exact ih
        · rw [List.filter_cons_of_pos (by simpa using empty),
            List.filter_cons_of_pos (by exact Path.isKept_iff.mpr ⟨empty, dot⟩), List.map_cons, if_neg dot,
            List.filter_cons_of_pos (by simpa using ofPart_ne_stay part), ih, List.map_cons]
  rw [ofTarget, Path.partsOf, ← moving]
  split
  · rw [List.filter_append]
    simp
  · rfl

end Step

namespace Path

theorem anchorOf_eq_here {text : Text} : anchorOf text = .here ↔ text.head? ≠ some '/' := by
  cases text with
  | nil => exact iff_of_true rfl nofun
  | cons c rest =>
    rw [List.head?_cons, ne_eq, Option.some.injEq]
    by_cases slash : c = '/'
    · refine iff_of_false ?_ (not_not_intro slash)
      rw [anchorOf, List.takeWhile_cons_of_pos (by simpa using slash), List.length_cons]
      split
      · next none => cases none
      · rintro ⟨⟩
      · rintro ⟨⟩
    · exact iff_of_true (anchorOf_cons slash rest) slash

theorem head?_toText {path : Path} (proper : ∀ part ∈ path.parts, IsPart part) :
    path.toText.head? = some '/' ↔ path.anchor ≠ .here := by
  obtain ⟨anchor, parts⟩ := path
  cases anchor with
  | here =>
    refine iff_of_false ?_ (not_not_intro rfl)
    cases parts with
    | nil => exact nofun
    | cons first others =>
      obtain ⟨some, -, slashless⟩ := proper first List.mem_cons_self
      obtain ⟨c, rest, rfl⟩ := List.exists_cons_of_ne_nil some
      obtain ⟨more, written⟩ := relativeText_cons c rest others
      intro head
      have same : c = '/' := Option.some.inj ((congrArg List.head? written).symm.trans head)
      exact slashless (same ▸ List.mem_cons_self)
  | root => exact iff_of_true rfl nofun
  | doubleRoot => exact iff_of_true rfl nofun

/-- Where the way of a path begins. -/
def start (path : Path) : Path :=
  if path.anchor = .here then ⟨.here, []⟩ else ⟨.root, []⟩

theorem readAt_toText {path : Path} (proper : ∀ part ∈ path.parts, IsPart part) :
    (⟨.here, []⟩ : Path).readAt path.toText = path.start := by
  rw [readAt, start]
  by_cases relative : path.anchor = .here
  · rw [if_neg (mt (head?_toText proper).mp (not_not_intro relative)), if_pos relative]
  · rw [if_pos ((head?_toText proper).mpr relative), if_neg relative]

theorem settle_concat (parts : List Text) (part : Text) : settle (parts ++ [part]) =
    if part = parentPart then (settle parts).dropLast else settle parts ++ [part] := by
  rw [settle, List.foldl_append]
  rfl

theorem settle_of_plain {parts : List Text} (plain : parentPart ∉ parts) : settle parts = parts :=
  settle_append [] plain

theorem absoluteParts_of_here {path : Path} (anchor : path.anchor = .here) (current : List Text) :
    path.absoluteParts current = settle (current ++ path.parts) := by
  rw [absoluteParts, isAbsolute, anchor]
  rfl

theorem absoluteParts_of_root {path : Path} (anchor : path.anchor = .root) (current : List Text) :
    path.absoluteParts current = settle path.parts := by
  rw [absoluteParts, isAbsolute, anchor]
  rfl

/-- The directory above is written without the last part, unless that is no name that could be left out. -/
theorem above_cases (path : Path) :
    path.above = path.parent ∧
      (path.anchor = .here → ∃ init last, path.parts = init ++ [last] ∧ last ≠ parentPart) ∨
    path.above = path.descend [parentPart] ∧ path.anchor = .here := by
  rw [above]
  split
  · next anchor _ => exact .inr ⟨rfl, anchor⟩
  · next last anchor found =>
    obtain ⟨init, parts⟩ := List.getLast?_eq_some_iff.mp found
    split
    · exact .inr ⟨rfl, anchor⟩
    · next proper => exact .inl ⟨rfl, fun _ => ⟨init, last, parts, proper⟩⟩
  · next other another =>
    refine .inl ⟨rfl, fun anchor => ?_⟩
    cases found : path.parts.getLast? with
    | none => exact absurd found (other anchor)
    | some last => exact absurd found (another last anchor)

theorem above_anchor (path : Path) : path.above.anchor = path.anchor := by
  rcases path.above_cases with ⟨same, -⟩ | ⟨same, -⟩ <;> rw [same] <;> rfl

theorem start_relative {path : Path} (relative : path.start.anchor = .here) : path.anchor = .here := by
  rw [start] at relative
  split at relative
  · assumption
  · cases relative

end Path

namespace Place

/-- Whether a path that the canonical form goes through stands for a location. -/
structure IsAt (place : Place) (here : Path) (location : Location) : Prop where
  anchored : here.anchor ≠ .doubleRoot
  plain : here.anchor = .root → parentPart ∉ here.parts
  nameable : here.IsNameable
  leads : here.absoluteParts place.current = location

variable {place : Place} {here there : Path} {location goal : Location} {name target : Text} {parts : List Text}

namespace IsAt

variable (stands : place.IsAt here location)

include stands

theorem above : place.IsAt here.above location.dropLast := by
  rcases here.above_cases with ⟨same, named⟩ | ⟨same, relative⟩
  · rw [same, ← stands.leads]
    refine ⟨stands.anchored, fun absolute member => stands.plain absolute (List.mem_of_mem_dropLast member),
      fun part member => stands.nameable part (List.mem_of_mem_dropLast member), ?_⟩
    cases anchor : here.anchor with
    | here =>
      obtain ⟨init, last, parts, proper⟩ := named anchor
      have anchorAbove : here.parent.anchor = .here := anchor
      have partsAbove : here.parent.parts = init := by rw [Path.parent, parts, List.dropLast_concat]
      rw [Path.absoluteParts_of_here anchorAbove, Path.absoluteParts_of_here anchor, partsAbove, parts,
        ← List.append_assoc, Path.settle_concat, if_neg proper, List.dropLast_concat]
    | root =>
      have anchorAbove : here.parent.anchor = .root := anchor
      have plain := stands.plain anchor
      have plainAbove : parentPart ∉ here.parent.parts := mt List.mem_of_mem_dropLast plain
      rw [Path.absoluteParts_of_root anchorAbove, Path.absoluteParts_of_root anchor, Path.settle_of_plain plain,
        Path.settle_of_plain plainAbove, Path.parent]
    | doubleRoot => exact absurd anchor stands.anchored
  · rw [same, ← stands.leads]
    have anchorAbove : (here.descend [parentPart]).anchor = .here := relative
    have nameable : parentPart.all isNameable = true := by decide
    refine ⟨stands.anchored, fun absolute => ?_,
      List.forall_mem_append.mpr ⟨stands.nameable, List.forall_mem_singleton.mpr (List.all_eq_true.mp nameable)⟩, ?_⟩
    · cases anchorAbove.symm.trans absolute
    · rw [Path.absoluteParts_of_here anchorAbove, Path.absoluteParts_of_here relative, Path.descend,
        ← List.append_assoc, Path.settle_concat, if_pos rfl]

theorem enter (proper : name ≠ parentPart) (nameable : ∀ c ∈ name, isNameable c = true) :
    place.IsAt (here.descend [name]) (location ++ [name]) where
  anchored := stands.anchored
  plain absolute := by
    rw [Path.descend, List.mem_append, List.mem_singleton, not_or]
    exact ⟨stands.plain absolute, Ne.symm proper⟩
  nameable := List.forall_mem_append.mpr ⟨stands.nameable, List.forall_mem_singleton.mpr nameable⟩
  leads := by
    rw [Path.absoluteParts_descend _ _ (by simpa using Ne.symm proper), stands.leads]

theorem readAt (target : Text) : place.IsAt (here.readAt target) (startOf location (Path.anchorOf target)) := by
  rw [Path.readAt]
  split
  · next absolute =>
    have anchor : Path.anchorOf target ≠ .here := fun same => Path.anchorOf_eq_here.mp same absolute
    rw [startOf, if_neg anchor]
    exact ⟨by rintro ⟨⟩, fun _ => List.not_mem_nil, List.forall_mem_nil _, rfl⟩
  · next relative =>
    have anchor : Path.anchorOf target = .here := Path.anchorOf_eq_here.mpr relative
    rwa [startOf, if_pos anchor]

theorem linkAt?_link (link : place.tree.shapeAt? location = some (.link target))
    (short : systemLength here.toText < pathLimit) : place.linkAt? here = .ok (some target) := by
  obtain ⟨node, found, shape⟩ := Node.shapeAt?_eq_some.mp link
  cases node with
  | link =>
    cases shape
    rw [linkAt?, textFault?_eq_none.mpr ⟨Path.isNameable_iff.mp stands.nameable, short⟩]
    simp only [stands.leads, found]
  | file => cases shape
  | directory => cases shape

theorem linkAt?_real (real : ∀ target, place.tree.shapeAt? location ≠ some (.link target)) :
    place.linkAt? here = .ok none := by
  rw [linkAt?]
  split
  · next fault refused =>
    rcases textFault?_cases refused with ⟨found, -⟩ | ⟨-, rfl⟩
    · rw [Fault.ofText?_eq_none.mpr (Path.isNameable_iff.mp stands.nameable)] at found
      cases found
    · rfl
  · rw [stands.leads]
    split
    · next target found => exact absurd (Node.shapeAt?_eq_some.mpr ⟨_, found, rfl⟩) (real target)
    · rfl

end IsAt

theorem nameable_of_shapeAt? (named : place.tree.everyName isFileName = true) {shape : Shape}
    (found : place.tree.shapeAt? (location ++ [name]) = some shape) : ∀ c ∈ name, isNameable c = true := by
  obtain ⟨node, stands, -⟩ := Node.shapeAt?_eq_some.mp found
  exact (isFileName_iff.mp ((Node.everyName_of_at? named stands).1 name (by simp))).2.1

/-- Whether all links on the way along parts, up to its end, can be looked at: what is written for where they stand is
not too long. -/
inductive SeesLinks (place : Place) : Path → List Text → Prop
  | done {here : Path} : SeesLinks place here []
  | up {here : Path} {parts : List Text} (onward : SeesLinks place here.above parts) :
      SeesLinks place here (parentPart :: parts)
  | enter {here : Path} {name : Text} {parts : List Text} (proper : name ≠ parentPart)
      (real : ∀ target, place.tree.shapeAt? ((here.descend [name]).absoluteParts place.current) ≠ some (.link target))
      (onward : SeesLinks place (here.descend [name]) parts) : SeesLinks place here (name :: parts)
  | link {here : Path} {name target : Text} {parts : List Text} (proper : name ≠ parentPart)
      (link : place.tree.shapeAt? ((here.descend [name]).absoluteParts place.current) = some (.link target))
      (short : systemLength (here.descend [name]).toText < pathLimit)
      (onward : SeesLinks place (here.readAt target) (Path.partsOf target ++ parts)) :
      SeesLinks place here (name :: parts)

/-- Whether the way along parts from a path is the one that steps take from a location. -/
structure Spells (place : Place) (here : Path) (parts : List Text) (location : Location) (steps : List Step) :
    Prop where
  stands : place.IsAt here location
  moving : steps.filter (· ≠ .stay) = parts.map Step.ofPart
  sees : place.SeesLinks here parts

namespace Spells

variable {steps : List Step}

theorem stay (spells : place.Spells here parts location (.stay :: steps)) :
    place.Spells here parts location steps := by
  obtain ⟨stands, moving, sees⟩ := spells
  rw [List.filter_cons_of_neg (by simp)] at moving
  exact ⟨stands, moving, sees⟩

theorem up (spells : place.Spells here parts location (.up :: steps)) :
    ∃ rest, parts = parentPart :: rest ∧ place.Spells here.above rest location.dropLast steps := by
  obtain ⟨stands, moving, sees⟩ := spells
  rw [List.filter_cons_of_pos (by simp)] at moving
  obtain ⟨part, rest, rfl, up, later⟩ := List.map_eq_cons_iff.mp moving.symm
  obtain rfl := Step.ofPart_eq_up.mp up
  cases sees with
  | up sees => exact ⟨rest, rfl, stands.above, later.symm, sees⟩
  | enter proper => exact absurd rfl proper
  | link proper => exact absurd rfl proper

theorem part (spells : place.Spells here parts location (.enter name :: steps)) :
    ∃ rest, parts = name :: rest ∧ name ≠ parentPart ∧ steps.filter (· ≠ .stay) = rest.map Step.ofPart := by
  have moving := spells.moving
  rw [List.filter_cons_of_pos (by simp)] at moving
  obtain ⟨part, rest, rfl, enter, later⟩ := List.map_eq_cons_iff.mp moving.symm
  obtain ⟨rfl, proper⟩ := Step.ofPart_eq_enter.mp enter
  exact ⟨rest, rfl, proper, later.symm⟩

variable (named : place.tree.everyName isFileName = true)

include named

theorem enter (spells : place.Spells here parts location (.enter name :: steps)) {shape : Shape}
    (found : place.tree.shapeAt? (location ++ [name]) = some shape) (real : ∀ target, shape ≠ .link target) :
    ∃ rest, parts = name :: rest ∧ name ≠ parentPart ∧ place.linkAt? (here.descend [name]) = .ok none ∧
      place.Spells (here.descend [name]) rest (location ++ [name]) steps := by
  obtain ⟨rest, rfl, proper, moving⟩ := spells.part
  have entered := spells.stands.enter proper (nameable_of_shapeAt? named found)
  have notLink (target : Text) : place.tree.shapeAt? (location ++ [name]) ≠ some (.link target) :=
    fun link => real target (Option.some.inj (found.symm.trans link))
  cases spells.sees with
  | up => exact absurd rfl proper
  | enter _ _ sees => exact ⟨rest, rfl, proper, entered.linkAt?_real notLink, entered, moving, sees⟩
  | link _ link => exact absurd (entered.leads ▸ link) (notLink _)

theorem link (spells : place.Spells here parts location (.enter name :: steps))
    (found : place.tree.shapeAt? (location ++ [name]) = some (.link target)) :
    ∃ rest, parts = name :: rest ∧ name ≠ parentPart ∧ place.linkAt? (here.descend [name]) = .ok (some target) ∧
      place.Spells (here.readAt target) (Path.partsOf target ++ rest) (startOf location (Path.anchorOf target))
        (Step.ofTarget target ++ steps) := by
  obtain ⟨rest, rfl, proper, moving⟩ := spells.part
  have entered := spells.stands.enter proper (nameable_of_shapeAt? named found)
  cases spells.sees with
  | up => exact absurd rfl proper
  | enter _ real => exact absurd (entered.leads.symm ▸ found) (real target)
  | link _ same short sees =>
    cases found.symm.trans (entered.leads ▸ same)
    refine ⟨rest, rfl, proper, entered.linkAt?_link found short, spells.stands.readAt target, ?_, sees⟩
    rw [List.filter_append, Step.ofTarget_moving, List.map_append, moving]

end Spells

/-- Whether the way along parts leads to a location through at most `links` links, each being followed to its end. -/
def LeadsTo (place : Place) (links : Nat) (here : Path) (parts : List Text) (goal : Location) : Prop :=
  ∃ n ≤ links, ∃ there, place.Leads n here parts there ∧ place.IsAt there goal

theorem leadsTo_of_follow (named : place.tree.everyName isFileName = true) (links : Nat) {steps : List Step}
    (reached : place.tree.follow false links location steps = .ok goal)
    (spells : place.Spells here parts location steps) : place.LeadsTo links here parts goal := by
  rw [Node.follow_eq_ok] at reached
  induction reached generalizing here parts with
  | done =>
    obtain rfl := List.map_eq_nil_iff.mp spells.moving.symm
    exact ⟨0, Nat.zero_le _, here, .done, spells.stands⟩
  | stay _ _ ih => exact ih spells.stay
  | up _ _ ih =>
    obtain ⟨rest, rfl, later⟩ := spells.up
    obtain ⟨n, few, there, leads, ends⟩ := ih later
    exact ⟨n, few, there, .up leads, ends⟩
  | new _ _ _ asked => cases asked
  | enter _ _ found notLink _ ih =>
    obtain ⟨rest, rfl, proper, real, later⟩ := spells.enter named found notLink
    obtain ⟨n, few, there, leads, ends⟩ := ih later
    exact ⟨n, few, there, .enter proper real leads, ends⟩
  | link _ _ found _ ih =>
    obtain ⟨rest, rfl, proper, link, later⟩ := spells.link named found
    obtain ⟨n, few, there, leads, ends⟩ := ih later
    obtain ⟨m, k, middle, sum, behind, leads⟩ := leads.split
    exact ⟨m + k + 1, by omega, there, .link proper link behind leads, ends⟩

/-- A way that ends at a relative path begins at one. -/
theorem Leads.relative {n : Nat} (leads : place.Leads n here parts there) (relative : there.anchor = .here) :
    here.anchor = .here := by
  induction leads with
  | done => exact relative
  | up _ ih => exact (Path.above_anchor _).symm.trans (ih relative)
  | enter _ _ _ ih => exact ih relative
  | link _ _ _ _ ihBehind ihOnward =>
    have inside := ihBehind (ihOnward relative)
    rw [Path.readAt] at inside
    split at inside
    · cases inside
    · exact inside

theorem exists_start {tree : Node} {links : Nat} {steps : List Step} {node : Node}
    (reached : tree.follow false links location steps = .ok goal) (found : tree.at? goal = some node) :
    ∃ start, tree.at? location = some start := by
  rw [Node.follow_eq_ok] at reached
  cases steps with
  | nil =>
    cases reached
    exact ⟨node, found⟩
  | cons step steps =>
    obtain ⟨entries, stands⟩ := Node.shapeAt?_directory.mp reached.directory
    exact ⟨_, stands⟩

theorem isAt_current (named : place.tree.everyName isFileName = true) {node : Node}
    (found : place.tree.at? place.current = some node) : place.IsAt ⟨.here, []⟩ place.current := by
  have plain : parentPart ∉ place.current := by
    intro member
    have name := isFileName_iff.mp ((Node.everyName_of_at? named found).1 _ member)
    exact (isEntryName_iff.mp name.1).2.2.1 rfl
  refine ⟨nofun, fun _ => List.not_mem_nil, List.forall_mem_nil _, ?_⟩
  rw [Path.absoluteParts_of_here rfl, List.append_nil, Path.settle_of_plain plain]

theorem isAt_start (named : place.tree.everyName isFileName = true) {path : Path} {links : Nat} {steps : List Step}
    {node : Node} (reached : place.tree.follow false links (startOf place.current path.anchor) steps = .ok goal)
    (found : place.tree.at? goal = some node) : place.IsAt path.start (startOf place.current path.anchor) := by
  rw [Path.start]
  split
  · next relative =>
    rw [startOf, if_pos relative] at reached ⊢
    obtain ⟨start, stands⟩ := exists_start reached found
    exact isAt_current named stands
  · next absolute =>
    rw [startOf, if_neg absolute]
    exact ⟨by rintro ⟨⟩, fun _ => List.not_mem_nil, List.forall_mem_nil _, rfl⟩

theorem find_ofLocation (named : place.tree.everyName isFileName = true) {node : Node}
    (found : place.tree.at? location = some node) (real : ∀ target, node ≠ .link target) :
    place.find (.ofLocation location) =
      if systemLength (Path.ofLocation location).toText < pathLimit then .ok node else .error .nameTooLong := by
  have names := (Node.everyName_of_at? named found).1
  have nameable : (Path.ofLocation location).IsNameable := fun name member =>
    (isFileName_iff.mp (names name member)).2.1
  have apart : parentPart ∉ location := fun member =>
    (isEntryName_iff.mp (isFileName_iff.mp (names _ member)).1).2.2.1 rfl
  have short : AreShort location := fun name member => (isFileName_iff.mp (names name member)).2.2
  split
  · next fits =>
    have accepted := textFault?_eq_none.mpr ⟨Path.isNameable_iff.mp nameable, fits⟩
    have leads := Node.follow_names place.tree false linkLimit location [] found real apart
    rw [if_pos short] at leads
    exact find_eq_ok.mpr ⟨location, locate_eq_ok.mpr ⟨accepted, leads⟩, found⟩
  · next long =>
    have refused : textFault? (.ofLocation location) = some .nameTooLong := by
      rw [textFault?, Fault.ofText?_eq_none.mpr (Path.isNameable_iff.mp nameable), if_pos (Nat.le_of_not_lt long)]
      rfl
    exact find_of_textFault? place refused

/-- The canonical form of a path that leads to something real through links that can be looked at is the location
that it leads to. -/
theorem canonical_eq {path : Path} {node : Node} (named : place.tree.everyName isFileName = true)
    (proper : ∀ part ∈ path.parts, Path.IsPart part) (located : place.locate false path = .ok location)
    (found : place.tree.at? location = some node) (real : ∀ target, node ≠ .link target)
    (sees : place.SeesLinks path.start path.parts) : place.canonical path = .ok (.ofLocation location) := by
  obtain ⟨accepted, reached⟩ := locate_eq_ok.mp located
  have moving : path.steps.filter (· ≠ .stay) = path.parts.map Step.ofPart := by
    refine List.filter_eq_self.mpr fun step member => ?_
    obtain ⟨part, -, rfl⟩ := List.mem_map.mp member
    simpa using Step.ofPart_ne_stay part
  obtain ⟨n, few, there, leads, ends⟩ :=
    leadsTo_of_follow named linkLimit reached ⟨isAt_start named reached found, moving, sees⟩
  have settled : ∃ after, place.reach reachLimit [] ⟨.here, []⟩ path.toText = .ok (after, .settled there) ∧
      place.Grown [] after := by
    refine reach_settles (Nat.lt_of_le_of_lt few (by decide)) ?_ ?_ ?_
    · rwa [Path.readAt_toText proper, Path.partsOf_toText proper]
    · exact fun _ _ impossible => by cases impossible
    · exact fun _ impossible => by cases impossible
  obtain ⟨after, reaches, -⟩ := settled
  have absolute : place.absolute there = .ok (.ofLocation location) := by
    rw [Place.absolute, ends.leads]
    cases anchor : there.anchor with
    | here =>
      rw [startOf, if_pos (Path.start_relative (leads.relative anchor))] at reached
      obtain ⟨_, stands⟩ := exists_start reached found
      have standing : place.hasCurrent = true := by rw [hasCurrent, stands, Option.isSome_some]
      rw [if_neg (not_not.mpr rfl), if_pos standing]
    | root => rfl
    | doubleRoot => exact absurd anchor ends.anchored
  have looked := find_ofLocation named found real
  simp only [canonical, reaches, Reached.path, absolute, bind, Except.bind, Except.mapError]
  split at looked
  · rw [looked]
  · rw [looked]
    rfl

end Place

end ProjectSurvey
