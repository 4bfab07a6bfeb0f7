import Mathlib.Data.List.Infix
import ProjectSurvey.Guidance
import ProjectSurvey.Proofs.Tally
import ProjectSurvey.Proofs.TextPieces

/-! The sections of the guidance for a project. Idioms come file by file with their kinds mixed; they are
collected by kinds one record after another, which keeps both the order of the kinds and the order within each
kind. What is shown of a kind is settled by its first three records. -/

namespace ProjectSurvey

variable {idioms : List Idiom} {groups : List (Text × List Idiom)}

/-- A group with one more record, if it is the group of its kind. -/
def takeIn (idiom : Idiom) (group : Text × List Idiom) : Text × List Idiom :=
  if group.1 == idiom.kind then (group.1, group.2 ++ [idiom]) else group

/-- The groups with one more record, which begins the last group if its kind is new. -/
def groupOnto (groups : List (Text × List Idiom)) (idiom : Idiom) : List (Text × List Idiom) :=
  if groups.any (·.1 == idiom.kind) then groups.map (takeIn idiom) else groups ++ [(idiom.kind, [idiom])]

/-- The records by kinds, collected one after another. -/
def grouped (idioms : List Idiom) : List (Text × List Idiom) :=
  idioms.foldl groupOnto []

/-- Whether there is one group for each kind, in the order in which the kinds first occur, and each group holds
all records of its kind in their order. -/
structure IsGrouping (idioms : List Idiom) (groups : List (Text × List Idiom)) : Prop where
  kinds : IsRoster (idioms.map (·.kind)) (groups.map (·.1))
  records : ∀ group ∈ groups, group.2 = idioms.filter (·.kind == group.1)

theorem takeIn_fst (idiom : Idiom) (group : Text × List Idiom) : (takeIn idiom group).1 = group.1 := by
  rw [takeIn]
  split <;> rfl

namespace IsGrouping

variable (grouping : IsGrouping idioms groups) {idiom : Idiom}

include grouping

theorem concat_known (member : idiom.kind ∈ idioms.map (·.kind)) :
    IsGrouping (idioms ++ [idiom]) (groups.map (takeIn idiom)) := by
  constructor
  · have names : (groups.map (takeIn idiom)).map (·.1) = groups.map (·.1) := by
      rw [List.map_map]
      exact List.map_congr_left fun group _ => takeIn_fst idiom group
    rw [names, List.map_append]
    exact grouping.kinds.known member
  · intro group inside
    obtain ⟨before, among, rfl⟩ := List.mem_map.mp inside
    have records := grouping.records before among
    by_cases same : before.1 = idiom.kind
    · simp [takeIn, same, records]
    · simp [takeIn, same, Ne.symm same, records]

theorem concat_new (new : idiom.kind ∉ idioms.map (·.kind)) :
    IsGrouping (idioms ++ [idiom]) (groups ++ [(idiom.kind, [idiom])]) := by
  constructor
  · rw [List.map_append, List.map_append]
    exact grouping.kinds.new new
  · intro group inside
    rcases List.mem_append.mp inside with among | last
    · have apart : idiom.kind ≠ group.1 := by
        intro same
        exact new (same ▸ (grouping.kinds.mem_iff group.1).mp (List.mem_map_of_mem among))
      simp [grouping.records group among, apart]
    · have none : idioms.filter (·.kind == idiom.kind) = [] := by
        rw [List.filter_eq_nil_iff]
        intro other among same
        exact new (List.mem_map.mpr ⟨other, among, by simpa using same⟩)
      rw [List.mem_singleton.mp last, List.filter_append, none]
      simp

theorem concat (idiom : Idiom) : IsGrouping (idioms ++ [idiom]) (groupOnto groups idiom) := by
  have known : groups.any (·.1 == idiom.kind) = true ↔ idiom.kind ∈ idioms.map (·.kind) := by
    rw [← grouping.kinds.mem_iff, List.any_eq_true, List.mem_map]
    simp only [beq_iff_eq]
  rw [groupOnto]
  split
  · next member => exact grouping.concat_known (known.mp member)
  · next new => exact grouping.concat_new (mt known.mpr new)

end IsGrouping

theorem isGrouping_grouped (idioms : List Idiom) : IsGrouping idioms (grouped idioms) := by
  induction idioms using List.reverseRecOn with
  | nil => exact ⟨⟨fun _ => Iff.rfl, .nil⟩, List.forall_mem_nil _⟩
  | append_singleton idioms idiom ih =>
    rw [grouped, List.foldl_append]
    exact ih.concat idiom

theorem kindsOf_eq (idioms : List Idiom) : kindsOf idioms = (idioms.map (·.kind)).eraseDups :=
  map_fst_tally _

/-- A grouping is what the kinds and the records of each kind say. -/
theorem IsGrouping.eq (grouping : IsGrouping idioms groups) :
    groups = (kindsOf idioms).map fun kind => (kind, idioms.filter (·.kind == kind)) := by
  rw [kindsOf_eq, ← grouping.kinds.eq_eraseDups, List.map_map]
  conv_lhs => rw [← List.map_id groups]
  apply List.map_congr_left
  intro group member
  simp only [id_eq, Function.comp_apply, ← grouping.records group member]

/-- The records without each that `most` others of its kind come before; those in `seen` come before all. -/
def firstOfKinds (most : Nat) (seen : List Idiom) : List Idiom → List Idiom
  | [] => []
  | idiom :: rest =>
    if seen.countP (·.kind == idiom.kind) < most then
      idiom :: firstOfKinds most (seen ++ [idiom]) rest
    else firstOfKinds most (seen ++ [idiom]) rest

theorem filter_firstOfKinds (most : Nat) (seen idioms : List Idiom) (kind : Text) :
    (firstOfKinds most seen idioms).filter (·.kind == kind) =
      (idioms.filter (·.kind == kind)).take (most - seen.countP (·.kind == kind)) := by
  induction idioms generalizing seen with
  | nil => simp [firstOfKinds]
  | cons idiom rest ih =>
    have counted : (seen ++ [idiom]).countP (·.kind == kind) =
        seen.countP (·.kind == kind) + [idiom].countP (·.kind == kind) := List.countP_append
    rw [firstOfKinds]
    by_cases same : idiom.kind = kind
    · subst same
      rw [List.filter_cons_of_pos (by simp)]
      rw [List.countP_singleton, if_pos (by simp)] at counted
      split
      · next few =>
        rw [List.filter_cons_of_pos (by simp), ih, counted]
        have room : most - seen.countP (·.kind == idiom.kind) =
            most - (seen.countP (·.kind == idiom.kind) + 1) + 1 := by omega
        rw [room, List.take_succ_cons]
      · next many =>
        rw [ih, counted, Nat.sub_eq_zero_of_le (by omega), Nat.sub_eq_zero_of_le (by omega)]
        rfl
    · rw [List.filter_cons_of_neg (by simpa using same)]
      rw [List.countP_singleton, if_neg (by simpa using same), Nat.add_zero] at counted
      split
      · rw [List.filter_cons_of_neg (by simpa using same), ih, counted]
      · rw [ih, counted]

theorem kinds_firstOfKinds {most : Nat} (room : 0 < most) (seen idioms : List Idiom) :
    ((seen ++ firstOfKinds most seen idioms).map (·.kind)).eraseDups =
      ((seen ++ idioms).map (·.kind)).eraseDups := by
  induction idioms generalizing seen with
  | nil => rfl
  | cons idiom rest ih =>
    have onward := ih (seen ++ [idiom])
    rw [List.append_assoc, List.append_assoc, List.singleton_append, List.singleton_append] at onward
    rw [firstOfKinds]
    split
    · exact onward
    · next many =>
      have present : idiom.kind ∈ seen.map (·.kind) := by
        have counted : 0 < seen.countP (·.kind == idiom.kind) := by omega
        obtain ⟨other, among, same⟩ := List.countP_pos_iff.mp counted
        exact List.mem_map.mpr ⟨other, among, by simpa using same⟩
      rw [← onward, List.map_append, List.map_append, List.map_cons, eraseDups_append_of_mem present]

/-- Whether a component plays the role that a category names or bears the category in its name, the category and
the name being taken in small letters. -/
def Component.IsSimilarTo (category : Text) (component : Component) : Prop :=
  component.role = category.lower ∨ category.lower <:+: component.name.lower

instance (category : Text) : DecidablePred (Component.IsSimilarTo category) :=
  fun _ => inferInstanceAs (Decidable (_ ∨ _))

theorem similarComponents_eq (components : List Component) (category : Text) :
    similarComponents components category.lower = components.filter (·.IsSimilarTo category) := by
  apply List.filter_congr
  intro component _
  rw [Bool.eq_iff_iff, Bool.or_eq_true, beq_iff_eq, Text.occursIn_iff, decide_eq_true_iff]
  rfl

theorem similarLines_eq (similar : List Component) : similarLines similar =
    if similar = [] then [] else
      titled "SIMILAR COMPONENTS FOUND:" (similar.map componentLine) ++
        titled "=> Follow the same pattern as these existing components!" [] := by
  cases similar <;> rfl

def exampleLines (sample : Text) : List Text :=
  if sample = [] then [] else ["  Example: " ++ sample]

theorem idiomLines_eq (idiom : Idiom) :
    idiomLines idiom = ("- " ++ idiom.label ++ " in " ++ idiom.file) :: exampleLines (idiom.example?.getD []) := by
  rw [idiomLines]
  cases idiom.example? with
  | none => rfl
  | some sample => cases sample <;> rfl

theorem patternGuidance_congr {analysis : Analysis} {others : List Idiom} (category : Text)
    (kinds : kindsOf others = kindsOf analysis.idioms)
    (records : ∀ kind, (others.filter (·.kind == kind)).take idiomsShown =
      (analysis.idioms.filter (·.kind == kind)).take idiomsShown) :
    patternGuidance { analysis with idioms := others } category = patternGuidance analysis category := by
  have sections (kind : Text) : kindLines others kind = kindLines analysis.idioms kind := by
    rw [kindLines, kindLines, records]
  simp only [patternGuidance, kinds, funext sections]

/-- The guidance has a line for each component that is similar to the category, in their order and as often as they
come, in a section that is left out if there are none; and after the imports a section for each kind of idioms in
the order in which the kinds first occur, with the first three records of the kind in their order and behind each
its example if it has one that is not empty. A record that comes after three others of its kind makes no
difference. -/
theorem patternGuidance_sections (analysis : Analysis) (category : Text) :
    let similar := analysis.components.filter (·.IsSimilarTo category)
    let groups := grouped analysis.idioms
    (∀ other, IsGrouping analysis.idioms other ↔ other = groups) ∧
    patternGuidance analysis category = closedLines (
      [[], [], "=== EXISTING PATTERNS IN PROJECT ==="] ++
      (if similar = [] then [] else
        titled "SIMILAR COMPONENTS FOUND:" (similar.map componentLine) ++
          titled "=> Follow the same pattern as these existing components!" []) ++
      commonImportLines (commonImports analysis.imports) ++
      groups.flatMap fun group => titled (group.1.upper ++ " PATTERNS:")
        ((group.2.take 3).flatMap fun idiom =>
          ("- " ++ idiom.label ++ " in " ++ idiom.file : Text) :: exampleLines (idiom.example?.getD []))) ∧
    patternGuidance { analysis with idioms := firstOfKinds 3 [] analysis.idioms } category =
      patternGuidance analysis category := by
  intro similar groups
  have grouping := isGrouping_grouped analysis.idioms
  refine ⟨fun other => ⟨fun rival => rival.eq.trans grouping.eq.symm, fun same => same ▸ grouping⟩, ?_, ?_⟩
  · have shown : groups =
        (kindsOf analysis.idioms).map fun kind => (kind, analysis.idioms.filter (·.kind == kind)) := grouping.eq
    have found : similar = similarComponents analysis.components category.lower :=
      (similarComponents_eq analysis.components category).symm
    simp only [← idiomLines_eq]
    rw [← similarLines_eq, found, shown, List.flatMap_map]
    rfl
  · apply patternGuidance_congr
    · rw [kindsOf_eq, kindsOf_eq]
      exact kinds_firstOfKinds (by decide) [] analysis.idioms
    · intro kind
      rw [filter_firstOfKinds, List.take_take]
      rfl

end ProjectSurvey
