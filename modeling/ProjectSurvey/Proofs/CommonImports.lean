import Mathlib.Data.Finset.Card
import ProjectSurvey.Guidance
import ProjectSurvey.Proofs.Tally

/-! The packages that a project imports most often. They are counted, sorted by their counts and cut off after
the fifth. The sort is stable, so that of packages with one count the one imported first stands first, also where
the cut falls between them. -/

namespace ProjectSurvey

/-- Sorting leaves in their order any two that the comparison does not tell apart. -/
theorem mergeSort_stable {α : Type} {le : α → α → Bool} {before : α → α → Prop}
    (trans : ∀ a b c, le a b = true → le b c = true → le a c = true) (total : ∀ a b, (le a b || le b a) = true)
    {entries : List α} (ordered : entries.Pairwise before) :
    (entries.mergeSort le).Pairwise fun a b => le a b = true ∧ (le b a = true → before a b) := by
  have sorted := List.pairwise_mergeSort (List.zipIdxLE_trans trans) (List.zipIdxLE_total total) entries.zipIdx
  have apart : (entries.zipIdx.mergeSort (List.zipIdxLE le)).Pairwise fun a b => a.2 ≠ b.2 := by
    have places : (entries.zipIdx.map Prod.snd).Nodup := by
      rw [List.zipIdx_map_snd]
      exact List.nodup_range' 1
    exact List.pairwise_map.mp (((List.mergeSort_perm _ _).map Prod.snd).nodup_iff.mpr places)
  rw [← List.mergeSort_zipIdx, List.pairwise_map]
  apply (sorted.and apart).imp_of_mem
  intro a b memberA memberB relation
  obtain ⟨inOrder, differ⟩ := relation
  simp only [List.zipIdxLE] at inOrder
  split at inOrder
  · next first =>
    refine ⟨first, fun back => ?_⟩
    rw [if_pos back, decide_eq_true_iff] at inOrder
    have standsA := List.mem_zipIdx_iff_getElem?.mp (List.mem_mergeSort.mp memberA)
    have standsB := List.mem_zipIdx_iff_getElem?.mp (List.mem_mergeSort.mp memberB)
    obtain ⟨withinA, sameA⟩ := List.getElem?_eq_some_iff.mp standsA
    obtain ⟨withinB, sameB⟩ := List.getElem?_eq_some_iff.mp standsB
    rw [← sameA, ← sameB]
    exact List.pairwise_iff_getElem.mp ordered _ _ withinA withinB (by omega)
  · cases inOrder

/-- Whether a value occurs more often than another, or as often and first. -/
def Outranks (values : List Text) (a b : Text) : Prop :=
  values.count b < values.count a ∨ values.count b = values.count a ∧ values.idxOf a < values.idxOf b

/-- Whether the values shown are those that outrank all others, as many as there is room for, in their order. -/
structure IsTop (room : Nat) (values shown : List Text) : Prop where
  size : shown.length = min room values.toFinset.card
  occur : ∀ value ∈ shown, value ∈ values
  distinct : shown.Nodup
  ordered : shown.Pairwise (Outranks values)
  others : ∀ value ∈ values, value ∉ shown → ∀ ranked ∈ shown, Outranks values ranked value

variable {values shown : List Text} {room : Nat}

theorem Outranks.asymm {a b : Text} (above : Outranks values a b) : ¬ Outranks values b a := by
  intro below
  simp only [Outranks] at above below
  omega

instance : Std.Asymm (Outranks values) :=
  ⟨fun _ _ => Outranks.asymm⟩

/-- Whether a value occurs at least as often as another. -/
def isAhead (values : List Text) (a b : Text) : Bool :=
  values.count b ≤ values.count a

theorem isAhead_iff {a b : Text} : isAhead values a b = true ↔ values.count b ≤ values.count a :=
  decide_eq_true_iff

theorem isAhead_trans (a b c : Text) (first : isAhead values a b = true) (second : isAhead values b c = true) :
    isAhead values a c = true := by
  rw [isAhead_iff] at *
  omega

theorem isAhead_total (a b : Text) : (isAhead values a b || isAhead values b a) = true := by
  rw [Bool.or_eq_true, isAhead_iff, isAhead_iff]
  omega

def ranking (values : List Text) : List Text :=
  values.eraseDups.mergeSort (isAhead values)

theorem mergeSort_tally (values : List Text) : ((tally values).mergeSort fun a b => b.2 ≤ a.2) =
    (ranking values).map fun value => (value, values.count value) := by
  rw [tally_eq, ranking]
  symm
  apply List.map_mergeSort
  intro a _ b _
  rfl

theorem mem_ranking {value : Text} : value ∈ ranking values ↔ value ∈ values := by
  rw [ranking, List.mem_mergeSort, List.mem_eraseDups]

theorem ranking_eq_nil : ranking values = [] ↔ values = [] := by
  simp only [List.eq_nil_iff_forall_not_mem, mem_ranking]

theorem ranking_ordered (values : List Text) : (ranking values).Pairwise (Outranks values) := by
  apply (mergeSort_stable isAhead_trans isAhead_total (isRoster_eraseDups values).ordered).imp
  intro a b relation
  rw [isAhead_iff, isAhead_iff] at relation
  obtain ⟨most, first⟩ := relation
  rcases Nat.lt_or_eq_of_le most with more | same
  · exact .inl more
  · exact .inr ⟨same, first (by omega)⟩

theorem ranking_nodup (values : List Text) : (ranking values).Nodup :=
  (ranking_ordered values).nodup

theorem length_ranking (values : List Text) : (ranking values).length = values.toFinset.card := by
  rw [← List.toFinset_card_of_nodup (ranking_nodup values)]
  congr 1
  ext value
  rw [List.mem_toFinset, List.mem_toFinset, mem_ranking]

theorem isTop_take_ranking (room : Nat) (values : List Text) : IsTop room values ((ranking values).take room) := by
  have ordered := ranking_ordered values
  refine ⟨by rw [List.length_take, length_ranking], ?_, ?_, ?_, ?_⟩
  · exact fun value member => mem_ranking.mp (List.mem_of_mem_take member)
  · exact (List.take_sublist _ _).nodup (ranking_nodup values)
  · exact ordered.sublist (List.take_sublist _ _)
  · intro value member beyond ranked top
    have left : value ∈ (ranking values).drop room := by
      have both := mem_ranking.mpr member
      rw [← List.take_append_drop room (ranking values)] at both
      exact (List.mem_append.mp both).resolve_left beyond
    rw [← List.take_append_drop room (ranking values)] at ordered
    exact (List.pairwise_append.mp ordered).2.2 ranked top value left

theorem IsTop.subset {first second : List Text} (one : IsTop room values first) (other : IsTop room values second) :
    first ⊆ second := by
  intro value member
  by_contra absent
  have extra : ∃ rival ∈ second, rival ∉ first := by
    by_contra none
    have within : second ⊆ first := by
      intro rival among
      by_contra missing
      exact none ⟨rival, among, missing⟩
    have same := (other.distinct.subperm within).perm_of_length_le (by rw [one.size, other.size])
    exact absent (same.mem_iff.mpr member)
  obtain ⟨rival, among, missing⟩ := extra
  have below := other.others value (one.occur value member) absent rival among
  exact below.asymm (one.others rival (other.occur rival among) missing value member)

/-- No two lists show the values that outrank all others. -/
theorem IsTop.unique {first second : List Text} (one : IsTop room values first) (other : IsTop room values second) :
    first = second :=
  one.ordered.eq_of_mem_iff other.ordered fun _ =>
    ⟨fun member => one.subset other member, fun member => other.subset one member⟩

theorem commonImports_eq (imports : List Import) :
    commonImports imports = ((ranking (imports.map (·.package))).take 5).map
      fun package => (package, (imports.map (·.package)).count package) := by
  rw [commonImports, mergeSort_tally, List.map_take]
  rfl

/-- The guidance for a project has a section on common imports exactly if anything is imported. The section shows
the five packages that are imported most often, or all if there are fewer, each with the number of its imports; of
packages with the same number those imported first come first and are shown first. -/
theorem patternGuidance_commonImports (analysis : Analysis) (category : Text) :
    let packages := analysis.imports.map (·.package)
    ∃ shown, (∀ other, IsTop 5 packages other ↔ other = shown) ∧ (shown = [] ↔ analysis.imports = []) ∧
      patternGuidance analysis category = closedLines (
        [[], [], "=== EXISTING PATTERNS IN PROJECT ==="] ++
        similarLines (similarComponents analysis.components category.lower) ++
        (if shown = [] then [] else
          [[], "COMMON IMPORTS IN PROJECT:"] ++ shown.map fun package =>
            "- " ++ package ++ " (used " ++ Text.ofNat (packages.count package) ++ " times)") ++
        (kindsOf analysis.idioms).flatMap (kindLines analysis.idioms)) := by
  intro packages
  have top := isTop_take_ranking 5 packages
  refine ⟨(ranking packages).take 5, ?_, ?_, ?_⟩
  · intro other
    exact ⟨fun rival => rival.unique top, fun same => same ▸ top⟩
  · rw [List.take_eq_nil_iff, ranking_eq_nil, List.map_eq_nil_iff]
    exact or_iff_right (by decide)
  · rw [patternGuidance, commonImports_eq, commonImportLines, List.isEmpty_map, List.map_map]
    by_cases none : (ranking packages).take 5 = []
    · rw [if_pos (List.isEmpty_iff.mpr none), if_pos none]
      rfl
    · rw [if_neg (mt List.isEmpty_iff.mp none), if_neg none]
      rfl

end ProjectSurvey
