import Mathlib.Data.List.MinMax
import Mathlib.Data.List.Sort
import ProjectSurvey.Language.Detection

/-! Counting values. A tally holds each value once, in the order of the first occurrences, with the number of all of
them; its leading entry is the value that occurs most often, of several the one that occurs first. -/

namespace ProjectSurvey

variable {values : List Text}

theorem eraseDups_concat (values : List Text) (value : Text) :
    (values ++ [value]).eraseDups = if value ∈ values then values.eraseDups else values.eraseDups ++ [value] := by
  rw [List.eraseDups_append, List.removeAll]
  by_cases member : value ∈ values
  · rw [if_pos member, List.filter_cons_of_neg (by simpa using member), List.filter_nil, List.eraseDups_nil,
      List.append_nil]
  · rw [if_neg member, List.filter_cons_of_pos (by simpa using member), List.filter_nil, List.eraseDups_cons,
      List.filter_nil, List.eraseDups_nil]

theorem eraseDups_append_of_mem {value : Text} (member : value ∈ values) (others : List Text) :
    (values ++ value :: others).eraseDups = (values ++ others).eraseDups := by
  rw [List.eraseDups_append, List.eraseDups_append, List.removeAll, List.filter_cons_of_neg (by simpa using member)]
  rfl

theorem tally_concat (values : List Text) (value : Text) : tally (values ++ [value]) =
    if (tally values).any (·.1 == value) then
      (tally values).map fun entry => if entry.1 == value then (entry.1, entry.2 + 1) else entry
    else tally values ++ [(value, 1)] := by
  rw [tally, List.foldl_append]
  rfl

/-- The entries of a tally are the distinct values in the order of their first occurrences, each with the number of
its occurrences. -/
theorem tally_eq (values : List Text) :
    tally values = values.eraseDups.map fun value => (value, values.count value) := by
  induction values using List.reverseRecOn with
  | nil => rfl
  | append_singleton values value ih =>
    have counted : (tally values).any (·.1 == value) = true ↔ value ∈ values := by
      simp [ih]
    rw [tally_concat, eraseDups_concat]
    by_cases member : value ∈ values
    · rw [if_pos (counted.mpr member), if_pos member, ih, List.map_map]
      refine List.map_congr_left fun other _ => ?_
      by_cases same : other = value
      · simp [same]
      · simp [same, Ne.symm same]
    · rw [if_neg (mt counted.mp member), if_neg member, ih, List.map_append]
      congr 1
      · refine List.map_congr_left fun other among => ?_
        have apart : value ≠ other := by
          rintro rfl
          exact member (List.mem_eraseDups.mp among)
        rw [List.count_append, List.count_singleton, if_neg (by simpa using apart), Nat.add_zero]
      · rw [List.map_singleton, List.count_append, List.count_eq_zero_of_not_mem member, List.count_singleton_self]

theorem map_fst_tally (values : List Text) : (tally values).map (·.1) = values.eraseDups := by
  rw [tally_eq, List.map_map]
  exact List.map_id _

theorem mem_of_mem_tally : ∀ entry ∈ tally values, entry.1 ∈ values := by
  rw [tally_eq, List.forall_mem_map]
  exact fun value member => List.mem_eraseDups.mp member

/-- Whether each of some values is shown once, in the order of the first occurrences. -/
structure IsRoster (values shown : List Text) : Prop where
  mem_iff : ∀ value, value ∈ shown ↔ value ∈ values
  ordered : shown.Pairwise fun a b => values.idxOf a < values.idxOf b

theorem IsRoster.ordered_append {shown : List Text} (roster : IsRoster values shown) (later : List Text) :
    shown.Pairwise fun a b => (values ++ later).idxOf a < (values ++ later).idxOf b := by
  apply roster.ordered.imp_of_mem
  intro a b memberA memberB earlier
  rwa [List.idxOf_append_of_mem ((roster.mem_iff a).mp memberA),
    List.idxOf_append_of_mem ((roster.mem_iff b).mp memberB)]

theorem IsRoster.known {shown : List Text} {value : Text} (roster : IsRoster values shown) (member : value ∈ values) :
    IsRoster (values ++ [value]) shown := by
  refine ⟨?_, roster.ordered_append _⟩
  intro other
  rw [roster.mem_iff, List.mem_append, List.mem_singleton]
  exact ⟨.inl, fun among => among.elim id fun same => same ▸ member⟩

theorem IsRoster.new {shown : List Text} {value : Text} (roster : IsRoster values shown) (new : value ∉ values) :
    IsRoster (values ++ [value]) (shown ++ [value]) := by
  constructor
  · intro other
    rw [List.mem_append, List.mem_append, roster.mem_iff]
  · refine List.pairwise_append.mpr ⟨roster.ordered_append _, List.pairwise_singleton _ _, ?_⟩
    intro a member b last
    have known := (roster.mem_iff a).mp member
    rw [List.mem_singleton.mp last, List.idxOf_append_of_mem known, List.idxOf_append_of_notMem new]
    exact Nat.lt_add_right _ (List.idxOf_lt_length_of_mem known)

theorem isRoster_eraseDups (values : List Text) : IsRoster values values.eraseDups := by
  induction values using List.reverseRecOn with
  | nil => exact ⟨fun _ => Iff.rfl, .nil⟩
  | append_singleton values value ih =>
    rw [eraseDups_concat]
    split
    · next member => exact ih.known member
    · next new => exact ih.new new

/-- Each list of values has one roster only. -/
theorem IsRoster.eq_eraseDups {shown : List Text} (roster : IsRoster values shown) : shown = values.eraseDups := by
  have other := isRoster_eraseDups values
  exact roster.ordered.eq_of_mem_iff other.ordered fun value =>
    (roster.mem_iff value).trans (other.mem_iff value).symm

theorem nodup_eraseDups (values : List Text) : values.eraseDups.Nodup := by
  refine (isRoster_eraseDups values).ordered.imp fun earlier same => ?_
  exact absurd (same ▸ earlier) (Nat.lt_irrefl _)

theorem eraseDups_of_nodup (nodup : values.Nodup) : values.eraseDups = values := by
  induction values using List.reverseRecOn with
  | nil => rfl
  | append_singleton values value ih =>
    obtain ⟨known, -, apart⟩ := List.nodup_append.mp nodup
    have new : value ∉ values := fun member => apart value member value (List.mem_singleton_self _) rfl
    rw [eraseDups_concat, if_neg new, ih known]

theorem leading?_eq (counts : List (Text × Nat)) : leading? counts = counts.argmax (·.2) := by
  induction counts using List.reverseRecOn with
  | nil => rfl
  | append_singleton counts entry ih =>
    rw [List.argmax_concat, ← ih, leading?, List.foldl_append, ← leading?]
    cases leading? counts <;> rfl

/-- Values that have occurred before do not come first among the greatest. -/
theorem argmax_eraseDups (f : Text → Nat) (values : List Text) : values.eraseDups.argmax f = values.argmax f := by
  induction values using List.reverseRecOn with
  | nil => rfl
  | append_singleton values value ih =>
    rw [eraseDups_concat, List.argmax_concat]
    split
    · next member =>
      rw [ih]
      cases found : values.argmax f with
      | none => rw [List.argmax_eq_none.mp found] at member; cases member
      | some greatest => simp [List.le_of_mem_argmax member found]
    · rw [List.argmax_concat, ih]

theorem argmax_map {α β : Type} (f : β → Nat) (g : α → β) (values : List α) :
    (values.map g).argmax f = (values.argmax (f ∘ g)).map g := by
  induction values using List.reverseRecOn with
  | nil => rfl
  | append_singleton values value ih =>
    rw [List.map_append, List.map_singleton, List.argmax_concat, List.argmax_concat, ih]
    cases values.argmax (f ∘ g) with
    | none => rfl
    | some greatest =>
      simp only [Option.map_some, Function.comp_apply]
      split <;> rfl

theorem leading?_tally (values : List Text) : leading? (tally values) =
    (values.argmax fun value => values.count value).map fun value => (value, values.count value) := by
  rw [leading?_eq, tally_eq, argmax_map, argmax_eraseDups]
  rfl

/-- Whether a value occurs most often among others, and first of those that do. -/
structure IsLeading (values : List Text) (value : Text) : Prop where
  occurs : value ∈ values
  most : ∀ other ∈ values, values.count other ≤ values.count value
  first : ∀ other ∈ values, values.count other = values.count value → values.idxOf value ≤ values.idxOf other

theorem isLeading_iff {value : Text} :
    IsLeading values value ↔ leading? (tally values) = some (value, values.count value) := by
  have entry : leading? (tally values) = some (value, values.count value) ↔
      values.argmax (fun value => values.count value) = some value := by
    rw [leading?_tally, Option.map_eq_some_iff]
    constructor
    · rintro ⟨other, found, same⟩
      rw [found, (Prod.mk.inj same).1]
    · exact fun found => ⟨value, found, rfl⟩
  have equality : instBEqOfDecidableEq = (inferInstance : BEq Text) := lawful_beq_subsingleton _ _
  rw [entry, List.argmax_eq_some_iff, equality]
  constructor
  · rintro ⟨occurs, most, first⟩
    exact ⟨occurs, most, fun other member many =>
      first other member (Nat.le_antisymm (most other member) many)⟩
  · rintro ⟨occurs, most, first⟩
    exact ⟨occurs, most, fun other member same => first other member same.ge⟩

theorem exists_isLeading (some : values ≠ []) : ∃ value, IsLeading values value := by
  cases found : values.argmax fun value => values.count value with
  | none => exact absurd (List.argmax_eq_none.mp found) some
  | some value => exact ⟨value, isLeading_iff.mpr (by rw [leading?_tally, found]; rfl)⟩

theorem IsLeading.unique {value other : Text} (leads : IsLeading values value) (rival : IsLeading values other) :
    other = value := by
  have same := (isLeading_iff.mp rival).symm.trans (isLeading_iff.mp leads)
  exact (Prod.mk.inj (Option.some.inj same)).1

end ProjectSurvey
