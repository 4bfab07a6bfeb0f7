import Mathlib.Data.List.Nodup
import ProjectSurvey.Json.Basic

/-! The fields of a JSON object that is made field after field: of two with one name the last counts, and it
stands where the first stood. -/

namespace ProjectSurvey.Json

theorem field?_cons (field : Text × Json) (fields : List (Text × Json)) (name : Text) :
    field? (field :: fields) name = if field.1 = name then some field.2 else field? fields name := by
  rw [field?, List.find?_cons]
  by_cases same : field.1 = name
  · rw [beq_iff_eq.mpr same, if_pos same]
    rfl
  · rw [beq_eq_false_iff_ne.mpr same, if_neg same]
    rfl

theorem field?_first (name : Text) (value : Json) (fields : List (Text × Json)) :
    field? ((name, value) :: fields) name = some value := by
  rw [field?_cons, if_pos rfl]

theorem field?_eq_none {fields : List (Text × Json)} {name : Text} :
    field? fields name = none ↔ name ∉ fields.map (·.1) := by
  induction fields with
  | nil => simp [field?]
  | cons field fields ih =>
    rw [field?_cons, List.map_cons, List.mem_cons, not_or]
    by_cases same : field.1 = name
    · simp [same]
    · rw [if_neg same, ih]
      simp [Ne.symm same]

theorem mem_of_field? {fields : List (Text × Json)} {name : Text} {value : Json}
    (found : field? fields name = some value) : (name, value) ∈ fields := by
  obtain ⟨field, first, rfl⟩ := Option.map_eq_some_iff.mp found
  have called : field.1 = name := by simpa using List.find?_some first
  exact called ▸ List.mem_of_find?_eq_some first

section Setting

variable {fields : List (Text × Json)} {name : Text}

theorem setField_new (fresh : name ∉ fields.map (·.1)) (item : Json) :
    setField fields name item = fields ++ [(name, item)] := by
  have absent : (fields.any fun field => field.1 == name) = false := by
    simp only [List.any_eq_false, beq_iff_eq]
    rintro field member rfl
    exact fresh (List.mem_map_of_mem member)
  rw [setField, absent, if_neg (by decide)]

theorem setField_known (known : name ∈ fields.map (·.1)) (item : Json) :
    setField fields name item = fields.map fun field => (field.1, if field.1 = name then item else field.2) := by
  have present : (fields.any fun field => field.1 == name) = true := by
    obtain ⟨field, member, same⟩ := List.mem_map.mp known
    exact List.any_eq_true.mpr ⟨field, member, beq_iff_eq.mpr same⟩
  rw [setField, present, if_pos rfl]
  refine List.map_congr_left fun field _ => ?_
  by_cases same : field.1 = name
  · rw [if_pos (beq_iff_eq.mpr same), if_pos same, same]
  · rw [if_neg (by simpa using same), if_neg same]

theorem field?_setField {other : Text} (apart : other ≠ name) (item : Json) :
    field? (setField fields other item) name = field? fields name := by
  by_cases known : other ∈ fields.map (·.1)
  · rw [setField_known known]
    clear known
    induction fields with
    | nil => rfl
    | cons field fields ih =>
      rw [List.map_cons, field?_cons, field?_cons, ih]
      by_cases same : field.1 = name
      · rw [if_pos same, if_pos same, if_neg fun called => apart (called.symm.trans same)]
      · rw [if_neg same, if_neg same]
  · rw [setField_new known]
    clear known
    induction fields with
    | nil => rw [List.nil_append, field?_cons, if_neg apart]
    | cons field fields ih => rw [List.cons_append, field?_cons, field?_cons, ih]

theorem field?_setField_self (fields : List (Text × Json)) (name : Text) (item : Json) :
    field? (setField fields name item) name = some item := by
  by_cases known : name ∈ fields.map (·.1)
  · rw [setField_known known]
    induction fields with
    | nil => cases known
    | cons field fields ih =>
      rw [List.map_cons, field?_cons]
      by_cases same : field.1 = name
      · rw [if_pos same, if_pos same]
      · rw [if_neg same, ih ((List.mem_cons.mp known).resolve_left fun here => same here.symm)]
  · rw [setField_new known]
    induction fields with
    | nil => exact field?_first name item []
    | cons field fields ih =>
      obtain ⟨apart, rest⟩ := not_or.mp (mt List.mem_cons.mpr known)
      rw [List.cons_append, field?_cons, if_neg fun same => apart same.symm, ih rest]

end Setting

/-- Fields with others set in them, one after another. -/
def setFields (own others : List (Text × Json)) : List (Text × Json) :=
  others.foldl (fun fields field => setField fields field.1 field.2) own

/-- Fields with the values that others have for them in their place, then the rest of the others. -/
def overridden (own others : List (Text × Json)) : List (Text × Json) :=
  (own.map fun field => (field.1, (field? others field.1).getD field.2)) ++
    others.filter fun other => other.1 ∉ own.map (·.1)

/-- Where no two of the others have one name, each of them is found again with its own value. -/
theorem setFields_eq_overridden {own others : List (Text × Json)} (single : (others.map (·.1)).Nodup) :
    setFields own others = overridden own others := by
  induction others generalizing own with
  | nil => simp [setFields, overridden, field?]
  | cons other others ih =>
    rw [List.map_cons, List.nodup_cons] at single
    have once := field?_eq_none.mpr single.1
    rw [setFields, List.foldl_cons, ← setFields, ih single.2]
    by_cases known : other.1 ∈ own.map (·.1)
    · have names : (setField own other.1 other.2).map (·.1) = own.map (·.1) := by
        rw [setField_known known, List.map_map]
        rfl
      have values : (setField own other.1 other.2).map (fun field => (field.1, (field? others field.1).getD field.2)) =
          own.map fun field => (field.1, (field? (other :: others) field.1).getD field.2) := by
        rw [setField_known known, List.map_map]
        refine List.map_congr_left fun field _ => ?_
        simp only [Function.comp_apply, field?_cons]
        by_cases same : field.1 = other.1
        · simp only [same, once, if_true, Option.getD_none, Option.getD_some]
        · simp only [if_neg same, if_neg (Ne.symm same)]
      rw [overridden, overridden, names, values, List.filter_cons_of_neg (by simpa using known)]
    · have values : own.map (fun field => (field.1, (field? others field.1).getD field.2)) =
          own.map fun field => (field.1, (field? (other :: others) field.1).getD field.2) := by
        refine List.map_congr_left fun field member => ?_
        have apart : other.1 ≠ field.1 := fun same => known (same ▸ List.mem_map_of_mem member)
        rw [field?_cons, if_neg apart]
      have rest : others.filter (fun field => field.1 ∉ (own ++ [other]).map (·.1)) =
          others.filter fun field => field.1 ∉ own.map (·.1) := by
        refine List.filter_congr fun field member => ?_
        have apart : field.1 ≠ other.1 := fun same => single.1 (same ▸ List.mem_map_of_mem member)
        simp [apart]
      rw [setField_new known, overridden, overridden, rest, List.map_append, values,
        List.filter_cons_of_pos (by simpa using known)]
      simp [once]

theorem setFields_nil {fields : List (Text × Json)} (single : (fields.map (·.1)).Nodup) :
    setFields [] fields = fields := by
  rw [setFields_eq_overridden single]
  simp [overridden]

theorem mem_overridden {own others : List (Text × Json)} {field : Text × Json}
    (member : field ∈ overridden own others) : field ∈ own ∨ field ∈ others := by
  rcases List.mem_append.mp member with mapped | kept
  · obtain ⟨before, inside, rfl⟩ := List.mem_map.mp mapped
    cases found : field? others before.1 with
    | none => exact .inl inside
    | some value => exact .inr (mem_of_field? found)
  · exact .inr (List.mem_filter.mp kept).1

theorem overridden_first {field : Text × Json} {others : List (Text × Json)}
    (absent : field? others field.1 = none) (own : List (Text × Json)) :
    ∃ rest, overridden (field :: own) others = field :: rest := by
  rw [overridden, List.map_cons, absent, List.cons_append]
  exact ⟨_, rfl⟩

theorem overridden_names (own others : List (Text × Json)) :
    (overridden own others).map (·.1) =
      own.map (·.1) ++ (others.map (·.1)).filter fun name => name ∉ own.map (·.1) := by
  rw [overridden, List.map_append, List.map_map, List.filter_map]
  rfl

theorem overridden_nodup {own others : List (Text × Json)} (distinct : (own.map (·.1)).Nodup)
    (single : (others.map (·.1)).Nodup) : ((overridden own others).map (·.1)).Nodup := by
  rw [overridden_names]
  refine List.nodup_append'.mpr ⟨distinct, single.filter _, ?_⟩
  intro name member other
  simp only [List.mem_filter, decide_eq_true_eq] at other
  exact other.2 member

end ProjectSurvey.Json
