import ProjectSurvey.Inventory.Role
import ProjectSurvey.Proofs.SmallText

/-! The order of roles. More text can make an earlier rule speak for a component and silences none: a small form
changes with what stands around it in its sigmas only, and no rule looks for one. -/

namespace ProjectSurvey

namespace Text

/-- A character, a small sigma being the same at the end of a word as within. -/
def mergeSigma (c : Char) : Char :=
  if c = 'ς' then 'σ' else c

theorem map_mergeSigma_of_plain {text : Text} (plain : 'ς' ∉ text) : text.map mergeSigma = text := by
  have same : ∀ c ∈ text, mergeSigma c = id c := by
    intro c member
    refine if_neg ?_
    rintro rfl
    exact plain member
  rw [List.map_congr_left same, List.map_id]

theorem map_mergeSigma_lowerAt (afterCased : Bool) (c : Char) (rest : Text) :
    (lowerAt afterCased c rest).map mergeSigma = (lowerAt false c []).map mergeSigma := by
  by_cases sigma : c = 'Σ'
  · rw [lowerAt, lowerAt, if_pos sigma, if_pos sigma]
    split <;> rfl
  · rw [lowerAt, lowerAt, if_neg sigma, if_neg sigma]

/-- But for its sigmas a text has the same small form wherever it stands. -/
theorem map_mergeSigma_lower (text : Text) :
    text.lower.map mergeSigma = text.flatMap fun c => (lowerAt false c []).map mergeSigma := by
  have onto (afterCased : Bool) : (lowerOnto [] afterCased text).map mergeSigma =
      text.flatMap fun c => (lowerAt false c []).map mergeSigma := by
    induction text generalizing afterCased with
    | nil => rfl
    | cons c rest ih => rw [lowerOnto_cons, List.map_append, ih, map_mergeSigma_lowerAt, List.flatMap_cons]
  exact onto false

/-- What stands in a small form, and holds no sigma, stands in that of every text around it. -/
theorem infix_lower_of_infix {needle text whole : Text} (plain : 'σ' ∉ needle ∧ 'ς' ∉ needle)
    (part : text <:+: whole) (inside : needle <:+: text.lower) : needle <:+: whole.lower := by
  obtain ⟨before, after, rfl⟩ := part
  have merged : text.lower.map mergeSigma <:+: (lower (before ++ text ++ after)).map mergeSigma := by
    simp only [map_mergeSigma_lower, List.flatMap_append]
    exact List.infix_append _ _ _
  have mapped := inside.map mergeSigma
  rw [map_mergeSigma_of_plain plain.2] at mapped
  obtain ⟨found, there, same⟩ := List.infix_map_iff.mp (mapped.trans merged)
  have kept : 'ς' ∉ found := by
    intro member
    have merged : mergeSigma 'ς' ∈ needle := same ▸ List.mem_map_of_mem member
    exact plain.1 merged
  rw [map_mergeSigma_of_plain kept] at same
  rwa [same]

theorem toLower_eq_or_ascii (c : Char) : c.toLower = c ∨ c.toNat < 0x80 := by
  rcases toLower_cases (c := c) with ⟨-, same⟩ | mapped
  · exact .inl same
  · obtain ⟨⟨-, last, -⟩, -⟩ := CaseRange.image?_eq_some.mp mapped
    exact .inr (Nat.lt_of_le_of_lt last (by decide))

theorem ascii_toLower {c : Char} (ascii : c.toNat < 0x80) :
    isCaseIgnorable c.toLower = isCaseIgnorable c ∧ isCased c.toLower = isCased c ∧
      lowerChar c.toLower = lowerChar c ∧ c.toLower ≠ 'Σ' ∧ c ≠ 'Σ' :=
  forall_ascii c ascii (by decide)

theorem toLower_alike (c : Char) : isCaseIgnorable c.toLower = isCaseIgnorable c ∧
    isCased c.toLower = isCased c ∧
      ∀ afterCased rest, lowerAt afterCased c.toLower rest = lowerAt afterCased c rest := by
  rcases toLower_eq_or_ascii c with same | ascii
  · rw [same]
    exact ⟨rfl, rfl, fun _ _ => rfl⟩
  · obtain ⟨ignorable, cased, small, other, original⟩ := ascii_toLower ascii
    refine ⟨ignorable, cased, fun afterCased rest => ?_⟩
    rw [lowerAt, lowerAt, if_neg other, if_neg original, small]

theorem casedAhead_map_toLower (text : Text) : casedAhead (text.map Char.toLower) = casedAhead text := by
  induction text with
  | nil => rfl
  | cons c rest ih =>
    obtain ⟨ignorable, cased, -⟩ := toLower_alike c
    simp only [casedAhead] at ih
    rw [casedAhead, casedAhead, List.map_cons, List.find?_cons, List.find?_cons, ignorable]
    cases isCaseIgnorable c with
    | true => exact ih
    | false => exact cased

theorem lower_map_toLower (text : Text) : lower (text.map Char.toLower) = text.lower := by
  have onto (afterCased : Bool) :
      lowerOnto [] afterCased (text.map Char.toLower) = lowerOnto [] afterCased text := by
    induction text generalizing afterCased with
    | nil => rfl
    | cons c rest ih =>
      obtain ⟨ignorable, cased, small⟩ := toLower_alike c
      have form (rest : Text) : lowerAt afterCased c (rest.map Char.toLower) = lowerAt afterCased c rest := by
        rw [lowerAt, lowerAt, casedAhead_map_toLower]
      rw [List.map_cons, lowerOnto_cons, lowerOnto_cons, ih, casedBehind, casedBehind, ignorable, cased, small, form]
  exact onto false

end Text

/-- The roles in the order of their rules, that of a component for which no rule speaks at the end. -/
def roleOrder : List Text :=
  roleRules.map (·.role) ++ [defaultRole]

/-- Whether a rule speaks for a component of the name `name` in a file with the text `text`. -/
def RoleRule.speaksFor (rule : RoleRule) (name text : Text) : Bool :=
  rule.fitsText text.lower || rule.fitsName name.lower

theorem roleOrder_nodup : roleOrder.Nodup := by
  decide

theorem textParts_plain : ∀ rule ∈ roleRules, ∀ part ∈ rule.textParts, 'σ' ∉ part ∧ 'ς' ∉ part := by
  decide

theorem find?_judgedRules (name text : Text) :
    ((judgedRules text.lower).find? fun (rule, inText) => inText || rule.fitsName name.lower) =
      (roleRules.find? (·.speaksFor name text)).map fun rule => (rule, rule.fitsText text.lower) :=
  List.find?_map ..

theorem roleOf_eq (name text : Text) :
    roleOf name text = ((roleRules.find? (·.speaksFor name text)).map (·.role)).getD defaultRole := by
  rw [roleOf, roleBy, find?_judgedRules]
  cases roleRules.find? (·.speaksFor name text) <;> rfl

theorem idxOf_role {rules : List RoleRule} {other : Text} (apart : (rules.map (·.role) ++ [other]).Nodup)
    (speaks : RoleRule → Bool) :
    (rules.map (·.role) ++ [other]).idxOf (((rules.find? speaks).map (·.role)).getD other) =
      rules.findIdx speaks := by
  induction rules with
  | nil => simp
  | cons rule rules ih =>
    rw [List.map_cons, List.cons_append] at apart ⊢
    obtain ⟨new, apart⟩ := List.nodup_cons.mp apart
    rw [List.find?_cons, List.findIdx_cons]
    cases speaks rule with
    | true => simp
    | false =>
      have later : ((rules.find? speaks).map (·.role)).getD other ∈ rules.map (·.role) ++ [other] := by
        cases found : rules.find? speaks with
        | none => simp
        | some first => simpa using .inl ⟨first, List.mem_of_find?_eq_some found, rfl⟩
      rw [List.idxOf_cons_ne, ih apart]
      · rfl
      · rintro same
        exact new (same ▸ later)

theorem idxOf_roleOf (name text : Text) :
    roleOrder.idxOf (roleOf name text) = roleRules.findIdx (·.speaksFor name text) := by
  rw [roleOf_eq]
  exact idxOf_role roleOrder_nodup _

/-- A rule that speaks for a component does so whatever is put around the text. -/
theorem speaksFor_of_infix {rule : RoleRule} (member : rule ∈ roleRules) {name text whole : Text}
    (part : text <:+: whole) (speaks : rule.speaksFor name text = true) : rule.speaksFor name whole = true := by
  rw [RoleRule.speaksFor, Bool.or_eq_true] at speaks ⊢
  refine speaks.imp_left fun fits => ?_
  rw [RoleRule.fitsText, Text.anyOccursIn, List.any_eq_true] at fits ⊢
  obtain ⟨needle, among, inside⟩ := fits
  refine ⟨needle, among, ?_⟩
  rw [Text.occursIn_iff] at inside ⊢
  exact Text.infix_lower_of_infix (textParts_plain rule member needle among) part inside

theorem roleOf_mem (name text : Text) : roleOf name text ∈ roleOrder := by
  rw [← List.idxOf_lt_length_iff, idxOf_roleOf]
  have bound : roleRules.findIdx (·.speaksFor name text) ≤ roleRules.length := List.findIdx_le_length
  rw [roleOrder, List.length_append, List.length_map]
  exact Nat.lt_succ_of_le bound

/-- Text around that of a component puts its role no later in the order of roles, and letters of ASCII tell the role
in small letters as in capitals. -/
theorem roleOf_order (name text : Text) :
    roleOf name text ∈ roleOrder ∧
    (∀ before after, roleOrder.idxOf (roleOf name (before ++ text ++ after)) ≤ roleOrder.idxOf (roleOf name text)) ∧
    ∀ otherName otherText, otherName.map Char.toLower = name.map Char.toLower →
      otherText.map Char.toLower = text.map Char.toLower → roleOf otherName otherText = roleOf name text := by
  refine ⟨roleOf_mem name text, ?_, ?_⟩
  · intro before after
    rw [idxOf_roleOf, idxOf_roleOf]
    exact List.findIdx_le_findIdx fun rule member => speaksFor_of_infix member (List.infix_append before text after)
  · intro otherName otherText sameName sameText
    have small {one other : Text} (same : other.map Char.toLower = one.map Char.toLower) :
        other.lower = one.lower := by
      rw [← Text.lower_map_toLower, same, Text.lower_map_toLower]
    rw [roleOf, roleOf, small sameName, small sameText]

/-- A sigma at the end of a text gets another small form from a letter that is put behind it, and the handler in front
of it still tells a button, unless there is word of a modal. -/
theorem roleOf_order_final_sigma :
    "pANEL".toList.map Char.toLower = "Panel".toList.map Char.toLower ∧
      "oNcLiCkΑΣ".toList.map Char.toLower = "ONCLICKΑΣ".toList.map Char.toLower ∧
      roleOf "pANEL" "oNcLiCkΑΣ" = roleOf "Panel" "ONCLICKΑΣ" ∧ roleOf "Panel" "ONCLICKΑΣ" = "button" ∧
      roleOrder.idxOf (roleOf "Panel" ("İ" ++ "ONCLICKΑΣ" ++ "Α")) ≤ roleOrder.idxOf (roleOf "Panel" "ONCLICKΑΣ") ∧
      roleOf "Panel" ("İ" ++ "ONCLICKΑΣ" ++ "Α modal") = "modal" := by
  have name : "pANEL".toList.map Char.toLower = "Panel".toList.map Char.toLower := by decide
  have text : "oNcLiCkΑΣ".toList.map Char.toLower = "ONCLICKΑΣ".toList.map Char.toLower := by decide
  obtain ⟨-, order, letters⟩ := roleOf_order "Panel" "ONCLICKΑΣ"
  exact ⟨name, text, letters _ _ name text, by decide +kernel, order "İ" "Α", by decide +kernel⟩

end ProjectSurvey
