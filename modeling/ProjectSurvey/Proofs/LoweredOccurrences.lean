import ProjectSurvey.Proofs.LoweredText

/-! Occurrences of a text in another, and of its small form in the small form of the other. Only a sigma at
the end of a text, or at its start, takes its form from what stands around the text. -/

namespace ProjectSurvey.Text

theorem casedAfter_of_ignorable {text : Text} (passed : text.all isCaseIgnorable = true) (afterCased : Bool) :
    casedAfter afterCased text = afterCased := by
  induction text generalizing afterCased with
  | nil => rfl
  | cons c text ih =>
    rw [List.all_cons, Bool.and_eq_true] at passed
    rw [casedAfter, List.foldl_cons, casedBehind, if_pos passed.1]
    exact ih passed.2 afterCased

theorem casedAfter_of_not_ignorable {text : Text} (stops : text.all isCaseIgnorable ≠ true)
    (afterCased other : Bool) : casedAfter afterCased text = casedAfter other text := by
  induction text generalizing afterCased other with
  | nil => exact absurd rfl stops
  | cons c text ih =>
    by_cases passed : isCaseIgnorable c = true
    · rw [List.all_cons, passed, Bool.true_and] at stops
      exact ih stops _ _
    · simp only [casedAfter, List.foldl_cons, casedBehind, passed]
      rfl

/-- Without a sigma each character has a small form of its own. -/
theorem lowerBefore_of_no_sigma {text : Text} (none : 'Σ' ∉ text) (after : Text) (afterCased : Bool) :
    lowerBefore after afterCased text = text.flatMap lowerChar := by
  induction text generalizing afterCased with
  | nil => rfl
  | cons c text ih =>
    obtain ⟨other, none⟩ := not_or.mp (mt List.mem_cons.mpr none)
    rw [lowerBefore, ih none, lowerAt, if_neg (Ne.symm other), List.flatMap_cons]

theorem sigma_counts : isCaseIgnorable 'Σ' = false := by
  decide +kernel

theorem sigma_isCased : isCased 'Σ' = true := by
  decide

theorem no_sigma_of_ignorable {text : Text} (passed : text.all isCaseIgnorable = true) : 'Σ' ∉ text := by
  intro member
  cases sigma_counts.symm.trans (List.all_eq_true.mp passed 'Σ' member)

/-- Whether each sigma of a text has its form from the text itself: there is a letter after it before which
nothing else counts, or what stands before it settles the matter. -/
def IsSteady (text : Text) : Prop :=
  ∀ first rest, text = first ++ 'Σ' :: rest →
    (first.all isCaseIgnorable = true → casedAhead rest = true) ∧
      (rest.all isCaseIgnorable = true → casedAfter false first = false)

/-- A text that counts at both ends, and is no sigma there, is steady. -/
theorem isSteady_of_ends {a b : Char} (noSigma : a ≠ 'Σ' ∧ b ≠ 'Σ') (first : isCaseIgnorable a = false)
    (last : isCaseIgnorable b = false) (middle : Text) : IsSteady (a :: middle ++ [b]) := by
  intro before after whole
  constructor
  · intro passed
    cases before with
    | nil => exact absurd (List.cons.inj whole).1 noSigma.1
    | cons c before =>
      rw [← (List.cons.inj whole).1, List.all_cons, first] at passed
      cases passed
  · intro passed
    obtain rfl | ⟨after, c, rfl⟩ := List.eq_nil_or_concat after
    · exact absurd (List.append_inj' whole rfl).2 (by simp [noSigma.2])
    · rw [List.concat_eq_append, ← List.cons_append, ← List.append_assoc] at whole
      rw [List.concat_eq_append, List.all_append, ← (List.append_inj' whole rfl).2] at passed
      simp [last] at passed

theorem sigma_mem_of_not_isSteady {text : Text} (unsteady : ¬ text.IsSteady) : 'Σ' ∈ text := by
  by_contra none
  apply unsteady
  rintro first rest rfl
  exact absurd (List.mem_append_right first List.mem_cons_self) none

theorem lowerBefore_of_isSteady {text : Text} (steady : text.IsSteady) (after : Text) (afterCased : Bool) :
    lowerBefore after afterCased text = text.lower := by
  have onward (first rest : Text) (whole : text = first ++ rest) :
      lowerBefore after (casedAfter afterCased first) rest = lowerOnto [] (casedAfter false first) rest := by
    induction rest generalizing first with
    | nil => rfl
    | cons c rest ih =>
      have later := ih (first ++ [c]) (by rw [whole, List.append_assoc, List.singleton_append])
      simp only [casedAfter, List.foldl_append, List.foldl_cons, List.foldl_nil] at later
      rw [lowerBefore, lowerOnto_cons]
      simp only [casedAfter, later]
      congr 1
      by_cases sigma : c = 'Σ'
      · subst sigma
        obtain ⟨atStart, atEnd⟩ := steady first rest whole
        simp only [casedAfter] at atEnd
        have form : (first.foldl casedBehind afterCased && !casedAhead (rest ++ after)) =
            (first.foldl casedBehind false && !casedAhead rest) := by
          by_cases passed : first.all isCaseIgnorable = true
          · have ahead := atStart passed
            have stops : rest.all isCaseIgnorable ≠ true := by
              intro passed
              have nothing := casedAhead_append_of_ignorable passed []
              rw [List.append_nil, ahead] at nothing
              cases nothing
            rw [casedAhead_append_of_not_ignorable stops, ahead, Bool.not_true, Bool.and_false, Bool.and_false]
          · rw [← casedAfter, ← casedAfter, casedAfter_of_not_ignorable passed afterCased false]
            by_cases passed : rest.all isCaseIgnorable = true
            · rw [casedAfter, atEnd passed, Bool.false_and, Bool.false_and]
            · rw [casedAhead_append_of_not_ignorable passed]
        rw [lowerAt, lowerAt, if_pos rfl, if_pos rfl, form]
      · rw [lowerAt, lowerAt, if_neg sigma, if_neg sigma]
  exact onward [] text rfl

/-- A steady text that stands in another stands in its small form in the other's. -/
theorem lower_infix_of_isSteady {needle text : Text} (steady : needle.IsSteady) (inside : needle <:+: text) :
    needle.lower <:+: text.lower := by
  obtain ⟨before, after, rfl⟩ := inside
  refine ⟨lowerBefore (needle ++ after) false before,
    lowerOnto [] (casedAfter (casedAfter false before) needle) after, ?_⟩
  rw [List.append_assoc, List.append_assoc, lower.eq_def (before ++ _), lowerOnto_append, lowerOnto_append,
    lowerBefore_of_isSteady steady]

/-- Whether a text stands in another where no letter comes next to it on either side. -/
def StandsApart (needle text : Text) : Prop :=
  ∃ before after, text = before ++ needle ++ after ∧ casedAfter false before = false ∧ casedAhead after = false

theorem lower_infix_of_standsApart {needle text : Text} (apart : StandsApart needle text) :
    needle.lower <:+: text.lower := by
  obtain ⟨before, after, rfl, atStart, atEnd⟩ := apart
  refine ⟨lowerBefore (needle ++ after) false before, lowerOnto [] (casedAfter false needle) after, ?_⟩
  have ahead : casedAhead after = casedAhead [] := atEnd
  have form : lowerBefore after false needle = needle.lower := by
    rw [lowerBefore_congr ahead, lowerBefore_nil, lower]
  rw [List.append_assoc, List.append_assoc, lower.eq_def (before ++ _), lowerOnto_append, lowerOnto_append,
    atStart, form]

/-- The small form of a text with a sigma in it, piece by piece. -/
theorem lowerOnto_sigma (afterCased : Bool) (first rest : Text) :
    lowerOnto [] afterCased (first ++ 'Σ' :: rest) =
      lowerBefore ['Σ'] afterCased first ++
        (lowerAt (casedAfter afterCased first) 'Σ' rest ++ lowerOnto [] true rest) := by
  have letter : casedBehind (casedAfter afterCased first) 'Σ' = true := by
    rw [casedBehind, sigma_counts, sigma_isCased]
    rfl
  have same : casedAhead ('Σ' :: rest) = casedAhead ['Σ'] := by
    simp only [casedAhead, List.find?_cons, sigma_counts, Bool.not_false]
  rw [lowerOnto_append, lowerOnto_cons, letter, lowerBefore_congr same]

/-- A text that is not steady stands in a text of one letter more, but not in its small form in the other's. -/
theorem exists_lower_not_infix {needle : Text} (unsteady : ¬ needle.IsSteady) :
    ∃ text, (text = 'a' :: needle ∨ text = needle ++ ['a']) ∧ ¬ needle.lower <:+: lower text := by
  simp only [IsSteady, not_forall, not_and_or, Bool.not_eq_true, Bool.not_eq_false] at unsteady
  obtain ⟨first, rest, rfl, ⟨passed, ahead⟩ | ⟨passed, behind⟩⟩ := unsteady
  · refine ⟨_, .inl rfl, fun inside => ?_⟩
    have alone : lower (first ++ 'Σ' :: rest) =
        first.flatMap lowerChar ++ ('σ' :: lowerOnto [] true rest) := by
      rw [lower, lowerOnto_sigma, lowerBefore_of_no_sigma (no_sigma_of_ignorable passed),
        casedAfter_of_ignorable passed]
      rfl
    have between : lower ('a' :: (first ++ 'Σ' :: rest)) =
        'a' :: (first.flatMap lowerChar ++ ('ς' :: lowerOnto [] true rest)) := by
      have letter : casedBehind false 'a' = true := by decide
      rw [lower, lowerOnto_cons, letter, lowerOnto_sigma,
        lowerBefore_of_no_sigma (no_sigma_of_ignorable passed), casedAfter_of_ignorable passed, lowerAt, lowerAt,
        if_pos rfl, ahead]
      rfl
    have fewer := inside.sublist.count_le 'σ'
    rw [alone, between, List.count_append, List.count_cons_self, List.count_cons_of_ne (by decide),
      List.count_append, List.count_cons_of_ne (by decide)] at fewer
    omega
  · refine ⟨_, .inr rfl, fun inside => ?_⟩
    have nothing := casedAhead_append_of_ignorable passed []
    have alone : lower (first ++ 'Σ' :: rest) =
        lowerBefore ['Σ'] false first ++ ('ς' :: rest.flatMap lowerChar) := by
      rw [List.append_nil] at nothing
      rw [lower, lowerOnto_sigma, behind, lowerAt, if_pos rfl, nothing, ← lowerBefore_nil,
        lowerBefore_of_no_sigma (no_sigma_of_ignorable passed)]
      rfl
    have between : lower (first ++ 'Σ' :: rest ++ ['a']) =
        lowerBefore ['Σ'] false first ++ ('σ' :: (rest.flatMap lowerChar ++ ['a'])) := by
      rw [List.append_assoc, List.cons_append, lower, lowerOnto_sigma, lowerAt, if_pos rfl,
        casedAhead_append_of_ignorable passed, lowerOnto_append,
        lowerBefore_of_no_sigma (no_sigma_of_ignorable passed), casedAfter_of_ignorable passed]
      have letter : casedAhead ['a'] = true := by decide
      have small : lowerOnto [] true ['a'] = ['a'] := by decide
      rw [letter, small, Bool.not_true, Bool.and_false]
      rfl
    have fewer := inside.sublist.count_le 'ς'
    rw [alone, between, List.count_append, List.count_cons_self, List.count_append,
      List.count_cons_of_ne (by decide), List.count_append, List.count_cons_of_ne (by decide), List.count_nil] at fewer
    omega

end ProjectSurvey.Text
