import Mathlib.Order.Defs.LinearOrder
import Mathlib.Data.Nat.Basic
import ProjectSurvey.Text.Order

/-! The order of texts is the lexicographic one on their code points, so it is linear. -/

namespace ProjectSurvey.Text

/-- A character that stands for a lone surrogate lies at a fixed distance above it. -/
theorem surrogate_scalar {c : Char} {n : Nat} (stands : surrogate? c = some n) :
    c.toNat = n + standInDistance ∧ isSurrogate n = true := by
  simp only [surrogate?, Option.ite_none_right_eq_some, Option.some.injEq, Bool.and_eq_true,
    decide_eq_true_eq] at stands
  obtain ⟨⟨above, half⟩, rfl⟩ := stands
  exact ⟨by omega, half⟩

theorem scalar_not_surrogate (c : Char) : isSurrogate c.toNat = false := by
  have valid := c.valid
  simp only [UInt32.isValidChar, Nat.isValidChar] at valid
  have same : c.val.toNat = c.toNat := rfl
  simp only [isSurrogate, isHighSurrogate, isLowSurrogate, Bool.or_eq_false_iff,
    Bool.and_eq_false_iff, decide_eq_false_iff_not]
  omega

/-- No two characters share a code point: stand-ins have the surrogates, which no other
character has. -/
theorem codePoint_injective {a b : Char} (same : codePoint a = codePoint b) : a = b := by
  apply Char.toNat_inj.mp
  simp only [codePoint] at same
  cases first : surrogate? a with
  | none =>
    cases second : surrogate? b with
    | none => simpa only [first, second, Option.getD_none] using same
    | some n =>
      simp only [first, second, Option.getD_none, Option.getD_some] at same
      have impossible := (surrogate_scalar second).2
      rw [← same, scalar_not_surrogate] at impossible
      cases impossible
  | some m =>
    have left := surrogate_scalar first
    cases second : surrogate? b with
    | none =>
      simp only [first, second, Option.getD_none, Option.getD_some] at same
      have impossible := left.2
      rw [same, scalar_not_surrogate] at impossible
      cases impossible
    | some n =>
      simp only [first, second, Option.getD_some] at same
      rw [left.1, (surrogate_scalar second).1, same]

/-- A text stands strictly before another: at the first difference its code point is smaller, or it
ends there. -/
def Before (a b : Text) : Prop :=
  a.map codePoint < b.map codePoint

theorem Before.irrefl (a : Text) : ¬ Before a a :=
  List.lt_irrefl _

theorem Before.trans {a b c : Text} (first : Before a b) (second : Before b c) : Before a c :=
  List.lt_trans first second

theorem inOrder_iff (a b : Text) : inOrder a b = true ↔ Before a b ∨ a = b := by
  induction a generalizing b with
  | nil => cases b <;> simp [inOrder, Before]
  | cons c rest ih =>
    cases b with
    | nil => simp [inOrder, Before]
    | cons d others =>
      simp only [inOrder, Bool.or_eq_true, Bool.and_eq_true, decide_eq_true_eq, beq_iff_eq, ih,
        Before, List.map_cons, List.cons_lt_cons_iff, List.cons.injEq]
      constructor
      · rintro (smaller | ⟨same, later | equal⟩)
        · exact .inl (.inl smaller)
        · exact .inl (.inr ⟨same, later⟩)
        · exact .inr ⟨codePoint_injective same, equal⟩
      · rintro ((smaller | ⟨same, later⟩) | ⟨rfl, rfl⟩)
        · exact .inl smaller
        · exact .inr ⟨same, .inl later⟩
        · exact .inr ⟨rfl, .inr rfl⟩

theorem inOrder_total (a b : Text) : (inOrder a b || inOrder b a) = true := by
  simp only [Bool.or_eq_true, inOrder_iff]
  by_cases less : Before a b
  · exact .inl (.inl less)
  · by_cases greater : Before b a
    · exact .inr (.inl greater)
    · refine .inl (.inr ?_)
      have equal : a.map codePoint = b.map codePoint :=
        List.le_antisymm (List.not_lt.mp greater) (List.not_lt.mp less)
      exact List.map_inj_right (fun _ _ => codePoint_injective) |>.mp equal

theorem inOrder_trans (a b c : Text) (first : inOrder a b = true) (second : inOrder b c = true) :
    inOrder a c = true := by
  rw [inOrder_iff] at *
  rcases first with first | rfl
  · rcases second with second | rfl
    · exact .inl (first.trans second)
    · exact .inl first
  · exact second

end ProjectSurvey.Text
