import Mathlib.Algebra.Group.Nat.Defs
import ProjectSurvey.Proofs.LoweredText

/-! A lowered text is made of small letters, and those stay as they are: to lower a text again changes
nothing. -/

namespace ProjectSurvey.Text

def asciiRange : CaseRange := ⟨0x41, 0x5A, 1, 32⟩

/-- Every character with another small form. The dotted capital I, whose small form is two characters,
has a range of its own. -/
def capitalRanges : List CaseRange := ⟨0x130, 0x130, 1, 0⟩ :: asciiRange :: loweringRanges

def IsSmall (c : Char) : Prop :=
  ∀ range ∈ capitalRanges, range.image? c.toNat = none

instance (c : Char) : Decidable (IsSmall c) :=
  decidable_of_iff (capitalRanges.all fun range => (range.image? c.toNat).isNone)
    (by simp only [List.all_eq_true, Option.isNone_iff_eq_none, IsSmall])

/-- What holds of the characters of ASCII, looked at one by one. -/
@[elab_as_elim]
theorem forall_ascii {p : Char → Prop} (c : Char) (ascii : c.toNat < 0x80) (all : ∀ n < 0x80, p (Char.ofNat n)) :
    p c := by
  have here := all c.toNat ascii
  rwa [Char.ofNat_toNat] at here

namespace CaseRange

def lowest (range : CaseRange) : Nat :=
  (range.first + range.shift).toNat

/-- The number whose binary digits mark the code points of a range, from its first one on. -/
def bits (range : CaseRange) : Nat :=
  let count := (range.last - range.first) / range.step + 1
  if range.step = 2 then (4 ^ count - 1) / 3 else 2 ^ count - 1

theorem image?_eq_some {range : CaseRange} {n image : Nat} : range.image? n = some image ↔
    (range.first ≤ n ∧ n ≤ range.last ∧ (n - range.first) % range.step = 0) ∧
      (n + range.shift).toNat = image := by
  simp only [image?, Option.ite_none_right_eq_some, Bool.and_eq_true, decide_eq_true_eq, beq_iff_eq,
    Option.some.injEq, and_assoc]

theorem image?_eq_none {range : CaseRange} {n : Nat} : range.image? n = none ↔
    ¬ (range.first ≤ n ∧ n ≤ range.last ∧ (n - range.first) % range.step = 0) := by
  simp only [image?, Bool.and_eq_true, decide_eq_true_eq, beq_iff_eq, ite_eq_right_iff, reduceCtorEq, imp_false,
    and_assoc]

end CaseRange

/-- Every second binary digit of a third of `4 ^ count - 1` is one. -/
theorem testBit_third {count place : Nat} (inside : place < count) :
    ((4 ^ count - 1) / 3).testBit (2 * place) = true := by
  have further (count : Nat) : (4 ^ (count + 1) - 1) / 3 = 4 * ((4 ^ count - 1) / 3) + 1 := by
    have third : ∃ part, 4 ^ count = 3 * part + 1 := by
      induction count with
      | zero => exact ⟨0, rfl⟩
      | succ count ih =>
        obtain ⟨part, power⟩ := ih
        exact ⟨4 * part + 1, by omega⟩
    obtain ⟨part, power⟩ := third
    rw [Nat.pow_succ, power]
    omega
  induction count generalizing place with
  | zero => exact absurd inside (Nat.not_lt_zero place)
  | succ count ih =>
    rw [further]
    generalize (4 ^ count - 1) / 3 = part at ih
    cases place with
    | zero =>
      rw [Nat.mul_zero, Nat.testBit_zero, decide_eq_true_eq]
      omega
    | succ place =>
      have half : (4 * part + 1) / 2 = 2 * part := by omega
      have quarter : 2 * part / 2 = part := by omega
      rw [Nat.mul_succ, Nat.testBit_succ, Nat.testBit_succ, half, quarter]
      exact ih (Nat.lt_of_succ_lt_succ inside)

theorem CaseRange.testBit_bits {range : CaseRange} (steps : range.step = 1 ∨ range.step = 2) {n image : Nat}
    (found : range.image? n = some image) : range.bits.testBit (n - range.first) = true := by
  obtain ⟨⟨first, last, every⟩, -⟩ := image?_eq_some.mp found
  simp only [bits]
  rcases steps with single | double
  · rw [single, if_neg (by decide), Nat.testBit_two_pow_sub_one, decide_eq_true_eq]
    omega
  · rw [double] at every ⊢
    have place : n - range.first = 2 * ((n - range.first) / 2) := by omega
    rw [if_pos rfl, place]
    apply testBit_third
    omega

/-- The binary digits of ranges, each of which begins at a place of its own. -/
def marked (start : CaseRange → Nat) (ranges : List CaseRange) : Nat :=
  ranges.foldr (fun range others => range.bits <<< start range ||| others) 0

theorem testBit_marked (start : CaseRange → Nat) {ranges : List CaseRange} {range : CaseRange}
    (member : range ∈ ranges) {place : Nat} (stands : range.bits.testBit place = true) :
    (marked start ranges).testBit (start range + place) = true := by
  induction ranges with
  | nil => cases member
  | cons first ranges ih =>
    rw [marked, List.foldr_cons, ← marked, Nat.testBit_or, Bool.or_eq_true]
    rcases List.mem_cons.mp member with rfl | later
    · left
      rw [Nat.testBit_shiftLeft, Nat.add_sub_cancel_left, stands, Bool.and_true, decide_eq_true_eq]
      exact Nat.le_add_right _ _
    · exact .inr (ih later)

/-- The images of ranges and the capitals have no binary digit in common. -/
theorem marked_apart :
    marked CaseRange.lowest (asciiRange :: loweringRanges) &&& marked CaseRange.first capitalRanges = 0 := by
  decide +kernel

/-- What the table of the ranges has to be like: each range covers every code point or every second one,
ASCII is left out, and the images are characters. -/
theorem loweringRanges_fit : ∀ range ∈ loweringRanges,
    (range.step = 1 ∨ range.step = 2) ∧ 0x80 ≤ range.first ∧ 0 ≤ range.first + range.shift ∧
      (range.last + range.shift < 0xD800 ∨
        0xDFFF < range.first + range.shift ∧ range.last + range.shift < 0x110000) := by
  decide +kernel

theorem capitalRanges_fit {range : CaseRange} (capital : range ∈ capitalRanges) :
    (range.step = 1 ∨ range.step = 2) ∧ 0 ≤ range.first + range.shift := by
  rcases List.mem_cons.mp capital with rfl | capital
  · exact ⟨.inl rfl, Int.natCast_nonneg _⟩
  rcases List.mem_cons.mp capital with rfl | member
  · exact ⟨.inl rfl, Int.natCast_nonneg _⟩
  · have fits := loweringRanges_fit range member
    exact ⟨fits.1, fits.2.2.1⟩

theorem image?_image {range other : CaseRange} (member : range ∈ asciiRange :: loweringRanges)
    (capital : other ∈ capitalRanges) {n image : Nat} (found : range.image? n = some image) :
    other.image? image = none := by
  cases again : other.image? image with
  | none => rfl
  | some further =>
    obtain ⟨steps, above⟩ := capitalRanges_fit (List.mem_cons_of_mem _ member)
    have reached := testBit_marked CaseRange.lowest member (CaseRange.testBit_bits steps found)
    have covered := testBit_marked CaseRange.first capital
      (CaseRange.testBit_bits (capitalRanges_fit capital).1 again)
    obtain ⟨⟨first, -, -⟩, same⟩ := CaseRange.image?_eq_some.mp found
    obtain ⟨⟨otherFirst, -, -⟩, -⟩ := CaseRange.image?_eq_some.mp again
    have place : range.lowest + (n - range.first) = image := by
      rw [← same, CaseRange.lowest]
      omega
    have otherPlace : other.first + (image - other.first) = image := by omega
    have both := congrArg (·.testBit image) marked_apart
    rw [Nat.testBit_and, ← place, reached, place, ← otherPlace, covered, Nat.zero_testBit] at both
    cases both

theorem toNat_ofNat_image {range : CaseRange} (member : range ∈ loweringRanges) {n image : Nat}
    (found : range.image? n = some image) : (Char.ofNat image).toNat = image := by
  have fits := loweringRanges_fit range member
  obtain ⟨⟨first, last, -⟩, rfl⟩ := CaseRange.image?_eq_some.mp found
  have character : (n + range.shift).toNat.isValidChar := by
    simp only [Nat.isValidChar]
    omega
  rw [Char.ofNat, dif_pos character]
  rfl

theorem toLower_cases {c : Char} : (asciiRange.image? c.toNat = none ∧ c.toLower = c) ∨
    asciiRange.image? c.toNat = some c.toLower.toNat := by
  by_cases capital : 'A'.val ≤ c.val ∧ c.val ≤ 'Z'.val
  · have first : 0x41 ≤ c.toNat := capital.1
    have last : c.toNat ≤ 0x5A := capital.2
    have distance : ('a'.val - 'A'.val).toNat = 32 := by decide
    have small : c.toLower.toNat = (c.val + ('a'.val - 'A'.val)).toNat := by
      delta Char.toLower
      rw [dif_pos capital]
      rfl
    rw [UInt32.toNat_add, distance] at small
    refine .inr (CaseRange.image?_eq_some.mpr ⟨⟨first, last, Nat.mod_one _⟩, ?_⟩)
    have written : c.val.toNat = c.toNat := rfl
    simp only [asciiRange]
    omega
  · refine .inl ⟨CaseRange.image?_eq_none.mpr fun covered => capital ⟨covered.1, covered.2.1⟩, ?_⟩
    delta Char.toLower
    rw [dif_neg capital]

theorem isSmall_iff {c : Char} : IsSmall c ↔ c ≠ 'İ' ∧ asciiRange.image? c.toNat = none ∧
    ∀ range ∈ loweringRanges, range.image? c.toNat = none := by
  have dotted : (⟨0x130, 0x130, 1, 0⟩ : CaseRange).image? c.toNat = none ↔ c ≠ 'İ' := by
    have point : ('İ').toNat = 0x130 := rfl
    rw [CaseRange.image?_eq_none, ne_eq, ← Char.toNat_inj, point]
    dsimp only
    omega
  simp only [IsSmall, capitalRanges, List.forall_mem_cons, dotted]

/-- A character is small or lies in a range that tells its small form, the dotted capital apart. -/
theorem lowerChar_cases (c : Char) : c = 'İ' ∨ (IsSmall c ∧ lowerChar c = [c]) ∨
    ∃ range ∈ asciiRange :: loweringRanges, ∃ small, range.image? c.toNat = some small.toNat ∧
      lowerChar c = [small] := by
  by_cases dotted : c = 'İ'
  · exact .inl dotted
  right
  rw [isSmall_iff]
  by_cases ascii : c.toNat < 0x80
  · rw [lowerChar, if_pos ascii]
    rcases toLower_cases (c := c) with ⟨unmapped, same⟩ | mapped
    · refine .inl ⟨⟨dotted, unmapped, fun range member => ?_⟩, by rw [same]⟩
      have above := (loweringRanges_fit range member).2.1
      exact CaseRange.image?_eq_none.mpr (by omega)
    · exact .inr ⟨asciiRange, List.mem_cons_self, c.toLower, mapped, rfl⟩
  · rw [lowerChar, if_neg ascii, if_neg dotted]
    cases found : loweringRanges.findSome? (·.image? c.toNat) with
    | some image =>
      obtain ⟨range, member, mapped⟩ := List.exists_of_findSome?_eq_some found
      refine .inr ⟨range, List.mem_cons_of_mem _ member, Char.ofNat image, ?_, rfl⟩
      rw [toNat_ofNat_image member mapped, mapped]
    | none =>
      have last : asciiRange.last < c.toNat := by
        simp only [asciiRange]
        omega
      exact .inl ⟨⟨dotted, CaseRange.image?_eq_none.mpr (by omega), List.findSome?_eq_none_iff.mp found⟩, rfl⟩

/-- The letters whose small forms are no matter of the table: the dotted capital I and the sigmas. -/
theorem special_letters : lowerChar 'İ' = ['i', Char.ofNat 0x307] ∧ IsSmall 'i' ∧ IsSmall (Char.ofNat 0x307) ∧
    ¬ IsSmall 'İ' ∧ IsSmall 'ς' ∧ IsSmall 'σ' ∧ ¬ IsSmall 'Σ' := by
  decide

theorem isSmall_of_mem_lowerChar {c small : Char} (member : small ∈ lowerChar c) : IsSmall small := by
  rcases lowerChar_cases c with rfl | ⟨own, same⟩ | ⟨range, inside, image, mapped, same⟩
  · obtain ⟨parts, letter, dot, -⟩ := special_letters
    rw [parts] at member
    exact List.forall_mem_cons.mpr ⟨letter, List.forall_mem_singleton.mpr dot⟩ small member
  · rw [same, List.mem_singleton] at member
    rwa [member]
  · rw [same, List.mem_singleton] at member
    subst member
    intro other capital
    exact image?_image inside capital mapped

theorem lowerChar_of_isSmall {c : Char} (small : IsSmall c) : lowerChar c = [c] := by
  rcases lowerChar_cases c with rfl | ⟨-, same⟩ | ⟨range, inside, image, mapped, -⟩
  · exact absurd small special_letters.2.2.2.1
  · exact same
  · have unmapped := small range (List.mem_cons_of_mem _ inside)
    cases mapped.symm.trans unmapped

theorem isSmall_of_mem_lower {text : Text} {c : Char} (member : c ∈ text.lower) : IsSmall c := by
  have onto (afterCased : Bool) : ∀ c ∈ lowerOnto [] afterCased text, IsSmall c := by
    clear member
    induction text generalizing afterCased with
    | nil => exact List.forall_mem_nil _
    | cons first rest ih =>
      rw [lowerOnto_cons]
      refine List.forall_mem_append.mpr ⟨?_, ih _⟩
      intro c member
      rw [lowerAt] at member
      split at member
      · obtain ⟨-, -, -, -, final, inner, -⟩ := special_letters
        split at member
        · rw [List.mem_singleton.mp member]
          exact final
        · rw [List.mem_singleton.mp member]
          exact inner
      · exact isSmall_of_mem_lowerChar member
  exact onto false c member

theorem lower_of_isSmall {text : Text} (small : ∀ c ∈ text, IsSmall c) : text.lower = text := by
  have onto (afterCased : Bool) : lowerOnto [] afterCased text = text := by
    induction text generalizing afterCased with
    | nil => rfl
    | cons c rest ih =>
      obtain ⟨first, others⟩ := List.forall_mem_cons.mp small
      have other : c ≠ 'Σ' := by
        rintro rfl
        exact special_letters.2.2.2.2.2.2 first
      rw [lowerOnto_cons, lowerAt, if_neg other, lowerChar_of_isSmall first, ih others]
      rfl
  exact onto false

theorem lower_lower (text : Text) : text.lower.lower = text.lower :=
  lower_of_isSmall fun _ => isSmall_of_mem_lower

end ProjectSurvey.Text
