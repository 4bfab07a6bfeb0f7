import Mathlib.Data.List.TakeWhile
import ProjectSurvey.Number.Reading
import ProjectSurvey.Proofs.JsonNumbers
import ProjectSurvey.Proofs.TextPieces

/-! Whole numbers as people write them: which texts are read as one, and as which. -/

namespace ProjectSurvey

/-- Whether a sign, or that there is none, tells whether a number is negative. -/
def IsSign (sign : Text) (negative : Bool) : Prop :=
  sign = ['-'] ∧ negative = true ∨ (sign = [] ∨ sign = ['+']) ∧ negative = false

/-- Whether a text is written for a whole number: in digits of any script with single underscores between
them, after a sign if there is one, and between blanks. -/
def Text.IsWrittenFor (text : Text) (value : Int) : Prop :=
  ∃ before sign groups after negative, text.map asciiForm = before ++ (sign ++ join "_" groups) ++ after ∧
    (∀ c ∈ before ++ after, isNumberSpace c = true) ∧ IsSign sign negative ∧ groups ≠ [] ∧
    (∀ group ∈ groups, group.IsDigits) ∧ groups.flatten.length ≤ wholeDigitLimit ∧
    value = if negative then -(decimalValue groups.flatten : Int) else decimalValue groups.flatten

theorem Text.exists_trim (drop : Char → Bool) (text : Text) :
    ∃ before after, text = before ++ trim drop text ++ after ∧ ∀ c ∈ before ++ after, drop c = true := by
  let rest := text.dropWhile drop
  refine ⟨text.takeWhile drop, (rest.reverse.takeWhile drop).reverse, ?_, ?_⟩
  · rw [trim, trimEnd, List.append_assoc, ← List.reverse_append, List.takeWhile_append_dropWhile,
      List.reverse_reverse, List.takeWhile_append_dropWhile]
  · intro c member
    rcases List.mem_append.mp member with first | last
    · exact List.mem_takeWhile_imp first
    · exact List.mem_takeWhile_imp (List.mem_reverse.mp last)

private theorem dropWhile_append_of_stop {drop : Char → Bool} {before rest : Text}
    (blank : ∀ c ∈ before, drop c = true) (stop : ∀ c ∈ rest.head?, drop c = false) :
    (before ++ rest).dropWhile drop = rest := by
  rw [List.dropWhile_append_of_pos blank]
  cases rest with
  | nil => rfl
  | cons c rest =>
    apply List.dropWhile_cons_of_neg
    rw [stop c rfl]
    exact Bool.false_ne_true

theorem Text.trim_append {drop : Char → Bool} {before core after : Text}
    (blank : ∀ c ∈ before ++ after, drop c = true) (some : core ≠ [])
    (first : ∀ c ∈ core.head?, drop c = false) (last : ∀ c ∈ core.getLast?, drop c = false) :
    trim drop (before ++ core ++ after) = core := by
  obtain ⟨blankBefore, blankAfter⟩ := List.forall_mem_append.mp blank
  have stop : ∀ c ∈ (core ++ after).head?, drop c = false := by
    rwa [List.head?_append_of_ne_nil _ some]
  have back : ∀ c ∈ after.reverse, drop c = true := fun c member => blankAfter c (List.mem_reverse.mp member)
  have turned : ∀ c ∈ core.reverse.head?, drop c = false := by
    rwa [List.head?_reverse]
  rw [trim, trimEnd, List.append_assoc, dropWhile_append_of_stop blankBefore stop, List.reverse_append,
    dropWhile_append_of_stop back turned, List.reverse_reverse]

private theorem decimal_bounds {c : Char} (digit : isDecimalDigit c = true) : 48 ≤ c.toNat ∧ c.toNat ≤ 57 := by
  simp only [isDecimalDigit, Bool.and_eq_true, decide_eq_true_eq] at digit
  exact digit

theorem isNumberSpace_of_isDecimalDigit {c : Char} (digit : isDecimalDigit c = true) : isNumberSpace c = false := by
  have bounds := decimal_bounds digit
  have blank : c ≠ ' ' := by
    rintro rfl
    revert bounds
    decide
  simp only [isNumberSpace, blank, decide_false, Bool.false_or, Bool.and_eq_false_iff, decide_eq_false_iff_not]
  omega

theorem isSome_digitBelow?_ten (c : Char) : (digitBelow? 10 c).isSome = isDecimalDigit c := by
  by_cases digit : isDecimalDigit c = true
  · have value : hexadecimalDigit? c = some (c.toNat - '0'.toNat) := if_pos digit
    have bounds := decimal_bounds digit
    have small : c.toNat - 48 < 10 := by omega
    simp [digitBelow?, value, small, digit]
  · have none : digitBelow? 10 c = Option.none := by
      simp only [digitBelow?, hexadecimalDigit?, if_neg digit]
      split
      · simp
      split <;> simp
    rw [none, Bool.eq_false_iff.mpr digit]
    rfl

theorem Text.filter_join {separator : Char} {groups : List Text} (apart : ∀ group ∈ groups, separator ∉ group) :
    (join [separator] groups).filter (· != separator) = groups.flatten := by
  have kept {group : Text} (apart : separator ∉ group) : group.filter (· != separator) = group := by
    rw [List.filter_eq_self]
    intro c inside
    rw [bne_iff_ne]
    rintro rfl
    exact apart inside
  induction groups with
  | nil => rfl
  | cons group groups ih =>
    obtain ⟨single, apart⟩ := List.forall_mem_cons.mp apart
    cases groups with
    | nil =>
      rw [join, List.intercalate_singleton, kept single, List.flatten_singleton]
    | cons next groups =>
      rw [join, List.intercalate_cons_cons, List.filter_append, List.filter_append, kept single]
      rw [join] at ih
      rw [ih apart, List.filter_singleton, bne_self_eq_false]
      simp

theorem digitsOf?_eq_some {text digits : Text} : digitsOf? isDecimalDigit text = some digits ↔
    ∃ groups, groups ≠ [] ∧ text = Text.join "_" groups ∧ (∀ group ∈ groups, group.IsDigits) ∧
      digits = groups.flatten := by
  have apart {groups : List Text} (all : ∀ group ∈ groups, group.IsDigits) :
      ∀ group ∈ groups, '_' ∉ group := by
    intro group member inside
    cases (all group member).2 '_' inside
  have grouped {groups : List Text} : (groups.all fun digits => !digits.isEmpty && digits.all isDecimalDigit) = true ↔
      ∀ group ∈ groups, group.IsDigits := by
    simp [List.all_eq_true, Text.IsDigits]
  simp only [digitsOf?, grouped, Option.ite_none_right_eq_some, Option.some.injEq]
  constructor
  · rintro ⟨all, rfl⟩
    have whole : text = Text.join "_" (text.pieces '_') := by
      rw [Text.pieces_eq]
      exact (List.intercalate_splitOn '_').symm
    refine ⟨text.pieces '_', ?_, whole, all, ?_⟩
    · rw [Text.pieces_eq]
      exact List.splitOn_ne_nil _ _
    · exact (congrArg _ whole).trans (Text.filter_join (apart all))
  · rintro ⟨groups, some, rfl, all, rfl⟩
    rw [show "_".toList = ['_'] from rfl, Text.pieces_join some (apart all)]
    exact ⟨all, Text.filter_join (apart all)⟩

theorem withoutBaseMark_ten (text : Text) : withoutBaseMark 10 text = text := by
  unfold withoutBaseMark
  split
  · exact if_neg (by simp [baseLetter?])
  · rfl

theorem valueIn_ten {digits : Text} (all : ∀ c ∈ digits, isDecimalDigit c = true) :
    valueIn 10 digits = decimalValue digits := by
  rw [valueIn, decimalValue]
  apply List.foldl_ext _ _ 0
  intro value c member
  have read : hexadecimalDigit? c = some (c.toNat - '0'.toNat) := if_pos (all c member)
  rw [read, Option.getD_some]

theorem exists_sign (text : Text) :
    ∃ sign, text = sign ++ (signOf text).2 ∧ IsSign sign (signOf text).1 := by
  unfold signOf
  split
  · exact ⟨['-'], rfl, .inl ⟨rfl, rfl⟩⟩
  · exact ⟨['+'], rfl, .inr ⟨.inr rfl, rfl⟩⟩
  · exact ⟨[], rfl, .inr ⟨.inl rfl, rfl⟩⟩

namespace IsSign

variable {sign : Text} {negative : Bool} (signed : IsSign sign negative)

include signed

theorem signOf_append {c : Char} {rest : Text} (digit : isDecimalDigit c = true) :
    signOf (sign ++ c :: rest) = (negative, c :: rest) := by
  obtain ⟨rfl, rfl⟩ | ⟨rfl | rfl, rfl⟩ := signed
  · rfl
  · unfold signOf
    split
    · next same =>
      cases same
      cases digit
    · next same =>
      cases same
      cases digit
    · rfl
  · rfl

theorem no_blank : ∀ c ∈ sign, isNumberSpace c = false := by
  obtain ⟨rfl, -⟩ | ⟨rfl | rfl, -⟩ := signed
  · exact List.forall_mem_singleton.mpr rfl
  · exact List.forall_mem_nil _
  · exact List.forall_mem_singleton.mpr rfl

end IsSign

section Groups

variable {groups : List Text} (digits : ∀ group ∈ groups, group.IsDigits)

include digits

theorem exists_first_digit (some : groups ≠ []) :
    ∃ c rest, Text.join "_" groups = c :: rest ∧ isDecimalDigit c = true := by
  obtain ⟨group, others, rfl⟩ := List.exists_cons_of_ne_nil some
  obtain ⟨filled, all⟩ := digits group List.mem_cons_self
  obtain ⟨c, rest, rfl⟩ := List.exists_cons_of_ne_nil filled
  cases others with
  | nil => exact ⟨c, rest, List.intercalate_singleton, all c List.mem_cons_self⟩
  | cons next others =>
    refine ⟨c, rest ++ ("_" ++ Text.join "_" (next :: others)), ?_, all c List.mem_cons_self⟩
    rw [Text.join, List.intercalate_cons_cons, List.append_assoc, List.cons_append]
    rfl

theorem isDecimalDigit_of_mem_flatten : ∀ c ∈ groups.flatten, isDecimalDigit c = true := by
  intro c member
  obtain ⟨group, among, inside⟩ := List.mem_flatten.mp member
  exact (digits group among).2 c inside

theorem no_blank_in_groups : ∀ c ∈ Text.join "_" groups, isNumberSpace c = false := by
  have apart : ∀ group ∈ groups, '_' ∉ group := by
    intro group member inside
    cases (digits group member).2 '_' inside
  intro c member
  by_cases between : c = '_'
  · subst between
    decide
  · have kept : c ∈ groups.flatten := by
      rw [← Text.filter_join apart, List.mem_filter, bne_iff_ne]
      exact ⟨member, between⟩
    exact isNumberSpace_of_isDecimalDigit (isDecimalDigit_of_mem_flatten digits c kept)

end Groups

/-- The texts that are read as a whole number, and as which. -/
theorem readWhole_eq_ok {text : Text} {value : Int} : readWhole 10 text = .ok value ↔ text.IsWrittenFor value := by
  simp only [readWhole, withoutBaseMark_ten, isSome_digitBelow?_ten, decide_true, Bool.true_and,
    decide_eq_true_eq]
  constructor
  · intro read
    obtain ⟨before, after, whole, blank⟩ := Text.exists_trim isNumberSpace (text.map asciiForm)
    obtain ⟨sign, size, signed⟩ := exists_sign text.numeral
    split at read
    · cases read
    next found =>
    obtain ⟨groups, some, written, digits, rfl⟩ := digitsOf?_eq_some.mp found
    split at read
    · cases read
    next short =>
    rw [valueIn_ten (isDecimalDigit_of_mem_flatten digits)] at read
    rw [← Text.numeral, size, written] at whole
    cases read
    exact ⟨before, sign, groups, after, _, whole, blank, signed, some, digits, Nat.le_of_not_lt short, rfl⟩
  · rintro ⟨before, sign, groups, after, negative, whole, blank, signed, some, digits, short, rfl⟩
    have noBlank : ∀ c ∈ sign ++ Text.join "_" groups, isNumberSpace c = false :=
      List.forall_mem_append.mpr ⟨signed.no_blank, no_blank_in_groups digits⟩
    obtain ⟨c, rest, first, digit⟩ := exists_first_digit digits some
    have numeral : text.numeral = sign ++ Text.join "_" groups := by
      rw [Text.numeral, whole]
      refine Text.trim_append blank ?_ ?_ ?_
      · rw [first]
        exact List.append_ne_nil_of_right_ne_nil _ (List.cons_ne_nil _ _)
      · exact fun c member => noBlank c (List.mem_of_mem_head? member)
      · exact fun c member => noBlank c (List.mem_of_mem_getLast? member)
    have parted : signOf text.numeral = (negative, Text.join "_" groups) := by
      rw [numeral, first, signed.signOf_append digit]
    have size : digitsOf? isDecimalDigit (Text.join "_" groups) = .some groups.flatten :=
      digitsOf?_eq_some.mpr ⟨groups, some, rfl, digits, rfl⟩
    simp only [parted, size]
    rw [if_neg (Nat.not_lt.mpr short), valueIn_ten (isDecimalDigit_of_mem_flatten digits)]

end ProjectSurvey
