import ProjectSurvey.Json.Parser
import ProjectSurvey.Json.Writer
import ProjectSurvey.Proofs.PlainText

/-! Numbers of JSON: what is written for a whole number is read back as that number, and what is
written for a floating-point number as such a number. -/

namespace ProjectSurvey

/-- Whether a text is made of decimal digits. -/
def Text.IsDigits (text : Text) : Prop :=
  text ≠ [] ∧ ∀ c ∈ text, isDecimalDigit c = true

/-- Whether digits are those of a whole number: no zero stands in front. -/
def Text.IsNumeral (text : Text) : Prop :=
  text.IsDigits ∧ (text.head? = some '0' → text = ['0'])

instance (text : Text) : Decidable text.IsDigits :=
  @instDecidableAnd _ _ _ (List.decidableBAll _ text)

instance (text : Text) : Decidable text.IsNumeral :=
  inferInstanceAs (Decidable (_ ∧ _))

theorem Text.isNumeral_ofNat (n : Nat) : (Text.ofNat n).IsNumeral := by
  refine ⟨⟨Nat.toDigits_ne_nil, fun _ => isDecimalDigit_of_mem⟩, ?_⟩
  intro zero
  rcases Nat.eq_zero_or_pos n with rfl | positive
  · rfl
  · exact (head_toDigits positive zero).elim

namespace Text.IsDigits

variable {text : Text} (digits : text.IsDigits)

include digits

theorem isNumeral (nonzero : text.head? ≠ some '0') : text.IsNumeral :=
  ⟨digits, fun zero => (nonzero zero).elim⟩

theorem append (more : Text) (all : ∀ c ∈ more, isDecimalDigit c = true) : (text ++ more).IsDigits :=
  ⟨by simp [digits.1], fun c member => (List.mem_append.mp member).elim (digits.2 c) (all c)⟩

theorem take {n : Nat} (positive : 0 < n) : IsDigits (text.take n) :=
  ⟨by simpa [digits.1] using Nat.ne_of_gt positive, fun c member => digits.2 c (List.mem_of_mem_take member)⟩

theorem drop {n : Nat} (short : n < text.length) : IsDigits (text.drop n) :=
  ⟨by simpa using short, fun c member => digits.2 c (List.mem_of_mem_drop member)⟩

end Text.IsDigits

theorem Text.isDigits_padded (width n : Nat) : (Text.padded 10 width n).IsDigits := by
  refine ⟨by simp [Text.padded, Nat.toDigits_ne_nil], ?_⟩
  intro c member
  rcases List.mem_append.mp member with zero | digit
  · rw [List.eq_of_mem_replicate zero]
    decide
  · exact isDecimalDigit_of_mem digit

namespace Json

/-- Whether a text begins with what may follow a value, or is at its end. -/
def Ends (text : Text) : Prop :=
  ∀ c ∈ text.head?, c ∈ [',', ']', '\x7d', '\n']

/-- Whether a text begins with no character for which `extends?` holds. -/
private def StartsWithout (extends? : Char → Bool) (text : Text) : Prop :=
  ∀ c ∈ text.head?, extends? c = false

private theorem Ends.without {text : Text} (ends : Ends text) {extends? : Char → Bool}
    (none : [',', ']', '\x7d', '\n'].all (!extends? ·) = true) : StartsWithout extends? text :=
  fun c first => by simpa using List.all_eq_true.mp none c (ends c first)

private theorem takeWhile_append {digits rest : Text} (all : ∀ c ∈ digits, isDecimalDigit c = true)
    (ends : StartsWithout isDecimalDigit rest) :
    (digits ++ rest).takeWhile isDecimalDigit = digits ∧
      (digits ++ rest).dropWhile isDecimalDigit = rest := by
  rw [List.takeWhile_append_of_pos all, List.dropWhile_append_of_pos all]
  cases rest with
  | nil => simp
  | cons c rest =>
    have other : isDecimalDigit c = false := ends c rfl
    simp [other]

theorem wholeDigits_append {whole rest : Text} (numeral : whole.IsNumeral)
    (ends : StartsWithout isDecimalDigit rest) : wholeDigits (whole ++ rest) = whole := by
  obtain ⟨⟨nonempty, all⟩, zero⟩ := numeral
  unfold wholeDigits
  split
  · next more same =>
    have first : whole.head? = some '0' := by
      cases whole with
      | nil => exact (nonempty rfl).elim
      | cons c digits =>
        rw [List.cons_append] at same
        cases same
        rfl
    exact (zero first).symm
  · exact (takeWhile_append all ends).1

theorem fractionOf_append {fraction rest : Text} (digits : fraction.IsDigits)
    (ends : StartsWithout isDecimalDigit rest) :
    fractionOf ('.' :: fraction ++ rest) = (fraction, rest) := by
  obtain ⟨taken, left⟩ := takeWhile_append digits.2 ends
  rw [List.cons_append, fractionOf]
  simp only [taken, left, List.isEmpty_iff, digits.1, ite_false]

theorem fractionOf_none {rest : Text} (ends : StartsWithout (· = '.') rest) :
    fractionOf rest = ([], rest) := by
  unfold fractionOf
  split
  · next more => simp [StartsWithout] at ends
  · rfl

theorem exponentOf_none {rest : Text} (ends : StartsWithout (fun c => c = 'e' || c = 'E') rest) :
    exponentOf rest = (none, rest) := by
  cases rest with
  | nil => rfl
  | cons c rest =>
    have other : (c = 'e' || c = 'E') = false := by simpa [StartsWithout] using ends
    simp only [exponentOf, other, Bool.false_eq_true, ite_false]

def signedPower (sign : Char) (power : Text) : Int :=
  if sign = '-' then -(decimalValue power : Int) else decimalValue power

theorem exponentOf_append {sign : Char} {power rest : Text} (known : sign = '-' ∨ sign = '+')
    (digits : power.IsDigits) (ends : StartsWithout isDecimalDigit rest) :
    exponentOf ('e' :: sign :: power ++ rest) = (some (signedPower sign power), rest) := by
  obtain ⟨taken, left⟩ := takeWhile_append digits.2 ends
  rcases known with rfl | rfl <;>
    simp [exponentOf, signedPower, taken, left, digits.1]

/-- A text with a minus sign in front of it, or without. -/
def signed (negative : Bool) (text : Text) : Text :=
  if negative then '-' :: text else text

theorem signed_append (negative : Bool) (text rest : Text) :
    signed negative text ++ rest = signed negative (text ++ rest) := by
  cases negative <;> rfl

section Signed

variable {negative : Bool} {whole tail : Text} (numeral : whole.IsNumeral)
  (ends : StartsWithout isDecimalDigit tail)

include numeral ends

private theorem digits_of_signed :
    wholeDigits (whole ++ tail) = whole ∧ whole.isEmpty = false ∧ (whole ++ tail).head? ≠ some '-' := by
  have nonempty : whole.isEmpty = false := by simpa [List.isEmpty_iff] using numeral.1.1
  refine ⟨wholeDigits_append numeral ends, nonempty, ?_⟩
  cases whole with
  | nil => cases nonempty
  | cons c digits =>
    have digit := numeral.1.2 c List.mem_cons_self
    rintro ⟨⟩
    cases digit

private theorem number_whole {rest : Text} (noFraction : fractionOf tail = ([], rest))
    (noExponent : exponentOf rest = (none, rest)) (short : whole.length ≤ digitLimit) :
    number (signed negative (whole ++ tail)) =
      .ok (.int (if negative then -(decimalValue whole : Int) else decimalValue whole), rest) := by
  obtain ⟨digits, nonempty, unsigned⟩ := digits_of_signed numeral ends
  have short := Nat.not_lt.mpr short
  cases negative with
  | false =>
    change number (whole ++ tail) = .ok (.int (decimalValue whole), rest)
    unfold number
    dsimp only
    rw [if_neg unsigned, digits, if_neg (by simp [nonempty]), List.drop_left, noFraction]
    dsimp only
    rw [noExponent]
    dsimp only
    rw [if_pos (by rfl), if_neg short, if_neg unsigned]
  | true =>
    change number ('-' :: (whole ++ tail)) = .ok (.int (-decimalValue whole), rest)
    unfold number
    dsimp only
    rw [List.head?_cons, if_pos rfl, List.drop_one, List.tail_cons, digits, if_neg (by simp [nonempty]), List.drop_left,
      noFraction]
    dsimp only
    rw [noExponent]
    dsimp only
    rw [if_pos (by rfl), if_neg short, if_pos rfl]

private theorem number_fractional {fraction more rest : Text} {exponent : Option Int}
    (read : fractionOf tail = (fraction, more)) (raised : exponentOf more = (exponent, rest))
    (some : ¬ (fraction.isEmpty && exponent.isNone) = true) :
    number (signed negative (whole ++ tail)) =
      .ok (.float (if negative then
          (Binary64.ofDecimal (decimalValue (whole ++ fraction))
            (exponent.getD 0 - fraction.length)).negate
        else Binary64.ofDecimal (decimalValue (whole ++ fraction))
          (exponent.getD 0 - fraction.length)), rest) := by
  obtain ⟨digits, nonempty, unsigned⟩ := digits_of_signed numeral ends
  cases negative with
  | false =>
    rw [if_neg Bool.false_ne_true]
    change number (whole ++ tail) = _
    unfold number
    dsimp only
    rw [if_neg unsigned, digits, if_neg (by simp [nonempty]), List.drop_left, read]
    dsimp only
    rw [raised]
    dsimp only
    rw [if_neg some, if_neg unsigned]
  | true =>
    rw [if_pos rfl]
    change number ('-' :: (whole ++ tail)) = _
    unfold number
    dsimp only
    rw [List.head?_cons, if_pos rfl, List.drop_one, List.tail_cons, digits, if_neg (by simp [nonempty]), List.drop_left,
      read]
    dsimp only
    rw [raised]
    dsimp only
    rw [if_neg some, if_pos rfl]

end Signed

private theorem ofInt_append (value : Int) (rest : Text) :
    Text.ofInt value ++ rest = signed (decide (value < 0)) (Text.ofNat value.natAbs ++ rest) := by
  by_cases negative : value < 0 <;> simp [Text.ofInt, signed, negative]

theorem number_ofInt {value : Int} {rest : Text} (short : (Text.ofNat value.natAbs).length ≤ digitLimit)
    (ends : Ends rest) : number (Text.ofInt value ++ rest) = .ok (.int value, rest) := by
  rw [ofInt_append, number_whole (Text.isNumeral_ofNat _) (ends.without (by decide))
    (fractionOf_none (ends.without (by decide))) (exponentOf_none (ends.without (by decide))) short,
    Text.ofNat, decimalValue_toDigits]
  congr 3
  simp only [decide_eq_true_eq]
  clear short
  omega

/-- The ways in which the digits of a floating-point number are written. -/
inductive IsFloatText : Text → Prop
  | pointed {whole fraction : Text} : whole.IsNumeral → fraction.IsDigits →
      IsFloatText (whole ++ '.' :: fraction)
  | raised {whole power : Text} {sign : Char} : whole.IsNumeral → sign = '-' ∨ sign = '+' →
      power.IsDigits → IsFloatText (whole ++ 'e' :: sign :: power)
  | pointedAndRaised {whole fraction power : Text} {sign : Char} : whole.IsNumeral →
      fraction.IsDigits → sign = '-' ∨ sign = '+' → power.IsDigits →
      IsFloatText (whole ++ ('.' :: fraction ++ 'e' :: sign :: power))

theorem IsFloatText.starts {text : Text} (written : IsFloatText text) :
    ∃ whole tail, Text.IsDigits whole ∧ text = whole ++ tail := by
  cases written with
  | pointed numeral _ => exact ⟨_, _, numeral.1, rfl⟩
  | raised numeral _ _ => exact ⟨_, _, numeral.1, rfl⟩
  | pointedAndRaised numeral _ _ _ => exact ⟨_, _, numeral.1, rfl⟩

theorem number_float (negative : Bool) {text : Text} (float : IsFloatText text) :
    ∃ x, ∀ rest, Ends rest → number (signed negative text ++ rest) = .ok (.float x, rest) := by
  cases float with
  | pointed numeral digits =>
    refine ⟨?_, fun rest ends => ?_⟩
    rotate_left
    · rw [signed_append, List.append_assoc]
      exact number_fractional numeral (by simp [StartsWithout, isDecimalDigit])
        (fractionOf_append digits (ends.without (by decide)))
        (exponentOf_none (ends.without (by decide))) (by simp [digits.1])
  | raised numeral known digits =>
    refine ⟨?_, fun rest ends => ?_⟩
    rotate_left
    · rw [signed_append, List.append_assoc]
      exact number_fractional numeral (by simp [StartsWithout, isDecimalDigit])
        (fractionOf_none (by simp [StartsWithout]))
        (exponentOf_append known digits (ends.without (by decide))) (by simp)
  | pointedAndRaised numeral digits known power =>
    refine ⟨?_, fun rest ends => ?_⟩
    rotate_left
    · rw [signed_append, List.append_assoc, List.append_assoc]
      exact number_fractional numeral (by simp [StartsWithout, isDecimalDigit])
        (fractionOf_append digits (by simp [StartsWithout, isDecimalDigit]))
        (exponentOf_append known power (ends.without (by decide))) (by simp)

end Json

namespace Binary64

theorem twoTo_pos (power : Nat) : 0 < twoTo power :=
  Nat.pow_pos (by decide)

theorem tenTo_pos (power : Nat) : 0 < tenTo power :=
  Nat.pow_pos (by decide)

theorem significand_pos {x : Binary64} (nonzero : x.isZero = false) : 0 < x.significandAndPower.1 := by
  simp only [isZero, beq_eq_false_iff_ne] at nonzero
  simp only [significandAndPower]
  split
  · next small =>
    have whole := Nat.div_add_mod x.magnitude (twoTo 52)
    rw [small] at whole
    omega
  · have positive := twoTo_pos 52
    omega

/-- Zero reads back as no number whose lower end lies above it. -/
theorem Neighbours.hit?_pos {near : Neighbours} {even : Bool} {digits : Nat} (positive : 0 < near.lowEnd)
    (hit : near.hit? even = some digits) : 0 < digits := by
  rcases Nat.eq_zero_or_pos near.below with zero | positiveBelow
  · have missed : ¬ near.lowEnd ≤ 0 * near.step := by
      rw [Nat.zero_mul]
      omega
    have alsoMissed : ¬ near.lowEnd < 0 * near.step := fun less => missed (Nat.le_of_lt less)
    simp only [hit?, zero, missed, alsoMissed, decide_false, Bool.false_and, ite_self] at hit
    split at hit
    · next impossible _ => cases impossible
    · cases hit
      decide
    · cases hit
    · next impossible _ => cases impossible
  · simp only [hit?] at hit
    split at hit
    · cases hit
      exact positiveBelow
    · cases hit
      exact Nat.succ_pos _
    · cases hit
    · simp only [Option.some.injEq] at hit
      split at hit
      · exact hit ▸ positiveBelow
      · exact hit ▸ Nat.succ_pos _

theorem lowEnd_pos {x : Binary64} (nonzero : x.isZero = false) (exponent : Int) :
    0 < (x.neighboursAt exponent).lowEnd := by
  have significand := significand_pos nonzero
  simp only [neighboursAt]
  refine Nat.mul_pos ?_ (Nat.mul_pos (twoTo_pos _) (tenTo_pos _))
  split <;> omega

theorem shortestDecimal_pos {x : Binary64} (nonzero : x.isZero = false) :
    0 < x.shortestDecimal.1 ∨ x.shortestDecimal = (0, 0) := by
  simp only [shortestDecimal]
  cases found : (List.range 17).findSome? fun n =>
      ((x.neighboursAt (x.pointPlace - Int.ofNat (n + 1))).hit?
        (decide (x.significandAndPower.1 % 2 = 0))).map fun digits =>
          (digits, x.pointPlace - Int.ofNat (n + 1)) with
  | none => exact .inr rfl
  | some decimal =>
    left
    obtain ⟨n, _, hit⟩ := List.exists_of_findSome?_eq_some found
    obtain ⟨digits, read, rfl⟩ := Option.map_eq_some_iff.mp hit
    exact Neighbours.hit?_pos (lowEnd_pos nonzero _) read

theorem dropZeros_prefix (digits : Text) (exponent : Int) : (dropZeros digits exponent).1 <+: digits :=
  List.take_prefix _ _

/-- Digits that do not begin with a zero do not go with the zeros. -/
theorem dropZeros_ne_nil {digits : Text} (exponent : Int) (nonempty : digits ≠ [])
    (nonzero : digits.head? ≠ some '0') : (dropZeros digits exponent).1 ≠ [] := by
  intro nothing
  simp only [dropZeros, List.take_eq_nil_iff, nonempty, or_false] at nothing
  have all := (List.takeWhile_prefix (· = '0') (l := digits.reverse)).eq_of_length_le
    (by rw [List.length_reverse]; omega)
  cases digits with
  | nil => exact nonempty rfl
  | cons c digits =>
    have every := List.all_takeWhile (p := (· = '0')) (l := (c :: digits).reverse)
    rw [all] at every
    have zero : c = '0' := by simpa using (List.all_eq_true.mp every) c (by simp)
    exact nonzero (by rw [List.head?_cons, zero])

theorem isZero_magnitude {x : Binary64} (nonzero : ¬ x.isZero = true) :
    isZero ⟨x.magnitude.toUInt64⟩ = false := by
  have small : x.magnitude < 0x8000000000000000 := Nat.mod_lt _ (by decide)
  have same : x.magnitude.toUInt64.toNat = x.magnitude := by
    rw [Nat.toUInt64, UInt64.toNat_ofNat']
    exact Nat.mod_eq_of_lt (Nat.lt_trans small (by decide))
  simp only [isZero, beq_iff_eq] at nonzero
  rw [isZero, magnitude, same, Nat.mod_eq_of_lt small]
  simpa using nonzero

open Json in
/-- Digits with a point and an exponent put in, as for a positive number. -/
private theorem isFloatText_digits {digits : Text} (exponent : Int) (several : digits.IsDigits)
    (nonzero : digits.head? ≠ some '0') :
    let place := digits.length + exponent
    IsFloatText
      (if -4 < place && place ≤ 16 then
        if place ≤ 0 then "0." ++ List.replicate (-place).toNat '0' ++ digits
        else if exponent ≥ 0 then digits ++ List.replicate exponent.toNat '0' ++ ".0"
        else digits.take place.toNat ++ "." ++ digits.drop place.toNat
      else
        let power := place - 1
        let fraction := if digits.length ≤ 1 then [] else '.' :: digits.drop 1
        digits.take 1 ++ fraction ++ "e" ++ (if power < 0 then "-" else "+")
          ++ Text.padded 10 2 power.natAbs) := by
  intro place
  have first := (several.take (n := 1) (by decide)).isNumeral (by simpa [List.head?_take] using nonzero)
  split
  · split
    · refine @IsFloatText.pointed ['0'] (List.replicate (-place).toNat '0' ++ digits) (by decide) ⟨?_, ?_⟩
      · simp [several.1]
      · intro c member
        rcases List.mem_append.mp member with zero | digit
        · rw [List.eq_of_mem_replicate zero]
          decide
        · exact several.2 c digit
    split
    · have whole := several.append (List.replicate exponent.toNat '0') fun c member => by
        rw [List.eq_of_mem_replicate member]
        decide
      refine IsFloatText.pointed (whole.isNumeral ?_) (by decide : Text.IsDigits ['0'])
      rwa [List.head?_append, List.head?_eq_some_head several.1, Option.some_or,
        ← List.head?_eq_some_head several.1]
    · have inside : place.toNat < digits.length := by omega
      rw [List.append_assoc]
      refine IsFloatText.pointed ((several.take (n := place.toNat) (by omega)).isNumeral ?_)
        (several.drop inside)
      rwa [List.head?_take, if_neg (by omega)]
  · have power := Text.isDigits_padded 2 (place - 1).natAbs
    have known (negative : Prop) [Decidable negative] :
        ∃ sign, (if negative then "-" else "+").toList = [sign] ∧ (sign = '-' ∨ sign = '+') := by
      by_cases negative <;> simp_all
    obtain ⟨sign, written, known⟩ := known (place - 1 < 0)
    dsimp only
    rw [written]
    by_cases single : digits.length ≤ 1
    · rw [if_pos single, List.append_nil, List.append_assoc, List.append_assoc]
      exact .raised first known power
    · rw [if_neg single, List.append_assoc, List.append_assoc, List.append_assoc]
      exact .pointedAndRaised first (several.drop (by omega)) known power

open Json in
theorem isFloatText_positiveText {x : Binary64} (nonzero : x.isZero = false) :
    IsFloatText x.positiveText := by
  unfold positiveText
  have positive := shortestDecimal_pos nonzero
  generalize x.shortestDecimal = decimal at positive ⊢
  obtain ⟨value, exponent⟩ := decimal
  dsimp only at positive ⊢
  rcases positive with positive | zero
  · have numeral := Text.isNumeral_ofNat value
    have head : (Text.ofNat value).head? ≠ some '0' := head_toDigits positive
    have kept := dropZeros_ne_nil exponent numeral.1.1 head
    have start := dropZeros_prefix (Text.ofNat value) exponent
    generalize dropZeros (Text.ofNat value) exponent = dropped at kept start ⊢
    refine isFloatText_digits dropped.2 ⟨kept, fun c member => numeral.1.2 c (start.subset member)⟩ ?_
    obtain ⟨more, same⟩ := start
    rw [← same, List.head?_append, List.head?_eq_some_head kept, Option.some_or] at head
    rwa [List.head?_eq_some_head kept]
  · cases zero
    exact @IsFloatText.pointed ['0'] ['0'] (by decide) (by decide)

open Json in
/-- A number is written as a word, or else in digits. -/
theorem toText_cases (x : Binary64) : x.toText spelling = "NaN".toList ∨
    x.toText spelling = signed x.isNegative "Infinity" ∨
      ∃ text, IsFloatText text ∧ x.toText spelling = signed x.isNegative text := by
  have signs : x.toText spelling = if x.isNan then spelling.nan else signed x.isNegative
      (if x.magnitude = 0x7FF0000000000000 then spelling.infinity
      else if x.isZero then "0.0"
      else positiveText ⟨x.magnitude.toUInt64⟩) := rfl
  rw [signs]
  split
  · exact .inl rfl
  split
  · exact .inr (.inl rfl)
  split
  · exact .inr (.inr ⟨_, @IsFloatText.pointed ['0'] ['0'] (by decide) (by decide), rfl⟩)
  · next nonzero =>
    exact .inr (.inr ⟨_, isFloatText_positiveText (isZero_magnitude nonzero), rfl⟩)

end Binary64

namespace Json

/-- Whether a text may be how a number starts: a digit, or a minus sign and a digit. -/
private def startsNumber : Text → Bool
  | [] => true
  | ['-'] => true
  | '-' :: c :: _ => isDecimalDigit c
  | c :: _ => isDecimalDigit c

private theorem startsNumber_of_prefix {start text : Text} (before : start <+: text)
    (starts : startsNumber text = true) : startsNumber start = true := by
  obtain ⟨rest, rfl⟩ := before
  match start with
  | [] => rfl
  | [c] =>
    by_cases minus : c = '-'
    · subst minus
      rfl
    · cases rest <;> simpa [startsNumber, minus] using starts
  | c :: d :: more =>
    by_cases minus : c = '-'
    · subst minus
      exact starts
    · simpa [startsNumber, minus] using starts

private theorem startsNumber_signed (negative : Bool) {whole : Text} (digits : whole.IsDigits)
    (tail : Text) : startsNumber (signed negative (whole ++ tail)) = true := by
  cases whole with
  | nil => exact (digits.1 rfl).elim
  | cons c rest =>
    have digit := digits.2 c List.mem_cons_self
    have unsigned : c ≠ '-' := by
      rintro rfl
      cases digit
    cases negative <;> simp [signed, startsNumber, digit, unsigned]

private theorem literalOrNumber_number {text : Text} (starts : startsNumber text = true) :
    literalOrNumber text = number text := by
  have words : ∀ entry ∈ literals, startsNumber entry.1 = false := by decide
  have none : (literals.find? fun entry => entry.1.isPrefixOf text) = none := by
    refine List.find?_eq_none.mpr fun entry member before => ?_
    have same := startsNumber_of_prefix (List.isPrefixOf_iff_prefix.mp before) starts
    rw [words entry member] at same
    cases same
  rw [literalOrNumber, none]

theorem literalOrNumber_ofInt {value : Int} {rest : Text}
    (short : (Text.ofNat value.natAbs).length ≤ digitLimit) (ends : Ends rest) :
    literalOrNumber (Text.ofInt value ++ rest) = .ok (.int value, rest) := by
  rw [ofInt_append, literalOrNumber_number (startsNumber_signed _ (Text.isNumeral_ofNat _).1 _),
    ← ofInt_append, number_ofInt short ends]

end Json

/-- What is read of the text that is written for a floating-point number. -/
def Binary64.reread (x : Binary64) : Binary64 :=
  match Json.literalOrNumber (x.toText Json.spelling) with
  | .ok (.float y, _) => y
  | _ => x

namespace Json

theorem literalOrNumber_toText (x : Binary64) {rest : Text} (ends : Ends rest) :
    literalOrNumber (x.toText spelling ++ rest) = .ok (.float x.reread, rest) := by
  suffices read : ∃ y, ∀ rest, Ends rest →
      literalOrNumber (x.toText spelling ++ rest) = .ok (.float y, rest) by
    obtain ⟨y, read⟩ := read
    have alone := read [] (by simp [Ends])
    rw [List.append_nil] at alone
    rw [read rest ends, Binary64.reread, alone]
  have float {text : Text} (written : IsFloatText text) : ∃ y, ∀ rest, Ends rest →
      literalOrNumber (signed x.isNegative text ++ rest) = .ok (.float y, rest) := by
    obtain ⟨y, read⟩ := number_float x.isNegative written
    refine ⟨y, ?_⟩
    intro rest ends
    obtain ⟨whole, tail, digits, rfl⟩ := written.starts
    rw [literalOrNumber_number, read rest ends]
    rw [signed_append, List.append_assoc]
    exact startsNumber_signed _ digits _
  rcases Binary64.toText_cases x with noNumber | infinite | ⟨text, written, same⟩
  · rw [noNumber]
    exact ⟨.nan, fun rest _ => rfl⟩
  · rw [infinite]
    cases x.isNegative with
    | false => exact ⟨.infinity, fun rest _ => rfl⟩
    | true => exact ⟨Binary64.infinity.negate, fun rest _ => rfl⟩
  · rw [same]
    exact float written

end Json

end ProjectSurvey
