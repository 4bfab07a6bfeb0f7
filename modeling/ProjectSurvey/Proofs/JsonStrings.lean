import Mathlib.Data.List.Chain
import ProjectSurvey.Json.Writer
import ProjectSurvey.Proofs.PlainText
import ProjectSurvey.Proofs.TextOrder

/-! Strings of JSON: what is written for a text is read back as that text, unless two halves of a
surrogate pair stand in it side by side, which are read as the character that they make up. -/

namespace ProjectSurvey

namespace Text

private theorem codePoint_eq (c : Char) : codePoint c = (surrogate? c).getD c.toNat := rfl

theorem charOf_codePoint (c : Char) : charOf (codePoint c) = c := by
  have number := codePoint_eq c
  cases stands : surrogate? c with
  | some n =>
    obtain ⟨same, half⟩ := surrogate_scalar stands
    rw [stands, Option.getD_some] at number
    rw [charOf, number, half, if_pos rfl, ← same, Char.ofNat_toNat]
  | none =>
    rw [stands, Option.getD_none] at number
    rw [charOf, number, scalar_not_surrogate, if_neg (by decide), Char.ofNat_toNat]

theorem codePoint_lt (c : Char) : codePoint c < 0x110000 := by
  simp only [codePoint]
  cases stands : surrogate? c with
  | some n =>
    have half := (surrogate_scalar stands).2
    simp only [isSurrogate, isHighSurrogate, isLowSurrogate, Bool.or_eq_true, Bool.and_eq_true,
      decide_eq_true_eq] at half
    simp only [Option.getD_some]
    omega
  | none =>
    have valid := c.valid
    simp only [UInt32.isValidChar, Nat.isValidChar] at valid
    have same : c.val.toNat = c.toNat := rfl
    simp only [Option.getD_none]
    omega

theorem lt_of_isHighSurrogate {n : Nat} (high : isHighSurrogate n = true) : n < 0x10000 := by
  simp only [isHighSurrogate, Bool.and_eq_true, decide_eq_true_eq] at high
  omega

theorem lt_of_isLowSurrogate {n : Nat} (low : isLowSurrogate n = true) : n < 0x10000 := by
  simp only [isLowSurrogate, Bool.and_eq_true, decide_eq_true_eq] at low
  omega

/-- What has a code point beyond sixteen bits is a character of its own. -/
theorem ofNat_codePoint {c : Char} (large : 0x10000 ≤ codePoint c) : Char.ofNat (codePoint c) = c := by
  have found := charOf_codePoint c
  have whole : isSurrogate (codePoint c) = false := by
    simp only [isSurrogate, isHighSurrogate, isLowSurrogate, Bool.or_eq_false_iff,
      Bool.and_eq_false_iff, decide_eq_false_iff_not]
    omega
  rwa [charOf, whole, if_neg (by decide)] at found

theorem large_of_isSurrogate {c : Char} (half : isSurrogate (codePoint c) = true) : 0x80 ≤ c.toNat := by
  have number := codePoint_eq c
  cases stands : surrogate? c with
  | some n =>
    have same := (surrogate_scalar stands).1
    simp only [standInDistance] at same
    omega
  | none =>
    rw [stands, Option.getD_none] at number
    rw [number, scalar_not_surrogate] at half
    cases half

/-- Whether two characters stand for the halves of a surrogate pair. -/
def pairs (a b : Char) : Bool :=
  isHighSurrogate (codePoint a) && isLowSurrogate (codePoint b)

/-- A text in which the two halves of a surrogate pair, where they stand side by side, have become the
character that they make up. -/
def rejoined : Text → Text
  | a :: b :: rest =>
    if pairs a b then Char.ofNat (joinSurrogates (codePoint a) (codePoint b)) :: rejoined rest
    else a :: rejoined (b :: rest)
  | [c] => [c]
  | [] => []

/-- Whether nowhere in a text the two halves of a surrogate pair stand side by side. -/
def IsWhole (text : Text) : Prop :=
  text.IsChain fun a b => pairs a b = false

instance (text : Text) : Decidable text.IsWhole :=
  inferInstanceAs (Decidable (List.IsChain _ text))

theorem rejoined_of_isWhole {text : Text} (whole : text.IsWhole) : text.rejoined = text := by
  induction text with
  | nil => rfl
  | cons a rest ih =>
    cases rest with
    | nil => rfl
    | cons b rest =>
      obtain ⟨apart, whole⟩ := List.isChain_cons_cons.mp whole
      simp only [rejoined, apart, Bool.false_eq_true, ite_false, ih whole]

theorem IsPlain.isWhole {text : Text} (plain : text.IsPlain) : text.IsWhole := by
  have apart : ∀ a ∈ text, ∀ b, pairs a b = false := by
    intro a member b
    by_contra paired
    rw [Bool.not_eq_false, pairs, Bool.and_eq_true] at paired
    have half : isSurrogate (codePoint a) = true := by rw [isSurrogate, paired.1, Bool.true_or]
    have large := large_of_isSurrogate half
    exact absurd (plain a member).2 (Nat.not_lt.mpr large)
  exact (List.pairwise_of_forall_mem_list fun a first b _ => apart a first b).isChain

theorem large_of_pairs {a b : Char} (paired : pairs a b = true) :
    0x10000 ≤ (Char.ofNat (joinSurrogates (codePoint a) (codePoint b))).toNat := by
  simp only [pairs, isHighSurrogate, isLowSurrogate, Bool.and_eq_true, decide_eq_true_eq] at paired
  generalize codePoint a = high, codePoint b = low at paired ⊢
  have large : 0x10000 ≤ joinSurrogates high low := by
    unfold joinSurrogates
    omega
  have valid : Nat.isValidChar (joinSurrogates high low) := by
    unfold joinSurrogates Nat.isValidChar
    omega
  rw [Char.ofNat, dif_pos valid]
  exact large

/-- What is read back as a text of small characters has been that text before. -/
theorem eq_of_rejoined {text other : Text} (small : ∀ c ∈ other, c.toNat < 0x10000)
    (same : text.rejoined = other) : text = other := by
  subst same
  induction text using rejoined.induct with
  | case1 a b rest paired _ =>
    rw [rejoined, if_pos paired] at small
    exact absurd (small _ List.mem_cons_self) (Nat.not_lt.mpr (large_of_pairs paired))
  | case2 a b rest apart ih =>
    rw [rejoined, if_neg apart] at small ⊢
    exact congrArg (a :: ·) (ih fun c member => small c (List.mem_cons_of_mem a member))
  | case3 c => rfl
  | case4 => rfl

end Text

namespace Json

/-- Whether a text does not begin with the escape of the second half of a surrogate pair. -/
def StartsNoPairEnd (text : Text) : Prop :=
  ∀ rest, text = '\\' :: 'u' :: rest →
    ∃ unit, hexadecimalValue? (rest.take 4) = some unit ∧ Text.isLowSurrogate unit = false

theorem stringOnto_skip (opening done escape rest : Text) {skipped : Nat}
    (whole : escape.length = skipped) :
    stringOnto opening done skipped (escape ++ rest) = stringOnto opening done 0 rest := by
  induction escape generalizing skipped with
  | nil => cases whole; rfl
  | cons c escape ih =>
    subst whole
    simpa only [List.length_cons, List.cons_append, stringOnto] using ih rfl

theorem stringOnto_escape {opening done escape rest : Text} {c : Char} {taken : Nat}
    (escaped : Json.escape opening ('\\' :: escape ++ rest) = .ok (c, taken))
    (whole : escape.length = taken) :
    stringOnto opening done 0 ('\\' :: escape ++ rest) = stringOnto opening (c :: done) 0 rest := by
  rw [List.cons_append, stringOnto]
  simp only [List.cons_append] at escaped
  simp only [ite_false, ite_true, escaped, Char.reduceEq]
  exact stringOnto_skip opening (c :: done) escape rest whole

theorem stringOnto_unitEscape {opening done escape rest : Text} {c : Char} {taken : Nat}
    (read : unitEscape ('u' :: escape ++ rest) = .ok (c, taken + 1)) (whole : escape.length = taken) :
    stringOnto opening done 0 ('\\' :: 'u' :: escape ++ rest) =
      stringOnto opening (c :: done) 0 rest :=
  stringOnto_escape read (congrArg (· + 1) whole)

/-- A unit in hexadecimal is read as its character, if it does not make up a pair with what follows. -/
theorem unitEscape_single {digits rest : Text} {unit : Nat} (four : digits.length = 4)
    (value : hexadecimalValue? digits = some unit) (more : rest ≠ [])
    (alone : Text.isHighSurrogate unit = true → StartsNoPairEnd rest) :
    unitEscape ('u' :: digits ++ rest) = .ok (Text.charOf unit, 5) := by
  have after : ('u' :: digits ++ rest).drop 5 = rest := by
    rw [List.cons_append, List.drop_succ_cons, ← four, List.drop_left]
  have inside : (('u' :: digits ++ rest).drop 1).take 4 = digits := by
    rw [List.cons_append, List.drop_succ_cons, List.drop_zero, ← four, List.take_left]
  have nonempty : rest.isEmpty = false := by cases rest <;> simp_all
  simp only [unitEscape, after, inside, nonempty, value, Bool.false_eq_true, ite_false]
  split
  · next pairs =>
    simp only [Bool.and_eq_true, decide_eq_true_eq] at pairs
    obtain ⟨⟨high, _⟩, starts⟩ := pairs
    obtain ⟨tail, rfl⟩ : ∃ tail, rest = '\\' :: 'u' :: tail := by
      obtain ⟨tail, same⟩ := List.isPrefixOf_iff_prefix.mp starts
      exact ⟨tail, same.symm⟩
    obtain ⟨low, found, notLow⟩ := alone high tail rfl
    simp [found, notLow]
  · rfl

/-- Two units that make up a pair are read as its character. -/
theorem unitEscape_pair {first second rest : Text} {high low : Nat} (four : first.length = 4)
    (alsoFour : second.length = 4) (value : hexadecimalValue? first = some high)
    (otherValue : hexadecimalValue? second = some low) (isHigh : Text.isHighSurrogate high = true)
    (isLow : Text.isLowSurrogate low = true) (more : rest ≠ []) :
    unitEscape ('u' :: first ++ ('\\' :: 'u' :: second ++ rest)) =
      .ok (Char.ofNat (Text.joinSurrogates high low), 11) := by
  have after : ('u' :: first ++ ('\\' :: 'u' :: second ++ rest)).drop 5 =
      '\\' :: 'u' :: second ++ rest := by
    rw [List.cons_append, List.drop_succ_cons, ← four, List.drop_left]
  have inside : (('u' :: first ++ ('\\' :: 'u' :: second ++ rest)).drop 1).take 4 = first := by
    rw [List.cons_append, List.drop_succ_cons, List.drop_zero, ← four, List.take_left]
  have further : (('\\' :: 'u' :: second ++ rest).drop 2).take 4 = second := by
    simp only [List.cons_append, List.drop_succ_cons, List.drop_zero]
    rw [← alsoFour, List.take_left]
  have long : 6 < ('\\' :: 'u' :: second ++ rest).length := by
    have positive := List.length_pos_of_ne_nil more
    simp only [List.cons_append, List.length_cons, List.length_append, alsoFour]
    omega
  have starts : "\\u".toList.isPrefixOf ('\\' :: 'u' :: second ++ rest) = true := rfl
  simp only [unitEscape, after, inside, value, further, otherValue, isHigh, isLow, long, starts]
  simp

/-- The first of the two units of a character beyond sixteen bits. -/
def highUnit (n : Nat) : Nat :=
  0xD800 + (n - 0x10000) / 0x400

def lowUnit (n : Nat) : Nat :=
  0xDC00 + (n - 0x10000) % 0x400

theorem units_of_large {n : Nat} (large : 0x10000 ≤ n) (valid : n < 0x110000) :
    Text.isHighSurrogate (highUnit n) = true ∧ Text.isLowSurrogate (lowUnit n) = true ∧
      Text.joinSurrogates (highUnit n) (lowUnit n) = n := by
  have few : (n - 0x10000) / 0x400 < 0x400 := by omega
  have rest : (n - 0x10000) % 0x400 < 0x400 := Nat.mod_lt _ (by decide)
  refine ⟨?_, ?_, ?_⟩
  · rw [Text.isHighSurrogate, Bool.and_eq_true, decide_eq_true_eq, decide_eq_true_eq]
    exact ⟨Nat.le_add_right _ _, Nat.add_lt_add_left few 0xD800⟩
  · rw [Text.isLowSurrogate, Bool.and_eq_true, decide_eq_true_eq, decide_eq_true_eq]
    exact ⟨Nat.le_add_right _ _, Nat.add_lt_add_left rest 0xDC00⟩
  · unfold Text.joinSurrogates highUnit lowUnit
    omega

theorem not_low_of_high {n : Nat} (high : Text.isHighSurrogate n = true) :
    Text.isLowSurrogate n = false := by
  simp only [Text.isHighSurrogate, Bool.and_eq_true, decide_eq_true_eq] at high
  simp only [Text.isLowSurrogate, Bool.and_eq_false_iff, decide_eq_false_iff_not]
  omega

/-- The ways in which a character is written in a string. -/
inductive Writes (c : Char) : Text → Prop
  | letter (letter : Char) : escaped? letter = some c → letter ≠ 'u' →
      Text.IsPlain ['\\', letter] → Writes c ['\\', letter]
  | plain : c ≠ '"' → c ≠ '\\' → 0x20 ≤ c.toNat → c.toNat < 0x80 → Writes c [c]
  | unit : Text.codePoint c < 0x10000 → Writes c (writeUnit (Text.codePoint c))
  | pair : 0x10000 ≤ Text.codePoint c →
      Writes c (writeUnit (highUnit (Text.codePoint c)) ++ writeUnit (lowUnit (Text.codePoint c)))

theorem writes_escapeChar (c : Char) : Writes c (escapeChar c) := by
  unfold escapeChar
  split
  · next same =>
    subst same
    exact .letter '"' rfl (by decide) (by decide)
  split
  · next same =>
    subst same
    exact .letter '\\' rfl (by decide) (by decide)
  split
  · next same =>
    subst same
    exact .letter 'n' rfl (by decide) (by decide)
  split
  · next same =>
    subst same
    exact .letter 'r' rfl (by decide) (by decide)
  split
  · next same =>
    subst same
    exact .letter 't' rfl (by decide) (by decide)
  split
  · next same =>
    subst same
    exact .letter 'b' rfl (by decide) (by decide)
  split
  · next same =>
    subst same
    exact .letter 'f' rfl (by decide) (by decide)
  split
  · next notQuote notSlash _ _ _ _ _ printable =>
    simp only [Bool.and_eq_true, decide_eq_true_eq] at printable
    exact .plain notQuote notSlash printable.1 (by omega)
  · dsimp only
    split
    · next small => exact .unit small
    · next large => exact .pair (Nat.le_of_not_lt large)

theorem writeUnit_eq (unit : Nat) : writeUnit unit = '\\' :: 'u' :: Text.padded 16 4 unit := rfl

theorem escapeChar_surrogate {c : Char} (half : Text.isSurrogate (Text.codePoint c) = true) :
    escapeChar c = writeUnit (Text.codePoint c) := by
  have large : 0x80 ≤ c.toNat := Text.large_of_isSurrogate half
  have small : Text.codePoint c < 0x10000 := by
    simp only [Text.isSurrogate, Bool.or_eq_true] at half
    exact half.elim Text.lt_of_isHighSurrogate Text.lt_of_isLowSurrogate
  have apart {d : Char} (ascii : d.toNat < 0x80) : c ≠ d := by
    rintro rfl
    omega
  have unprintable : ¬ (decide (0x20 ≤ c.toNat) && decide (c.toNat < 0x7F)) = true := by
    simp only [Bool.and_eq_true, decide_eq_true_eq]
    omega
  rw [escapeChar, if_neg (apart (by decide)), if_neg (apart (by decide)), if_neg (apart (by decide)),
    if_neg (apart (by decide)), if_neg (apart (by decide)), if_neg (apart (by decide)),
    if_neg (apart (by decide)), if_neg unprintable]
  exact if_pos small

theorem isOneLine_writeUnit (unit : Nat) : (writeUnit unit).IsOneLine := by
  rw [writeUnit_eq]
  exact (@Text.isOneLine_append ['\\', 'u'] _).mpr
    ⟨by decide, Text.isOneLine_padded (by decide) (by decide) 4 unit⟩

private theorem letter_of_escaped {letter c : Char} (known : escaped? letter = some c) :
    Text.IsOneLine ['\\', letter] := by
  unfold escaped? at known
  split at known
  case h_9 => cases known
  all_goals decide

theorem isOneLine_escapeChar (c : Char) : (escapeChar c).IsOneLine := by
  have written := writes_escapeChar c
  generalize escapeChar c = text at written ⊢
  cases written with
  | letter _ known _ _ => exact letter_of_escaped known
  | plain _ _ large small => exact List.forall_mem_singleton.mpr ⟨large, small⟩
  | unit _ => exact isOneLine_writeUnit _
  | pair _ => exact Text.isOneLine_append.mpr ⟨isOneLine_writeUnit _, isOneLine_writeUnit _⟩

private theorem length_unit {unit : Nat} (small : unit < 0x10000) :
    (Text.padded 16 4 unit).length = 4 :=
  length_padded (by decide) (by decide) small

private theorem startsNoPairEnd_writeUnit {unit : Nat} (small : unit < 0x10000)
    (notLow : Text.isLowSurrogate unit = false) (rest : Text) :
    StartsNoPairEnd (writeUnit unit ++ rest) := by
  intro digits same
  have same : Text.padded 16 4 unit ++ rest = digits := by simpa [writeUnit] using same
  have taken : (Text.padded 16 4 unit ++ rest).take (Text.padded 16 4 unit).length =
      Text.padded 16 4 unit := List.take_left
  rw [length_unit small] at taken
  exact ⟨unit, by rw [← same, taken, hexadecimalValue_padded], notLow⟩

/-- What is written for a character begins with the escape of the second half of a surrogate pair only
if that is the character. -/
theorem startsNoPairEnd_escapeChar {c : Char} (rest : Text)
    (notLow : Text.isLowSurrogate (Text.codePoint c) = false) :
    StartsNoPairEnd (escapeChar c ++ rest) := by
  have written := writes_escapeChar c
  generalize escapeChar c = text at written ⊢
  cases written with
  | letter _ _ notUnit _ => exact fun more same => by simp [notUnit] at same
  | plain _ notSlash _ _ => exact fun more same => by simp [notSlash] at same
  | unit small => exact startsNoPairEnd_writeUnit small notLow rest
  | pair large =>
    rw [List.append_assoc]
    have units := units_of_large large (Text.codePoint_lt c)
    refine startsNoPairEnd_writeUnit ?_ (not_low_of_high units.1) _
    have high := units.1
    simp only [Text.isHighSurrogate, Bool.and_eq_true, decide_eq_true_eq] at high
    omega

theorem startsNoPairEnd_quote (rest : Text) : StartsNoPairEnd ('"' :: rest) :=
  fun _ same => by simp at same

/-- Two units that make up a pair are read as its character. -/
theorem stringOnto_units (opening done : Text) {high low : Nat} {rest : Text} (more : rest ≠ [])
    (isHigh : Text.isHighSurrogate high = true) (isLow : Text.isLowSurrogate low = true) :
    stringOnto opening done 0 (writeUnit high ++ writeUnit low ++ rest) =
      stringOnto opening (Char.ofNat (Text.joinSurrogates high low) :: done) 0 rest := by
  have four := length_unit (Text.lt_of_isHighSurrogate isHigh)
  have alsoFour := length_unit (Text.lt_of_isLowSurrogate isLow)
  have read := unitEscape_pair four alsoFour (hexadecimalValue_padded 4 _)
    (hexadecimalValue_padded 4 _) isHigh isLow more
  rw [← List.append_assoc] at read
  rw [writeUnit_eq, writeUnit_eq, List.cons_append, List.cons_append]
  exact stringOnto_unitEscape read (by simp [four, alsoFour])

/-- What is written for a character in a string is read back as it, if it does not make up a pair with
what follows. -/
theorem stringOnto_escapeChar (opening done : Text) {c : Char} {rest : Text} (more : rest ≠ [])
    (alone : Text.isHighSurrogate (Text.codePoint c) = true → StartsNoPairEnd rest) :
    stringOnto opening done 0 (escapeChar c ++ rest) = stringOnto opening (c :: done) 0 rest := by
  have written := writes_escapeChar c
  generalize escapeChar c = text at written ⊢
  cases written with
  | letter _ stands notUnit _ =>
    refine stringOnto_escape ?_ rfl
    simp [Json.escape, stands]
  | plain notQuote notSlash printable _ =>
    have printable : ¬ c.toNat < 0x20 := Nat.not_lt.mpr printable
    simp only [List.singleton_append, stringOnto, notQuote, notSlash, printable, ite_false]
  | unit small =>
    have read := unitEscape_single (length_unit small) (hexadecimalValue_padded 4 _) more alone
    rw [Text.charOf_codePoint] at read
    rw [writeUnit_eq]
    exact stringOnto_unitEscape read (length_unit small)
  | pair large =>
    obtain ⟨high, low, joined⟩ := units_of_large large (Text.codePoint_lt c)
    rw [stringOnto_units opening done more high low, joined, Text.ofNat_codePoint large]

/-- Two halves of a surrogate pair side by side in a string are read as the character that they make
up. -/
theorem stringOnto_pair (opening done : Text) {a b : Char} {rest : Text} (more : rest ≠ [])
    (pair : Text.pairs a b = true) :
    stringOnto opening done 0 (escapeChar a ++ (escapeChar b ++ rest)) =
      stringOnto opening
        (Char.ofNat (Text.joinSurrogates (Text.codePoint a) (Text.codePoint b)) :: done) 0 rest := by
  simp only [Text.pairs, Bool.and_eq_true] at pair
  obtain ⟨high, low⟩ := pair
  rw [escapeChar_surrogate (by simp [Text.isSurrogate, high]),
    escapeChar_surrogate (by simp [Text.isSurrogate, low]), ← List.append_assoc]
  exact stringOnto_units opening done more high low

/-- A text in quotes is read back with the halves of surrogate pairs put together. -/
theorem stringOnto_quoted (opening done text rest : Text) :
    stringOnto opening done 0 (text.flatMap escapeChar ++ '"' :: rest) =
      .ok (done.reverse ++ text.rejoined, rest) := by
  have nonempty (more : Text) : more.flatMap escapeChar ++ '"' :: rest ≠ [] := by simp
  fun_induction Text.rejoined text generalizing done with
  | case1 a b more pair ih =>
    rw [List.flatMap_cons, List.flatMap_cons, List.append_assoc, List.append_assoc,
      stringOnto_pair opening done (nonempty more) pair, ih]
    simp
  | case2 a b more apart ih =>
    rw [List.flatMap_cons, List.append_assoc, stringOnto_escapeChar opening done (nonempty _), ih]
    · simp
    · intro high
      rw [List.flatMap_cons, List.append_assoc]
      refine startsNoPairEnd_escapeChar _ ?_
      simpa [Text.pairs, high] using apart
  | case3 c =>
    rw [List.flatMap_cons, List.append_assoc, List.flatMap_nil, List.nil_append,
      stringOnto_escapeChar opening done (by simp) fun _ => startsNoPairEnd_quote rest]
    simp [stringOnto]
  | case4 => simp [stringOnto]

end Json

end ProjectSurvey
