import Mathlib.Tactic.SplitIfs
import ProjectSurvey.Text.Utf8

/-! The bytes of a text are read back as the text, whatever characters it holds, and no other bytes are
read as a text. -/

namespace ProjectSurvey.Utf8

theorem toNat_toUInt8 {n : Nat} (small : n < 0x100) : n.toUInt8.toNat = n := by
  rw [Nat.toUInt8, UInt8.toNat_ofNat']
  omega

/-- The number of a character is below the surrogates, or above them and in range. -/
theorem toNat_range (c : Char) : c.toNat < 0xD800 ∨ 0xDFFF < c.toNat ∧ c.toNat < 0x110000 :=
  c.valid

theorem secondFits_iff {lead b : UInt8} : secondFits lead b = true ↔
    (0x80 ≤ b.toNat ∧ b.toNat ≤ 0xBF) ∧ (lead.toNat = 0xE0 → 0xA0 ≤ b.toNat) ∧
      (lead.toNat = 0xF0 → 0x90 ≤ b.toNat) ∧ (lead.toNat = 0xED → b.toNat ≤ 0x9F) ∧
      (lead.toNat = 0xF4 → b.toNat ≤ 0x8F) := by
  simp only [secondFits, leastSecond, greatestSecond, Bool.and_eq_true, decide_eq_true_eq,
    UInt8.le_iff_toNat_le, ← UInt8.toNat_inj, UInt8.reduceToNat]
  split_ifs <;> simp only [UInt8.reduceToNat] <;> omega

theorem isContinuation_iff {b : UInt8} : isContinuation b = true ↔ 0x80 ≤ b.toNat ∧ b.toNat < 0xC0 := by
  simp only [isContinuation, Bool.and_eq_true, decide_eq_true_eq, UInt8.le_iff_toNat_le,
    UInt8.lt_iff_toNat_lt]
  exact Iff.rfl

theorem toNat_following (n : Nat) : (0x80 + n % 0x40).toUInt8.toNat = 0x80 + n % 0x40 :=
  toNat_toUInt8 (by omega)

theorem isContinuation_following (n : Nat) : isContinuation (0x80 + n % 0x40).toUInt8 = true := by
  rw [isContinuation_iff, toNat_following]
  omega

theorem payload_following (n : Nat) : payload (0x80 + n % 0x40).toUInt8 = n % 0x40 := by
  rw [payload, toNat_following]
  omega

section Steps

variable (done : Text) (position : Nat) {a b c d : UInt8} (rest : Bytes)

theorem decodeOnto_one (lead : a.toNat < 0x80) :
    decodeOnto done position (a :: rest) = decodeOnto (Char.ofNat a.toNat :: done) (position + 1) rest := by
  rw [decodeOnto.eq_def]
  exact if_pos (UInt8.lt_iff_toNat_lt.mpr lead)

private theorem is_lead {a : UInt8} (low : 0xC2 ≤ a.toNat) (high : a.toNat ≤ 0xF4) :
    ¬ a < 0x80 ∧ ¬ (a < 0xC2 || 0xF4 < a) = true := by
  simp only [Bool.or_eq_true, decide_eq_true_eq, UInt8.lt_iff_toNat_lt, UInt8.reduceToNat]
  omega

theorem decodeOnto_two (low : 0xC2 ≤ a.toNat) (high : a.toNat < 0xE0) (fits : secondFits a b = true) :
    decodeOnto done position (a :: b :: rest) =
      decodeOnto (Char.ofNat (a.toNat % 0x20 * 0x40 + payload b) :: done) (position + 2) rest := by
  obtain ⟨large, start⟩ := is_lead low (by omega)
  have two : a < 0xE0 := UInt8.lt_iff_toNat_lt.mpr high
  rw [decodeOnto.eq_def]
  simp only [large, start, fits, two, Bool.not_true, Bool.false_eq_true, ite_true, ite_false]

theorem decodeOnto_three (low : 0xE0 ≤ a.toNat) (high : a.toNat < 0xF0) (fits : secondFits a b = true)
    (third : isContinuation c = true) :
    decodeOnto done position (a :: b :: c :: rest) =
      decodeOnto (Char.ofNat (a.toNat % 0x10 * 0x1000 + payload b * 0x40 + payload c) :: done)
        (position + 3) rest := by
  obtain ⟨large, start⟩ := is_lead (Nat.le_trans (by decide) low) (by omega)
  have three : ¬ a < 0xE0 ∧ a < 0xF0 := by
    simp only [UInt8.lt_iff_toNat_lt, UInt8.reduceToNat]
    omega
  rw [decodeOnto.eq_def]
  simp only [large, start, fits, three, third, Bool.not_true, Bool.false_eq_true, ite_true,
    ite_false]

theorem decodeOnto_four (low : 0xF0 ≤ a.toNat) (high : a.toNat ≤ 0xF4) (fits : secondFits a b = true)
    (third : isContinuation c = true) (fourth : isContinuation d = true) :
    decodeOnto done position (a :: b :: c :: d :: rest) =
      decodeOnto
        (Char.ofNat (a.toNat % 0x08 * 0x40000 + payload b * 0x1000 + payload c * 0x40 + payload d) :: done)
        (position + 4) rest := by
  obtain ⟨large, start⟩ := is_lead (Nat.le_trans (by decide) low) high
  have four : ¬ a < 0xE0 ∧ ¬ a < 0xF0 := by
    simp only [UInt8.lt_iff_toNat_lt, UInt8.reduceToNat]
    omega
  rw [decodeOnto.eq_def]
  simp only [large, start, fits, four, third, fourth, Bool.not_true, Bool.false_eq_true,
    ite_false]

end Steps

theorem decodeOnto_encodeChar (done : Text) (position : Nat) (c : Char) (rest : Bytes) :
    decodeOnto done position (encodeChar c ++ rest) =
      decodeOnto (c :: done) (position + (encodeChar c).length) rest := by
  have range := toNat_range c
  have same : Char.ofNat c.toNat = c := Char.ofNat_toNat c
  simp only [encodeChar]
  generalize c.toNat = n at range same
  split
  · next one =>
    have value := toNat_toUInt8 (show n < 0x100 by omega)
    rw [List.singleton_append, decodeOnto_one _ _ _ (by omega), value, same]
    rfl
  split
  · next one two =>
    have lead := toNat_toUInt8 (show 0xC0 + n / 0x40 < 0x100 by omega)
    have fits : secondFits (0xC0 + n / 0x40).toUInt8 (0x80 + n % 0x40).toUInt8 = true := by
      rw [secondFits_iff, lead, toNat_following]
      omega
    have value : (0xC0 + n / 0x40) % 0x20 * 0x40 + n % 0x40 = n := by omega
    rw [List.cons_append, List.singleton_append, decodeOnto_two _ _ _ (by omega) (by omega) fits,
      payload_following, lead, value, same]
    rfl
  split
  · next one two three =>
    have lead := toNat_toUInt8 (show 0xE0 + n / 0x1000 < 0x100 by omega)
    have fits : secondFits (0xE0 + n / 0x1000).toUInt8 (0x80 + n / 0x40 % 0x40).toUInt8 = true := by
      rw [secondFits_iff, lead, toNat_following]
      omega
    have value : (0xE0 + n / 0x1000) % 0x10 * 0x1000 + n / 0x40 % 0x40 * 0x40 + n % 0x40 = n := by omega
    rw [List.cons_append, List.cons_append, List.singleton_append,
      decodeOnto_three _ _ _ (by omega) (by omega) fits (isContinuation_following n), payload_following,
      payload_following, lead, value, same]
    rfl
  · next one two three =>
    have lead := toNat_toUInt8 (show 0xF0 + n / 0x40000 < 0x100 by omega)
    have fits : secondFits (0xF0 + n / 0x40000).toUInt8 (0x80 + n / 0x1000 % 0x40).toUInt8 = true := by
      rw [secondFits_iff, lead, toNat_following]
      omega
    have value : (0xF0 + n / 0x40000) % 0x08 * 0x40000 + n / 0x1000 % 0x40 * 0x1000 +
        n / 0x40 % 0x40 * 0x40 + n % 0x40 = n := by omega
    rw [List.cons_append, List.cons_append, List.cons_append, List.singleton_append,
      decodeOnto_four _ _ _ (by omega) (by omega) fits (isContinuation_following _) (isContinuation_following n),
      payload_following, payload_following, payload_following, lead, value, same]
    rfl

theorem decodeOnto_encode (done : Text) (position : Nat) (text : Text) :
    decodeOnto done position (encode text) = .ok (done.reverse ++ text) := by
  induction text generalizing done position with
  | nil => rw [encode, List.flatMap_nil, decodeOnto, List.append_nil]
  | cons c text ih =>
    rw [encode, List.flatMap_cons, decodeOnto_encodeChar, ← encode, ih, List.reverse_cons, List.append_assoc,
      List.singleton_append]

theorem decode_encode (text : Text) : decode (encode text) = .ok text :=
  decodeOnto_encode [] 0 text

theorem encode_injective {text other : Text} (same : encode text = encode other) : text = other :=
  Except.ok.inj ((decode_encode text).symm.trans (same ▸ decode_encode other))

theorem toNat_ofNat {n : Nat} (valid : n.isValidChar) : (Char.ofNat n).toNat = n := by
  rw [Char.ofNat, dif_pos valid]
  rfl

private theorem toUInt8_eq {n : Nat} {a : UInt8} (same : a.toNat = n) : n.toUInt8 = a := by
  have small := a.toNat_lt
  rw [← UInt8.toNat_inj, toNat_toUInt8 (by omega), same]

theorem encodeChar_one {a : UInt8} (lead : a.toNat < 0x80) : encodeChar (Char.ofNat a.toNat) = [a] := by
  have valid : a.toNat.isValidChar := Or.inl (by omega)
  rw [encodeChar, toNat_ofNat valid, if_pos lead, toUInt8_eq rfl]

theorem encodeChar_two {a b : UInt8} (low : 0xC2 ≤ a.toNat) (high : a.toNat < 0xE0)
    (fits : secondFits a b = true) :
    encodeChar (Char.ofNat (a.toNat % 0x20 * 0x40 + payload b)) = [a, b] := by
  have second := secondFits_iff.mp fits
  rw [payload]
  have valid : (a.toNat % 0x20 * 0x40 + b.toNat % 0x40).isValidChar := Or.inl (by omega)
  rw [encodeChar, toNat_ofNat valid, if_neg (by omega), if_pos (by omega), toUInt8_eq (a := a) (by omega),
    toUInt8_eq (a := b) (by omega)]

theorem encodeChar_three {a b c : UInt8} (low : 0xE0 ≤ a.toNat) (high : a.toNat < 0xF0)
    (fits : secondFits a b = true) (third : isContinuation c = true) :
    encodeChar (Char.ofNat (a.toNat % 0x10 * 0x1000 + payload b * 0x40 + payload c)) = [a, b, c] := by
  have second := secondFits_iff.mp fits
  have last := isContinuation_iff.mp third
  rw [payload, payload]
  have valid : (a.toNat % 0x10 * 0x1000 + b.toNat % 0x40 * 0x40 + c.toNat % 0x40).isValidChar := by
    simp only [Nat.isValidChar]
    omega
  rw [encodeChar, toNat_ofNat valid, if_neg (by omega), if_neg (by omega), if_pos (by omega),
    toUInt8_eq (a := a) (by omega), toUInt8_eq (a := b) (by omega), toUInt8_eq (a := c) (by omega)]

theorem encodeChar_four {a b c d : UInt8} (low : 0xF0 ≤ a.toNat) (high : a.toNat ≤ 0xF4)
    (fits : secondFits a b = true) (third : isContinuation c = true) (fourth : isContinuation d = true) :
    encodeChar (Char.ofNat (a.toNat % 0x08 * 0x40000 + payload b * 0x1000 + payload c * 0x40 + payload d)) =
      [a, b, c, d] := by
  have second := secondFits_iff.mp fits
  have between := isContinuation_iff.mp third
  have last := isContinuation_iff.mp fourth
  rw [payload, payload, payload]
  have valid : (a.toNat % 0x08 * 0x40000 + b.toNat % 0x40 * 0x1000 + c.toNat % 0x40 * 0x40 +
      d.toNat % 0x40).isValidChar := by
    simp only [Nat.isValidChar]
    omega
  rw [encodeChar, toNat_ofNat valid, if_neg (by omega), if_neg (by omega), if_neg (by omega),
    toUInt8_eq (a := a) (by omega), toUInt8_eq (a := b) (by omega), toUInt8_eq (a := c) (by omega),
    toUInt8_eq (a := d) (by omega)]

private theorem encode_step {done text : Text} {c : Char} {first rest : Bytes} (written : encodeChar c = first)
    (further : ∃ more, text = (c :: done).reverse ++ more ∧ rest = encode more) :
    ∃ more, text = done.reverse ++ more ∧ first ++ rest = encode more := by
  obtain ⟨more, rfl, rfl⟩ := further
  refine ⟨c :: more, ?_, ?_⟩
  · rw [List.reverse_cons, List.append_assoc, List.singleton_append]
  · rw [← written, encode, encode, List.flatMap_cons]

theorem decodeOnto_eq_ok {done text : Text} {position : Nat} {bytes : Bytes}
    (read : decodeOnto done position bytes = .ok text) :
    ∃ more, text = done.reverse ++ more ∧ bytes = encode more := by
  fun_induction decodeOnto done position bytes with
  | case1 => exact ⟨[], by rw [List.append_nil, Except.ok.inj read], rfl⟩
  | case2 done position a rest one ih =>
    exact encode_step (encodeChar_one (UInt8.lt_iff_toNat_lt.mp one)) (ih read)
  | case6 done position a large lead b rest fits two ih =>
    simp only [Bool.or_eq_true, decide_eq_true_eq, UInt8.lt_iff_toNat_lt, UInt8.reduceToNat] at lead two
    simp only [Bool.not_eq_true', Bool.not_eq_false] at fits
    exact encode_step (encodeChar_two (by omega) two fits) (ih read)
  | case9 done position a large lead b fits two c rest third three ih =>
    simp only [UInt8.lt_iff_toNat_lt, UInt8.reduceToNat] at two three
    simp only [Bool.not_eq_true', Bool.not_eq_false] at fits third
    exact encode_step (encodeChar_three (by omega) three fits third) (ih read)
  | case12 done position a large lead b fits two c third three d rest fourth ih =>
    simp only [Bool.or_eq_true, decide_eq_true_eq, UInt8.lt_iff_toNat_lt, UInt8.reduceToNat] at lead three
    simp only [Bool.not_eq_true', Bool.not_eq_false] at fits third fourth
    exact encode_step (encodeChar_four (by omega) (by omega) fits third fourth) (ih read)
  | _ => cases read

/-- Reading is strict: what is read as a text are the bytes of that text. -/
theorem decode_eq_ok {bytes : Bytes} {text : Text} : decode bytes = .ok text ↔ bytes = encode text := by
  constructor
  · intro read
    obtain ⟨more, rfl, rfl⟩ := decodeOnto_eq_ok read
    rfl
  · rintro rfl
    exact decode_encode text

end ProjectSurvey.Utf8
