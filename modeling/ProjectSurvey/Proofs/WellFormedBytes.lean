import ProjectSurvey.Proofs.EncodedText

/-! What UTF-8 is, said apart from how it is read. Bytes of one of four forms carry a number in the bits that the
form leaves free. They stand for it if no fewer bytes carry it and it is the number of a character. Bytes are read
as a text exactly if they are such bytes for its characters, one after another. -/

namespace ProjectSurvey.Utf8

/-- Whether a byte has the form `10xxxxxx`. -/
def GoesOn (b : UInt8) : Prop :=
  b.toNat / 0x40 = 0b10

/-- Bytes that carry a number, whether or not fewer could. -/
inductive Carries : Bytes → Nat → Prop where
  /-- The form is `0xxxxxxx`. -/
  | one {a n} (lead : a.toNat / 0x80 = 0b0) (value : n = a.toNat % 0x80) : Carries [a] n
  /-- The first byte has the form `110xxxxx`. -/
  | two {a b n} (lead : a.toNat / 0x20 = 0b110) (second : GoesOn b)
      (value : n = a.toNat % 0x20 * 0x40 + b.toNat % 0x40) : Carries [a, b] n
  /-- The first byte has the form `1110xxxx`. -/
  | three {a b c n} (lead : a.toNat / 0x10 = 0b1110) (second : GoesOn b) (third : GoesOn c)
      (value : n = a.toNat % 0x10 * 0x1000 + b.toNat % 0x40 * 0x40 + c.toNat % 0x40) : Carries [a, b, c] n
  /-- The first byte has the form `11110xxx`. -/
  | four {a b c d n} (lead : a.toNat / 0x08 = 0b11110) (second : GoesOn b) (third : GoesOn c) (fourth : GoesOn d)
      (value : n = a.toNat % 0x08 * 0x40000 + b.toNat % 0x40 * 0x1000 + c.toNat % 0x40 * 0x40 + d.toNat % 0x40) :
      Carries [a, b, c, d] n

/-- The bytes that stand for a number: no overlong ones, none for a surrogate and none for what lies above the last
character. -/
structure StandsFor (bytes : Bytes) (n : Nat) : Prop where
  carries : Carries bytes n
  shortest : ∀ other, Carries other n → bytes.length ≤ other.length
  noSurrogate : ¬ (0xD800 ≤ n ∧ n ≤ 0xDFFF)
  inRange : n ≤ 0x10FFFF

/-- Bytes that stand for numbers, one after another. -/
inductive Spells : Bytes → List Nat → Prop where
  | nil : Spells [] []
  | cons {first rest n numbers} (start : StandsFor first n) (onward : Spells rest numbers) :
      Spells (first ++ rest) (n :: numbers)

def IsWellFormed (bytes : Bytes) : Prop :=
  ∃ numbers, Spells bytes numbers

theorem goesOn_following (n : Nat) : GoesOn (0x80 + n % 0x40).toUInt8 := by
  rw [GoesOn, toNat_following]
  omega

theorem carries_encodeChar (c : Char) : Carries (encodeChar c) c.toNat := by
  have range := toNat_range c
  simp only [encodeChar]
  generalize c.toNat = n at range
  split
  · next one =>
    have lead := toNat_toUInt8 (show n < 0x100 by omega)
    exact .one (by omega) (by omega)
  split
  · next one two =>
    have lead := toNat_toUInt8 (show 0xC0 + n / 0x40 < 0x100 by omega)
    refine .two (by omega) (goesOn_following n) ?_
    rw [lead, toNat_following]
    omega
  split
  · next one two three =>
    have lead := toNat_toUInt8 (show 0xE0 + n / 0x1000 < 0x100 by omega)
    refine .three (by omega) (goesOn_following _) (goesOn_following n) ?_
    rw [lead, toNat_following, toNat_following]
    omega
  · next one two three =>
    have lead := toNat_toUInt8 (show 0xF0 + n / 0x40000 < 0x100 by omega)
    refine .four (by omega) (goesOn_following _) (goesOn_following _) (goesOn_following n) ?_
    rw [lead, toNat_following, toNat_following, toNat_following]
    omega

/-- How many bytes are written for a character is decided by its number alone. -/
theorem length_encodeChar (c : Char) : (encodeChar c).length =
    if c.toNat < 0x80 then 1 else if c.toNat < 0x800 then 2 else if c.toNat < 0x10000 then 3 else 4 := by
  simp only [encodeChar]
  split_ifs <;> rfl

theorem Carries.length_encodeChar_le {bytes : Bytes} {c : Char} (carries : Carries bytes c.toNat) :
    (encodeChar c).length ≤ bytes.length := by
  rw [length_encodeChar]
  cases carries <;> simp only [List.length_cons, List.length_nil] <;> split_ifs <;> omega

/-- As many bytes carry a number in one way only. -/
theorem Carries.unique {bytes other : Bytes} {n : Nat} (carries : Carries bytes n) (also : Carries other n)
    (length : bytes.length = other.length) : bytes = other := by
  cases carries <;> cases also <;> cases length <;>
    simp only [GoesOn, List.cons.injEq, and_true, ← UInt8.toNat_inj] at * <;> omega

theorem standsFor_encodeChar (c : Char) : StandsFor (encodeChar c) c.toNat := by
  have range := toNat_range c
  exact ⟨carries_encodeChar c, fun _ carries => carries.length_encodeChar_le, by omega, by omega⟩

/-- Only the bytes that are written for a character stand for it. -/
theorem standsFor_iff {bytes : Bytes} {n : Nat} :
    StandsFor bytes n ↔ ∃ c : Char, c.toNat = n ∧ bytes = encodeChar c := by
  constructor
  · rintro ⟨carries, shortest, noSurrogate, inRange⟩
    have valid : n.isValidChar := by
      rw [Nat.isValidChar]
      omega
    obtain ⟨c, rfl⟩ : ∃ c : Char, c.toNat = n := ⟨Char.ofNat n, toNat_ofNat valid⟩
    have written := carries_encodeChar c
    exact ⟨c, rfl, carries.unique written (Nat.le_antisymm (shortest _ written) carries.length_encodeChar_le)⟩
  · rintro ⟨c, rfl, rfl⟩
    exact standsFor_encodeChar c

theorem spells_encode (text : Text) : Spells (encode text) (text.map Char.toNat) := by
  induction text with
  | nil => exact .nil
  | cons c text ih => exact .cons (standsFor_encodeChar c) ih

theorem Spells.exists_text {bytes : Bytes} {numbers : List Nat} (spells : Spells bytes numbers) :
    ∃ text : Text, text.map Char.toNat = numbers ∧ bytes = encode text := by
  induction spells with
  | nil => exact ⟨[], rfl, rfl⟩
  | cons start onward ih =>
    obtain ⟨c, rfl, rfl⟩ := standsFor_iff.mp start
    obtain ⟨text, rfl, rfl⟩ := ih
    exact ⟨c :: text, rfl, rfl⟩

theorem spells_iff {bytes : Bytes} {text : Text} : Spells bytes (text.map Char.toNat) ↔ bytes = encode text := by
  constructor
  · intro spells
    obtain ⟨other, same, rfl⟩ := spells.exists_text
    rw [(List.map_inj_right fun _ _ => Char.toNat_inj.mp).mp same]
  · rintro rfl
    exact spells_encode text

theorem isWellFormed_iff {bytes : Bytes} : IsWellFormed bytes ↔ ∃ text, bytes = encode text := by
  constructor
  · rintro ⟨numbers, spells⟩
    obtain ⟨text, -, written⟩ := spells.exists_text
    exact ⟨text, written⟩
  · rintro ⟨text, rfl⟩
    exact ⟨_, spells_encode text⟩

/-- Bytes are read as a text exactly if they spell the numbers of its characters. -/
theorem decode_eq_ok_iff_spells {bytes : Bytes} {text : Text} :
    decode bytes = .ok text ↔ Spells bytes (text.map Char.toNat) :=
  decode_eq_ok.trans spells_iff.symm

theorem Carries.eq_zero {bytes : Bytes} {n : Nat} (carries : Carries bytes n) (zero : 0 ∈ bytes) : n = 0 := by
  cases carries <;>
    simp only [GoesOn, List.mem_cons, List.not_mem_nil, or_false, ← UInt8.toNat_inj, UInt8.toNat_zero] at * <;> omega

/-- A byte of zero is a character of its own and part of no other. -/
theorem zero_mem_encode {text : Text} : 0 ∈ encode text ↔ Char.ofNat 0 ∈ text := by
  rw [encode, List.mem_flatMap]
  constructor
  · rintro ⟨c, member, zero⟩
    rw [← (carries_encodeChar c).eq_zero zero, Char.ofNat_toNat]
    exact member
  · intro member
    exact ⟨_, member, by decide⟩

/-- The bytes of a text begin with those of a character only if the text begins with it. -/
theorem encodeChar_prefix_encode {c : Char} {text : Text} :
    encodeChar c <+: encode text ↔ text.head? = some c := by
  constructor
  · rintro ⟨rest, written⟩
    have read := decode_eq_ok.mpr written
    rw [decode, decodeOnto_encodeChar] at read
    obtain ⟨more, rfl, -⟩ := decodeOnto_eq_ok read
    rfl
  · intro first
    obtain ⟨rest, rfl⟩ := List.head?_eq_some_iff.mp first
    exact List.prefix_append _ _

end ProjectSurvey.Utf8
