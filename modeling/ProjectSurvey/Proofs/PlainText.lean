import ProjectSurvey.Json.Encoding
import ProjectSurvey.Proofs.EncodedText
import ProjectSurvey.Proofs.Numerals

/-! Texts of ASCII characters other than NUL: they are printed and told as they are, each character is
one byte, and the bytes are read back as the text. -/

namespace ProjectSurvey

namespace Text

/-- Whether a text is made of ASCII characters other than NUL. -/
def IsPlain (text : Text) : Prop :=
  ∀ c ∈ text, 0 < c.toNat ∧ c.toNat < 0x80

instance (text : Text) : Decidable text.IsPlain :=
  List.decidableBAll _ text

theorem isPlain_nil : IsPlain [] :=
  fun _ member => by cases member

theorem isPlain_append {a b : Text} : (a ++ b).IsPlain ↔ a.IsPlain ∧ b.IsPlain := by
  exact List.forall_mem_append

theorem isPlain_cons {c : Char} {text : Text} :
    IsPlain (c :: text) ↔ (0 < c.toNat ∧ c.toNat < 0x80) ∧ text.IsPlain := by
  simp only [IsPlain, List.mem_cons, forall_eq_or_imp]

theorem forall_mem_join {holds : Char → Prop} {separator : Text} {texts : List Text}
    (between : ∀ c ∈ separator, holds c) (all : ∀ text ∈ texts, ∀ c ∈ text, holds c) :
    ∀ c ∈ join separator texts, holds c := by
  unfold join
  induction texts with
  | nil => exact List.forall_mem_nil _
  | cons text texts ih =>
    obtain ⟨first, rest⟩ := List.forall_mem_cons.mp all
    cases texts with
    | nil => rwa [List.intercalate_singleton]
    | cons other texts =>
      rw [List.intercalate_cons_cons]
      exact List.forall_mem_append.mpr ⟨List.forall_mem_append.mpr ⟨first, between⟩, ih rest⟩

/-- Whether a text is made of ASCII characters from the blank on, among which is no line feed. -/
def IsOneLine (text : Text) : Prop :=
  ∀ c ∈ text, 0x20 ≤ c.toNat ∧ c.toNat < 0x80

instance (text : Text) : Decidable text.IsOneLine :=
  List.decidableBAll _ text

theorem IsOneLine.isPlain {text : Text} (single : text.IsOneLine) : text.IsPlain := by
  intro c member
  have bounds := single c member
  omega

theorem IsOneLine.feed_not_mem {text : Text} (single : text.IsOneLine) : '\n' ∉ text := by
  intro member
  have bounds := single '\n' member
  revert bounds
  decide

theorem isOneLine_append {a b : Text} : (a ++ b).IsOneLine ↔ a.IsOneLine ∧ b.IsOneLine :=
  List.forall_mem_append

theorem isOneLine_of_isDecimalDigit {text : Text} (all : ∀ c ∈ text, isDecimalDigit c = true) :
    text.IsOneLine := by
  intro c member
  have digit := all c member
  simp only [isDecimalDigit, Bool.and_eq_true, decide_eq_true_eq] at digit
  have low : '0'.toNat ≤ c.toNat := digit.1
  have high : c.toNat ≤ '9'.toNat := digit.2
  have bounds : '0'.toNat = 48 ∧ '9'.toNat = 57 := by decide
  omega

theorem isOneLine_padded {base : Nat} (large : 1 < base) (small : base ≤ 16) (width n : Nat) :
    (padded base width n).IsOneLine := by
  have digits : ∀ digit < 16, 0x20 ≤ (Nat.digitChar digit).toNat ∧ (Nat.digitChar digit).toNat < 0x80 := by
    decide
  refine isOneLine_append.mpr ⟨?_, ?_⟩
  · intro c member
    rw [List.eq_of_mem_replicate member]
    decide
  · intro c member
    obtain ⟨digit, below, rfl⟩ := mem_toDigits large member
    exact digits digit (Nat.lt_of_lt_of_le below small)

theorem isOneLine_ofNat (n : Nat) : (ofNat n).IsOneLine :=
  isOneLine_of_isDecimalDigit fun _ => isDecimalDigit_of_mem

theorem surrogate?_of_small {c : Char} (small : c.toNat < 0x80) : surrogate? c = none := by
  have below : ¬ standInDistance ≤ c.toNat := by
    simp only [standInDistance]
    omega
  simp [surrogate?, below]

theorem unencodable?_of_isPlain {text : Text} (isRefused : Nat → Bool) (plain : text.IsPlain) :
    unencodable? isRefused text = none := by
  have none : text.findIdx (fun c => (surrogate? c).any isRefused) = text.length :=
    List.findIdx_eq_length.mpr fun c member => by rw [surrogate?_of_small (plain c member).2]; rfl
  simp only [unencodable?, none, List.drop_length]

theorem withEscapedSurrogates_of_isPlain {text : Text} (plain : text.IsPlain) :
    withEscapedSurrogates text = text := by
  induction text with
  | nil => rfl
  | cons c text ih =>
    obtain ⟨first, rest⟩ := isPlain_cons.mp plain
    have ih := ih rest
    simp only [withEscapedSurrogates] at ih ⊢
    rw [List.flatMap_cons, ih, surrogate?_of_small first.2]
    rfl

end Text

/-- Whether bytes are those of ASCII characters other than NUL. -/
private def ArePlain (bytes : Bytes) : Prop :=
  ∀ b ∈ bytes, 0 < b.toNat ∧ b.toNat < 0x80

namespace Utf8

theorem encode_of_isPlain {text : Text} (plain : text.IsPlain) :
    encode text = text.map fun c => c.toNat.toUInt8 := by
  induction text with
  | nil => rfl
  | cons c text ih =>
    obtain ⟨first, rest⟩ := Text.isPlain_cons.mp plain
    have ih := ih rest
    simp only [encode] at ih ⊢
    rw [List.flatMap_cons, ih, encodeChar, if_pos first.2]
    rfl

theorem length_encode_of_isPlain {text : Text} (plain : text.IsPlain) :
    (encode text).length = text.length := by
  rw [encode_of_isPlain plain, List.length_map]

private theorem arePlain_encode {text : Text} (plain : text.IsPlain) : ArePlain (encode text) := by
  rw [encode_of_isPlain plain]
  intro b member
  obtain ⟨c, inside, rfl⟩ := List.mem_map.mp member
  have bounds := plain c inside
  have same : c.toNat.toUInt8.toNat = c.toNat := by
    rw [Nat.toUInt8, UInt8.toNat_ofNat']
    omega
  rwa [same]

end Utf8

namespace Json

private theorem encodingOf_of_arePlain {bytes : Bytes} (plain : ArePlain bytes) :
    encodingOf bytes = (.utf8, 0) := by
  have least {b : UInt8} (member : b ∈ bytes) : b ≠ 0 ∧ b ≠ 0xFE ∧ b ≠ 0xFF ∧ b ≠ 0xEF := by
    have bounds := plain b member
    refine ⟨?_, ?_, ?_, ?_⟩ <;> rintro rfl <;> revert bounds <;> decide
  cases bytes with
  | nil => rfl
  | cons a rest =>
    have first := least List.mem_cons_self
    simp only [encodingOf, List.isPrefixOf_cons_cons, beq_iff_eq, Bool.and_eq_true, first.1.symm,
      first.2.1.symm, first.2.2.1.symm, first.2.2.2.symm, false_and, ite_false]
    split
    · next same =>
      cases same
      rw [if_neg first.1, if_neg (least (List.mem_cons_of_mem _ List.mem_cons_self)).1]
    · next same =>
      cases same
      rw [if_neg first.1, if_neg (least (List.mem_cons_of_mem _ List.mem_cons_self)).1]
    · rfl

private theorem keepSurrogates_of_arePlain {bytes : Bytes} (plain : ArePlain bytes) :
    keepSurrogates bytes = bytes := by
  induction bytes with
  | nil => simp [keepSurrogates]
  | cons b rest ih =>
    have other : b ≠ 0xED := by
      have bounds := plain b List.mem_cons_self
      rintro rfl
      revert bounds
      decide
    have ih := ih fun b member => plain b (List.mem_cons_of_mem _ member)
    unfold keepSurrogates
    split <;> simp_all

theorem decodeBytes?_encode {text : Text} (plain : text.IsPlain) :
    decodeBytes? (Utf8.encode text) = some text := by
  have bytes := Utf8.arePlain_encode plain
  simp only [decodeBytes?, encodingOf_of_arePlain bytes, List.drop_zero,
    keepSurrogates_of_arePlain bytes, Utf8.decode_encode]
  rfl

end Json

end ProjectSurvey
