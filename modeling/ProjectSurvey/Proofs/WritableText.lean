import ProjectSurvey.Proofs.PathText
import ProjectSurvey.Proofs.PlainText
import ProjectSurvey.Proofs.SmallText
import ProjectSurvey.Proofs.TextPieces

/-! Texts without lone surrogates. They can be written in UTF-8, and so can what is put together from them. -/

namespace ProjectSurvey.Text

/-- Whether no character of a text stands for a lone surrogate. -/
def IsWritable (text : Text) : Prop :=
  ∀ c ∈ text, surrogate? c = none

instance (text : Text) : Decidable text.IsWritable :=
  List.decidableBAll _ text

theorem IsPlain.isWritable {text : Text} (plain : text.IsPlain) : text.IsWritable :=
  fun c member => surrogate?_of_small (plain c member).2

theorem isWritable_ofNat (n : Nat) : (ofNat n).IsWritable :=
  (isOneLine_ofNat n).isPlain.isWritable

@[simp] theorem isWritable_nil : IsWritable [] :=
  List.forall_mem_nil _

@[simp] theorem isWritable_append {a b : Text} : (a ++ b).IsWritable ↔ a.IsWritable ∧ b.IsWritable :=
  List.forall_mem_append

@[simp] theorem isWritable_cons {c : Char} {text : Text} :
    IsWritable (c :: text) ↔ surrogate? c = none ∧ text.IsWritable :=
  List.forall_mem_cons

theorem isWritable_replicate {c : Char} (writable : surrogate? c = none) (n : Nat) :
    IsWritable (List.replicate n c) := by
  intro d member
  rwa [List.eq_of_mem_replicate member]

theorem isWritable_flatten {texts : List Text} : IsWritable texts.flatten ↔ ∀ text ∈ texts, text.IsWritable := by
  constructor
  · exact fun writable text member c inside => writable c (List.mem_flatten_of_mem member inside)
  · intro writable c member
    obtain ⟨text, among, inside⟩ := List.mem_flatten.mp member
    exact writable text among c inside

theorem isWritable_join {separator : Text} (between : separator.IsWritable) {texts : List Text}
    (writable : ∀ text ∈ texts, text.IsWritable) : (join separator texts).IsWritable :=
  forall_mem_join between writable

theorem isWritable_unlines {lines : List Text} (writable : ∀ line ∈ lines, line.IsWritable) :
    (unlines lines).IsWritable :=
  isWritable_join (by decide) writable

/-- What has no other characters than a text can be written if the text can be. -/
theorem IsWritable.of_subset {text part : Text} (writable : text.IsWritable) (inside : part ⊆ text) :
    part.IsWritable :=
  fun c member => writable c (inside member)

theorem IsWritable.take {text : Text} (writable : text.IsWritable) (n : Nat) : IsWritable (text.take n) :=
  writable.of_subset (List.take_subset n text)

theorem IsWritable.filter {text : Text} (writable : text.IsWritable) (keeps : Char → Bool) :
    IsWritable (text.filter keeps) :=
  fun c member => writable c (List.mem_filter.mp member).1

theorem trimEnd_subset (drop : Char → Bool) (text : Text) : trimEnd drop text ⊆ text := by
  intro c member
  have inside := (List.dropWhile_sublist drop).subset (List.mem_reverse.mp member)
  exact List.mem_reverse.mp inside

theorem trim_subset (drop : Char → Bool) (text : Text) : trim drop text ⊆ text :=
  fun _ member => (List.dropWhile_sublist drop).subset (trimEnd_subset drop _ member)

/-- The pieces between separators hold characters of the text. -/
theorem subset_of_mem_splitWhere (separates : Char → Bool) (text : Text) :
    ∀ piece ∈ splitWhere separates text, piece ⊆ text := by
  induction text with
  | nil => simp [splitWhere]
  | cons c text ih =>
    have later : ∀ piece ∈ splitWhere separates text, piece ⊆ c :: text :=
      fun piece member => List.subset_cons_of_subset c (ih piece member)
    rw [splitWhere, List.foldr_cons, ← splitWhere]
    split
    · exact List.forall_mem_cons.mpr ⟨List.nil_subset _, later⟩
    · cases found : splitWhere separates text with
      | nil => exact List.forall_mem_singleton.mpr (List.cons_subset_cons c (List.nil_subset text))
      | cons piece others =>
        rw [found] at ih later
        exact List.forall_mem_cons.mpr ⟨List.cons_subset_cons c (ih piece List.mem_cons_self),
          (List.forall_mem_cons.mp later).2⟩

theorem isWritable_of_mem_lines {text : Text} (writable : text.IsWritable) :
    ∀ line ∈ text.lines, line.IsWritable :=
  fun line member => writable.of_subset (subset_of_mem_splitWhere _ text line member)

theorem surrogate?_of_lt {c : Char} (below : c.toNat < standInDistance) : surrogate? c = none := by
  simp [surrogate?, Nat.not_le.mpr below]

/-- No range of small letters reaches the characters that stand for lone surrogates. -/
theorem surrogate?_of_image {range : CaseRange} (member : range ∈ asciiRange :: loweringRanges) {n : Nat}
    {small : Char} (found : range.image? n = some small.toNat) : surrogate? small = none := by
  have bound : ∀ range ∈ asciiRange :: loweringRanges, range.last + range.shift < standInDistance := by
    decide +kernel
  have below := bound range member
  obtain ⟨⟨-, last, -⟩, image⟩ := CaseRange.image?_eq_some.mp found
  have positive : 0 < standInDistance := by decide
  exact surrogate?_of_lt (by omega)

theorem isWritable_lowerChar {c : Char} (writable : surrogate? c = none) : (lowerChar c).IsWritable := by
  rcases lowerChar_cases c with rfl | ⟨-, same⟩ | ⟨range, member, small, mapped, same⟩
  · rw [special_letters.1]
    decide
  · rw [same]
    exact isWritable_cons.mpr ⟨writable, isWritable_nil⟩
  · rw [same]
    exact isWritable_cons.mpr ⟨surrogate?_of_image member mapped, isWritable_nil⟩

theorem isWritable_lower {text : Text} (writable : text.IsWritable) : text.lower.IsWritable := by
  have onto (afterCased : Bool) : (lowerOnto [] afterCased text).IsWritable := by
    induction text generalizing afterCased with
    | nil => exact isWritable_nil
    | cons c rest ih =>
      obtain ⟨first, others⟩ := isWritable_cons.mp writable
      rw [lowerOnto_cons, lowerAt]
      refine isWritable_append.mpr ⟨?_, ih others _⟩
      split
      · split <;> decide
      · exact isWritable_lowerChar first
  exact onto false

theorem surrogate?_ofNat {n : Nat} (below : n < standInDistance) : surrogate? (Char.ofNat n) = none := by
  refine surrogate?_of_lt ?_
  by_cases valid : n.isValidChar
  · rw [Char.ofNat, dif_pos valid]
    exact below
  · rw [Char.ofNat, dif_neg valid]
    decide

theorem isWritable_upperChar {c : Char} (writable : surrogate? c = none) : (upperChar c).IsWritable := by
  have expansions : ∀ entry ∈ raisingExpansions, ∀ n ∈ entry.2, n < standInDistance := by decide
  have ranges : ∀ range ∈ raisingRanges, range.last + range.shift < standInDistance := by decide +kernel
  have positive : 0 < standInDistance := by decide
  rw [upperChar]
  split
  · next below =>
    have raised : surrogate? c.toUpper = none := forall_ascii c below (by decide)
    exact isWritable_cons.mpr ⟨raised, isWritable_nil⟩
  · split
    · next entry there =>
      exact List.forall_mem_map.mpr fun n member =>
        surrogate?_ofNat (expansions _ (List.mem_of_find?_eq_some there) n member)
    · split
      · next n found =>
        obtain ⟨range, member, image⟩ := List.exists_of_findSome?_eq_some found
        obtain ⟨⟨-, last, -⟩, rfl⟩ := CaseRange.image?_eq_some.mp image
        have below := ranges range member
        exact isWritable_cons.mpr ⟨surrogate?_ofNat (by omega), isWritable_nil⟩
      · exact isWritable_cons.mpr ⟨writable, isWritable_nil⟩

theorem isWritable_upper {text : Text} (writable : text.IsWritable) : text.upper.IsWritable := by
  intro c member
  obtain ⟨d, inside, raised⟩ := List.mem_flatMap.mp member
  exact isWritable_upperChar (writable d inside) c raised

end ProjectSurvey.Text
