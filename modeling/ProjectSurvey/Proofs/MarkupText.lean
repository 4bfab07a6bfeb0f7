import ProjectSurvey.Proofs.FaultKinds
import ProjectSurvey.Proofs.WritableText
import ProjectSurvey.Terminal.Markup

/-! What marked-up texts show. Reading one takes tags and backslashes away and puts emoji in, so that what is shown
can be written wherever the text can; and only a text with a bracket may be one that cannot be read. -/

namespace ProjectSurvey.Terminal

open Text

variable {text plain : Text}

theorem isWritable_of_mem_emojiTable : ∀ entry ∈ emojiTable, entry.1.IsWritable := by
  decide +kernel

theorem isWritable_of_mem_tonedEmojiTable : ∀ entry ∈ tonedEmojiTable, entry.1.IsWritable := by
  decide +kernel

theorem isWritable_of_mem_emojiNames : ∀ entry ∈ emojiNames, entry.2.IsWritable := by
  have tones : ∀ tone ∈ skinTones, surrogate? tone.2 = none := by decide
  refine List.forall_mem_append.mpr ⟨?_, ?_⟩
  · intro entry member
    obtain ⟨row, among, inside⟩ := List.mem_flatMap.mp member
    obtain ⟨name, -, rfl⟩ := List.mem_map.mp inside
    obtain ⟨written, listed, rfl⟩ := List.mem_map.mp among
    exact isWritable_of_mem_emojiTable written listed
  · intro entry member
    obtain ⟨row, among, coloured⟩ := List.mem_flatMap.mp member
    obtain ⟨tone, known, inside⟩ := List.mem_flatMap.mp coloured
    obtain ⟨name, -, rfl⟩ := List.mem_map.mp inside
    obtain ⟨written, listed, rfl⟩ := List.mem_map.mp among
    refine List.forall_mem_map.mpr fun c here => ?_
    split
    · exact tones tone known
    · exact isWritable_of_mem_tonedEmojiTable written listed c here

theorem isWritable_of_emojiOf? {code emoji : Text} (found : emojiOf? code = some emoji) : emoji.IsWritable := by
  have marks : ∀ variant ∈ emojiVariants, surrogate? variant.2 = none := by decide
  have named {name emoji : Text} (found : (emojiNames.find? (·.1 == lower name)).map (·.2) = some emoji) :
      emoji.IsWritable := by
    obtain ⟨entry, there, rfl⟩ := Option.map_eq_some_iff.mp found
    exact isWritable_of_mem_emojiNames entry (List.mem_of_find?_eq_some there)
  rw [emojiOf?] at found
  split at found
  · next asked =>
    obtain ⟨shown, there, rfl⟩ := Option.map_eq_some_iff.mp found
    have mark := marks _ (List.mem_of_find?_eq_some asked)
    exact isWritable_append.mpr ⟨named there, isWritable_cons.mpr ⟨mark, isWritable_nil⟩⟩
  · exact named found

theorem isWritable_withEmoji (writable : text.IsWritable) : (withEmoji text).IsWritable := by
  have after (skipped : Nat) : (withEmojiAfter skipped text).IsWritable := by
    induction text generalizing skipped with
    | nil => exact isWritable_nil
    | cons c rest ih =>
      obtain ⟨first, others⟩ := isWritable_cons.mp writable
      have ih := ih others
      cases skipped with
      | succ skipped => exact ih skipped
      | zero =>
        rw [withEmojiAfter]
        split
        · next code found =>
          refine isWritable_append.mpr ⟨?_, ih _⟩
          cases known : emojiOf? code with
          | some emoji => exact isWritable_of_emojiOf? known
          | none =>
            have colon : IsWritable [':'] := by decide
            have inside : code ⊆ rest := by
              split at found
              · rw [codeAt?] at found
                split at found
                · cases found
                  exact (List.takeWhile_sublist _).subset
                · cases found
              · cases found
            exact isWritable_append.mpr ⟨isWritable_append.mpr ⟨colon, others.of_subset inside⟩, colon⟩
        · exact isWritable_cons.mpr ⟨first, ih 0⟩
  exact after 0

theorem unescaped_subset (text : Text) : unescaped text ⊆ text := by
  fun_induction unescaped text with
  | case1 rest ih => exact List.Subset.trans (List.cons_subset_cons _ ih) (List.subset_cons_self _ _)
  | case2 c rest _ ih => exact List.cons_subset_cons _ ih
  | case3 => exact List.Subset.refl _

theorem tagContent?_subset {content : Text} (found : tagContent? text = some content) : content ⊆ text := by
  rw [tagContent?.eq_def] at found
  split at found
  · dsimp only at found
    split at found
    · cases found
      exact List.Subset.trans (List.cons_subset_cons _ (List.takeWhile_sublist _).subset) (List.subset_cons_self _ _)
    · cases found
  · cases found

def Marked.IsWritable : Marked → Prop
  | .plain text => text.IsWritable
  | .tag _ => True

theorem isWritable_piecesOnto (before : plain.IsWritable) (skipped : Nat) (writable : text.IsWritable) :
    ∀ piece ∈ piecesOnto plain skipped text, piece.IsWritable := by
  have onto {plain : Text} (before : plain.IsWritable) : (unescaped plain.reverse).IsWritable :=
    before.of_subset (List.Subset.trans (unescaped_subset _) (List.reverse_subset.mpr (List.Subset.refl _)))
  induction text generalizing plain skipped with
  | nil => exact List.forall_mem_singleton.mpr (onto before)
  | cons c rest ih =>
    obtain ⟨first, others⟩ := isWritable_cons.mp writable
    cases skipped with
    | succ skipped => exact ih before skipped others
    | zero =>
      rw [piecesOnto]
      split
      · exact ih (isWritable_cons.mpr ⟨first, before⟩) 0 others
      · next content found =>
        have inside := List.Subset.trans (tagContent?_subset found) (List.drop_subset _ _)
        have brackets : IsWritable ['['] ∧ IsWritable [']'] := by decide
        refine List.forall_mem_append.mpr ⟨List.forall_mem_cons.mpr ⟨onto before, List.forall_mem_singleton.mpr ?_⟩,
          List.forall_mem_cons.mpr ⟨?_, ih isWritable_nil _ others⟩⟩
        · exact isWritable_replicate (by decide) _
        · split
          · exact isWritable_append.mpr ⟨isWritable_append.mpr ⟨brackets.1, writable.of_subset inside⟩, brackets.2⟩
          · trivial

def MarkupReading.IsWritable (reading : MarkupReading) : Prop :=
  ∀ text ∈ reading.shown, text.IsWritable

namespace MarkupReading

variable {reading : MarkupReading}

theorem closeAt_shown (reading : MarkupReading) (position : Nat) (written : Text) :
    Yields (fun after => after.shown = reading.shown) (reading.closeAt position written) := by
  rw [closeAt]
  split
  · exact yields_error _
  · exact (yields_any _).bind fun style _ => yields_ok.mpr rfl

theorem readTag_shown (reading : MarkupReading) (tag : Tag) :
    Yields (fun after => after.shown = reading.shown) (reading.readTag tag) := by
  rw [readTag]
  split
  · refine yields_ite.mpr ⟨fun _ => closeAt_shown reading _ _, fun _ => ?_⟩
    exact (yields_any _).bind fun name _ => closeAt_shown reading _ _
  · exact (yields_any _).bind fun name _ => yields_ok.mpr rfl

theorem IsWritable.read (writable : reading.IsWritable) {piece : Marked} (fits : piece.IsWritable) :
    Yields IsWritable (reading.read piece) := by
  cases piece with
  | plain text => exact yields_ok.mpr (List.forall_mem_cons.mpr ⟨isWritable_withEmoji fits, writable⟩)
  | tag tag =>
    intro after given
    rw [IsWritable, readTag_shown reading tag after given]
    exact writable

theorem IsWritable.readAll (writable : reading.IsWritable) {pieces : List Marked}
    (fit : ∀ piece ∈ pieces, piece.IsWritable) : Yields IsWritable (pieces.foldlM MarkupReading.read reading) := by
  induction pieces generalizing reading with
  | nil => exact yields_ok.mpr writable
  | cons piece pieces ih =>
    obtain ⟨first, others⟩ := List.forall_mem_cons.mp fit
    rw [List.foldlM_cons]
    exact (writable.read first).bind fun after kept => ih kept others

end MarkupReading

/-- What a text shows that can be written can be written. -/
theorem isWritable_ofMarkup (writable : text.IsWritable) : Yields Text.IsWritable (ofMarkup text) := by
  have pieces := isWritable_piecesOnto isWritable_nil 0 writable
  have start : MarkupReading.start.IsWritable := List.forall_mem_nil _
  refine yields_ite.mpr ⟨fun _ => (start.readAll pieces).bind fun reading shown => ?_, fun _ => ?_⟩
  · refine (yields_any _).bind fun _ _ => yields_ok.mpr (isWritable_flatten.mpr fun part member => ?_)
    exact shown part (List.mem_reverse.mp member)
  · exact yields_ok.mpr (isWritable_withEmoji writable)

/-- A text without brackets is shown as it is, but for emoji. -/
theorem ofMarkup_of_not_mem (absent : '[' ∉ text) : ofMarkup text = .ok (withEmoji text) := by
  have none : text.contains '[' = false := by simpa using absent
  rw [ofMarkup, none]
  rfl

end ProjectSurvey.Terminal
