import Mathlib.Data.Set.Basic
import Mathlib.Order.Bounds.Defs
import ProjectSurvey.Proofs.TextPieces
import ProjectSurvey.Snippet

/-! The window that is shown for a term: the first line that mentions it with some lines before it and after
it, fewer of them where the text begins or ends too near. -/

namespace ProjectSurvey

/-- The places of the lines that have a term in them, in small letters or capitals. -/
def mentions (term : Text) (lines : List Text) : Set Nat :=
  {index | ∃ line, lines[index]? = some line ∧ term.lower <:+: line.lower}

/-- Whether lines are those around the one at `index`: as many as there are of the `before` lines above it, the
line itself, and as many as there are of the `after` lines below it. -/
structure IsWindow (before after : Nat) (lines : List Text) (index : Nat) (shown : List Text) : Prop where
  block : ∃ above below, lines = above ++ shown ++ below ∧ above.length + min before index = index
  size : shown.length = min before index + 1 + min after (lines.length - 1 - index)
  position : shown[min before index]? = lines[index]?

variable {before after index : Nat} {lines shown : List Text} {term text : Text}

theorem isWindow_take_drop (before after : Nat) (within : index < lines.length) :
    IsWindow before after lines index
      ((lines.drop (index - before)).take (index + after + 1 - (index - before))) := by
  have start : index - before + min before index = index := by omega
  refine ⟨⟨lines.take (index - before), (lines.drop (index - before)).drop (index + after + 1 - (index - before)),
    ?_, ?_⟩, ?_, ?_⟩
  · rw [List.append_assoc, List.take_append_drop, List.take_append_drop]
  · rw [List.length_take, Nat.min_eq_left (by omega)]
    exact start
  · rw [List.length_take, List.length_drop]
    omega
  · rw [List.getElem?_take_of_lt (by omega), List.getElem?_drop, start]

/-- What the window shows above its line is the end of what stands above it. -/
theorem IsWindow.suffix_above (window : IsWindow before after lines index shown) :
    shown.take (min before index) <:+ lines.take index := by
  obtain ⟨above, below, whole, start⟩ := window.block
  have room : min before index ≤ shown.length := by
    rw [window.size]
    omega
  refine ⟨above, ?_⟩
  rw [whole, List.append_assoc]
  conv_rhs => rw [← start]
  rw [List.take_length_add_append, List.take_append_of_le_length room]

theorem isLeast_mentions_iff : IsLeast (mentions term lines) index ↔
    lines.findIdx? (fun line => term.lower.occursIn line.lower) = some index := by
  rw [List.findIdx?_eq_some_iff_getElem]
  constructor
  · intro least
    obtain ⟨line, stands, inside⟩ := least.1
    obtain ⟨within, rfl⟩ := List.getElem?_eq_some_iff.mp stands
    refine ⟨within, Text.occursIn_iff.mpr inside, ?_⟩
    intro earlier sooner present
    have later := least.2 ⟨_, List.getElem?_eq_getElem (by omega), Text.occursIn_iff.mp present⟩
    omega
  · intro first
    obtain ⟨within, present, none⟩ := first
    refine ⟨⟨_, List.getElem?_eq_getElem within, Text.occursIn_iff.mp present⟩, ?_⟩
    intro other mentioned
    obtain ⟨line, stands, inside⟩ := mentioned
    obtain ⟨_, rfl⟩ := List.getElem?_eq_some_iff.mp stands
    by_contra sooner
    exact none other (by omega) (Text.occursIn_iff.mpr inside)

theorem mentions_eq_empty_iff : mentions term lines = ∅ ↔
    lines.findIdx? (fun line => term.lower.occursIn line.lower) = none := by
  rw [List.findIdx?_eq_none_iff, Set.eq_empty_iff_forall_notMem]
  constructor
  · intro empty line member
    obtain ⟨index, stands⟩ := List.mem_iff_getElem?.mp member
    rw [← Bool.not_eq_true, Text.occursIn_iff]
    exact fun inside => empty index ⟨line, stands, inside⟩
  · intro none index mentioned
    obtain ⟨line, stands, inside⟩ := mentioned
    have absent := none line (List.mem_of_getElem? stands)
    rw [Text.occursIn_iff.mpr inside] at absent
    cases absent

theorem not_infix_of_isLeast (first : IsLeast (mentions term lines) index) :
    ∀ line ∈ lines.take index, ¬ term.lower <:+: line.lower := by
  intro line member inside
  obtain ⟨earlier, sooner, rfl⟩ := List.mem_take_iff_getElem.mp member
  have later := first.2 ⟨_, List.getElem?_eq_getElem (by omega), inside⟩
  omega

theorem termSnippet_of_first (first : IsLeast (mentions term text.lines) index) :
    ∃ shown, IsWindow linesBefore linesAfter text.lines index shown ∧
      termSnippet text term = Text.unlines shown ∧ (termSnippet text term).lines = shown := by
  have found := isLeast_mentions_iff.mp first
  obtain ⟨within, -⟩ := List.findIdx?_eq_some_iff_getElem.mp found
  let shown := (text.lines.drop (index - linesBefore)).take (index + linesAfter + 1 - (index - linesBefore))
  have window : IsWindow linesBefore linesAfter text.lines index shown := isWindow_take_drop _ _ within
  have snippet : termSnippet text term = Text.unlines shown := by simp only [termSnippet, found, shown]
  have some : shown ≠ [] := by
    apply List.ne_nil_of_length_pos
    rw [window.size]
    omega
  have single : ∀ line ∈ shown, '\n' ∉ line := by
    intro line member
    exact Text.not_mem_of_mem_lines (List.mem_of_mem_drop (List.mem_of_mem_take member))
  exact ⟨shown, window, snippet, by rw [snippet, Text.lines_unlines some single]⟩

/-- Nothing is shown of a text that does not mention the term. Of any other the first line that mentions it is
shown with five lines before it and ten after it, as far as there are any, and none of the lines shown before it
mentions the term. -/
theorem termSnippet_window (text term : Text) :
    (mentions term text.lines = ∅ → termSnippet text term = []) ∧
    ∀ index, IsLeast (mentions term text.lines) index →
      ∃ shown, IsWindow 5 10 text.lines index shown ∧
        termSnippet text term = Text.unlines shown ∧ (termSnippet text term).lines = shown ∧
        ∀ line ∈ shown.take (min 5 index), ¬ term.lower <:+: line.lower := by
  constructor
  · intro empty
    simp only [termSnippet, mentions_eq_empty_iff.mp empty]
  · intro index first
    obtain ⟨shown, window, snippet, lines⟩ := termSnippet_of_first first
    refine ⟨shown, window, snippet, lines, ?_⟩
    intro line member
    exact not_infix_of_isLeast first line (window.suffix_above.subset member)

/-- The text is cut above the first of two lines with the term, and ends before ten more lines are shown. -/
theorem termSnippet_window_cut_above :
    let text : Text := "a\nb\nc\nd\ne\nf\nStore\ng\nstore"
    let shown : List Text := ["b", "c", "d", "e", "f", "Store", "g", "store"]
    IsLeast (mentions "STORE" text.lines) 6 ∧ IsWindow 5 10 text.lines 6 shown ∧
      termSnippet text "STORE" = Text.unlines shown := by
  intro text shown
  have first : IsLeast (mentions "STORE" text.lines) 6 := isLeast_mentions_iff.mpr (by decide)
  obtain ⟨_, window, snippet, lines⟩ := (termSnippet_window text "STORE").2 6 first
  have same : (termSnippet text "STORE").lines = shown := by decide
  obtain rfl := lines.1.symm.trans same
  exact ⟨first, window, snippet⟩

end ProjectSurvey
