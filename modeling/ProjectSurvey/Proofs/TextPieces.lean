import Mathlib.Data.List.Infix
import ProjectSurvey.Text.Basic

/-! The pieces of a text and the texts that stand somewhere in it. A needle without the separator is in a
text exactly if it is in one of its pieces. -/

namespace ProjectSurvey.Text

theorem occursIn_iff {needle text : Text} : needle.occursIn text = true ↔ needle <:+: text := by
  induction text with
  | nil => rw [occursIn, List.isEmpty_iff, List.infix_nil]
  | cons c rest ih =>
    rw [occursIn, Bool.or_eq_true, List.isPrefixOf_iff_prefix, ih, List.infix_cons_iff]

theorem join_append (separator : Text) {texts others : List Text} (some : texts ≠ [])
    (someOthers : others ≠ []) :
    join separator (texts ++ others) = join separator texts ++ (separator ++ join separator others) := by
  simp only [join]
  induction texts with
  | nil => exact absurd rfl some
  | cons text texts ih =>
    cases texts with
    | nil =>
      obtain ⟨next, rest, rfl⟩ := List.exists_cons_of_ne_nil someOthers
      rw [List.singleton_append, List.intercalate_cons_cons, List.intercalate_singleton,
        List.append_assoc]
    | cons next texts =>
      have inner := ih (List.cons_ne_nil _ _)
      rw [List.cons_append] at inner
      rw [List.cons_append, List.cons_append, List.intercalate_cons_cons, inner,
        List.intercalate_cons_cons]
      simp only [List.append_assoc]

theorem infix_unlines {before after : List Text} (someBefore : before ≠ []) (someAfter : after ≠ [])
    (line : Text) : '\n' :: line ++ ['\n'] <:+: unlines (before ++ line :: after) := by
  have rest : unlines (line :: after) = line ++ ('\n' :: unlines after) := by
    obtain ⟨next, others, rfl⟩ := List.exists_cons_of_ne_nil someAfter
    simp only [unlines, join, List.intercalate_cons_cons, List.append_assoc]
    rfl
  have whole : unlines (before ++ line :: after) = unlines before ++ ('\n' :: unlines (line :: after)) :=
    join_append "\n" someBefore (List.cons_ne_nil _ _)
  refine ⟨unlines before, unlines after, ?_⟩
  rw [whole, rest]
  simp only [List.append_assoc, List.cons_append, List.nil_append]

theorem splitWhere_eq (separates : Char → Bool) (text : Text) :
    splitWhere separates text = text.splitOnP separates := by
  induction text with
  | nil => rfl
  | cons c rest ih =>
    have step {piece : Text} {others : List Text} (found : splitWhere separates rest = piece :: others) :
        splitWhere separates (c :: rest) =
          if separates c then [] :: piece :: others else (c :: piece) :: others := by
      rw [splitWhere, List.foldr_cons, ← splitWhere, found]
    rw [List.splitOnP_cons_eq_if_modifyHead]
    cases found : rest.splitOnP separates with
    | nil => exact absurd found (List.splitOnP_ne_nil separates rest)
    | cons piece others =>
      rw [step (ih.trans found)]
      rfl

theorem pieces_eq (separator : Char) (text : Text) : text.pieces separator = text.splitOn separator := by
  rw [pieces, splitWhere_eq, List.splitOn_eq_splitOnP]
  congr 1

variable {separator : Char}

theorem pieces_of_not_mem {text : Text} (apart : separator ∉ text) : text.pieces separator = [text] := by
  rw [pieces_eq, List.splitOn_eq_singleton apart]

theorem pieces_append {first : Text} (apart : separator ∉ first) (rest : Text) :
    pieces separator (first ++ separator :: rest) = first :: rest.pieces separator := by
  rw [pieces_eq, pieces_eq, List.splitOn_append_cons_self_of_not_mem apart]

theorem pieces_join {texts : List Text} (some : texts ≠ []) (apart : ∀ text ∈ texts, separator ∉ text) :
    pieces separator (join [separator] texts) = texts := by
  rw [pieces_eq, join, List.splitOn_intercalate separator apart some]

/-- A text is one piece, or begins with one that a separator ends. -/
theorem piecesInduction (separator : Char) {motive : Text → Prop}
    (last : ∀ text, separator ∉ text → motive text)
    (next : ∀ first rest, separator ∉ first → motive rest → motive (first ++ separator :: rest))
    (text : Text) : motive text := by
  by_cases inside : separator ∈ text
  · obtain ⟨first, rest, cut, apart⟩ := List.eq_append_cons_of_mem inside
    have shorter : rest.length < text.length := by simp [cut]; omega
    rw [cut]
    exact next first rest apart (piecesInduction separator last next rest)
  · exact last text inside
  termination_by text.length

theorem not_mem_of_mem_pieces {piece text : Text} (member : piece ∈ text.pieces separator) :
    separator ∉ piece := by
  induction text using piecesInduction separator with
  | last text apart =>
    rw [pieces_of_not_mem apart, List.mem_singleton] at member
    exact member ▸ apart
  | next first rest apart ih =>
    rw [pieces_append apart] at member
    rcases List.mem_cons.mp member with rfl | later
    · exact apart
    · exact ih later

/-- A needle without the separator does not reach across one. -/
private theorem infix_append_iff {needle first rest : Text} (single : separator ∉ needle) :
    needle <:+: first ++ separator :: rest ↔ needle <:+: first ∨ needle <:+: rest := by
  constructor
  · intro inside
    rcases List.infix_append_iff.mp inside with left | right | ⟨ending, start, rfl, atEnd, atStart⟩
    · exact .inl left
    · rcases List.infix_cons_iff.mp right with atStart | later
      · cases needle with
        | nil => exact .inl (List.nil_infix)
        | cons c needle =>
          obtain ⟨rfl, -⟩ := List.cons_prefix_cons.mp atStart
          exact absurd List.mem_cons_self single
      · exact .inr later
    · cases start with
      | nil => exact .inl (by simpa using atEnd.isInfix)
      | cons c start =>
        obtain ⟨rfl, -⟩ := List.cons_prefix_cons.mp atStart
        exact absurd (List.mem_append_right _ List.mem_cons_self) single
  · rintro (left | right)
    · exact left.trans (List.prefix_append first _).isInfix
    · exact right.trans (List.infix_cons_iff.mpr (.inr List.infix_rfl) |>.trans
        (List.suffix_append first _).isInfix)

theorem infix_iff_pieces {needle text : Text} (single : separator ∉ needle) :
    needle <:+: text ↔ ∃ piece ∈ text.pieces separator, needle <:+: piece := by
  induction text using piecesInduction separator with
  | last text apart => rw [pieces_of_not_mem apart]; simp
  | next first rest apart ih =>
    rw [pieces_append apart, infix_append_iff single, ih, List.exists_mem_cons_iff]

theorem lines_unlines {lines : List Text} (some : lines ≠ []) (single : ∀ line ∈ lines, '\n' ∉ line) :
    (unlines lines).lines = lines :=
  pieces_join some single

theorem not_mem_of_mem_lines {text line : Text} (member : line ∈ text.lines) : '\n' ∉ line :=
  not_mem_of_mem_pieces member

end ProjectSurvey.Text
