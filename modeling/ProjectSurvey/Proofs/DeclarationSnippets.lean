import Mathlib.Algebra.Ring.Int.Defs
import Mathlib.Data.List.TakeWhile
import Mathlib.Order.Bounds.Defs
import ProjectSurvey.Proofs.TextPieces
import ProjectSurvey.Snippet

/-! What the snippet for a category shows of its declaration: the lines up to the one that closes its braces,
as many as there are and no more than there is room for. The limit of the capture lies beyond that room. -/

namespace ProjectSurvey

/-- Whether a line declares something and mentions the category, in small letters or capitals. -/
def IsDeclaration (category line : Text) : Prop :=
  category.lower <:+: line.lower ∧ ∃ word ∈ declarationWords, word <:+: line.lower

/-- Whether lines close as many braces as they open, or more. -/
def AreClosed (lines : List Text) : Prop :=
  lines.flatten.count '{' ≤ lines.flatten.count '}'

/-- What bounds the number of lines that are shown of a declaration, which is the first of the given lines: the
room for them, the end of the text, and every line after the first with which all braces are closed. -/
def lineBounds (lines : List Text) : Set Nat :=
  {shownLimit, lines.length} ∪ {m | ∃ k, 1 ≤ k ∧ k < lines.length ∧ AreClosed (lines.take (k + 1)) ∧ m = k + 1}

/-- The lines captured after the first one of a declaration where the capture has no limit. -/
def captureAll (depth : Int) : List Text → List Text
  | [] => []
  | line :: rest =>
    if depth + braceBalance line ≤ 0 then [line] else line :: captureAll (depth + braceBalance line) rest

/-- The snippet for a category where the capture has no limit. -/
def unlimitedSnippet (text category : Text) : Text :=
  match text.lines.dropWhile fun line => !declares category.lower line with
  | [] => []
  | first :: rest => Text.unlines ((first :: captureAll (braceBalance first) rest).take shownLimit)

variable {text category line : Text}

theorem declares_iff : declares category.lower line = true ↔ IsDeclaration category line := by
  simp only [declares, Bool.and_eq_true, Text.occursIn_iff, Text.anyOccursIn, List.any_eq_true, IsDeclaration]

theorem IsDeclaration.ne_nil (declaration : IsDeclaration category line) : line ≠ [] := by
  rintro rfl
  obtain ⟨-, word, member, inside⟩ := declaration
  obtain rfl : word = [] := List.infix_nil.mp inside
  exact absurd member (by decide)

theorem sum_braceBalance (lines : List Text) :
    (lines.map braceBalance).sum = (lines.flatten.count '{' : Int) - lines.flatten.count '}' := by
  induction lines with
  | nil => rfl
  | cons line rest ih =>
    rw [List.map_cons, List.sum_cons, ih, braceBalance, List.flatten_cons, List.count_append, List.count_append]
    omega

theorem areClosed_iff {lines : List Text} : AreClosed lines ↔ (lines.map braceBalance).sum ≤ 0 := by
  rw [AreClosed, sum_braceBalance]
  omega

/-- The limit cuts the capture off. -/
theorem captureOnto_eq (done : List Text) (depth : Int) (lines : List Text) :
    captureOnto done depth lines =
      done.reverse ++ (captureAll depth lines).take (captureLimit - done.length) := by
  induction lines generalizing done depth with
  | nil => simp [captureOnto, captureAll]
  | cons line rest ih =>
    rw [captureOnto, captureAll]
    by_cases full : captureLimit ≤ done.length
    · rw [if_pos full, Nat.sub_eq_zero_of_le full, List.take_zero, List.append_nil]
    · obtain ⟨left, more⟩ : ∃ left, captureLimit - done.length = left + 1 :=
        Nat.exists_eq_add_one.mpr (by omega)
      have onward : captureLimit - (line :: done).length = left := by
        rw [List.length_cons]
        omega
      rw [if_neg full, more]
      by_cases closed : depth + braceBalance line ≤ 0
      · simp only [closed, if_true, List.reverse_cons, List.take_succ_cons, List.take_nil]
      · simp only [closed, if_false, ih, onward, List.reverse_cons, List.take_succ_cons, List.append_assoc,
          List.singleton_append]

/-- Without a limit the capture takes lines to the end of the text, or to the first with which the braces that
have been open are closed. -/
theorem captureAll_eq_take (depth : Int) (lines : List Text) :
    ∃ n ≤ lines.length, captureAll depth lines = lines.take n ∧
      (n = lines.length ∨ 1 ≤ n ∧ depth + ((lines.take n).map braceBalance).sum ≤ 0) ∧
      ∀ k, 1 ≤ k → k < n → 0 < depth + ((lines.take k).map braceBalance).sum := by
  induction lines generalizing depth with
  | nil => exact ⟨0, Nat.le_refl 0, rfl, .inl rfl, fun _ _ below => absurd below (Nat.not_lt_zero _)⟩
  | cons line rest ih =>
    rw [captureAll]
    split
    · next closed =>
      refine ⟨1, by simp, by simp, .inr ⟨Nat.le_refl 1, by simpa using closed⟩, fun k _ _ => by omega⟩
    · next isOpen =>
      obtain ⟨n, within, taken, last, earlier⟩ := ih (depth + braceBalance line)
      refine ⟨n + 1, by simpa using within, by rw [taken, List.take_succ_cons], ?_, ?_⟩
      · rcases last with rfl | ⟨some, closed⟩
        · exact .inl rfl
        · refine .inr ⟨by omega, ?_⟩
          rw [List.take_succ_cons, List.map_cons, List.sum_cons]
          omega
      · intro k positive below
        obtain ⟨k, rfl⟩ := Nat.exists_eq_add_one.mpr positive
        rw [List.take_succ_cons, List.map_cons, List.sum_cons]
        cases k with
        | zero => simp; omega
        | succ k =>
          have before := earlier (k + 1) (by omega) (by omega)
          omega

/-- Of a declaration as many lines are shown as the least of their bounds says. -/
theorem exists_shown (first : Text) (rest : List Text) :
    ∃ m, IsLeast (lineBounds (first :: rest)) m ∧
      (first :: captureAll (braceBalance first) rest).take shownLimit = (first :: rest).take m := by
  obtain ⟨n, within, taken, last, earlier⟩ := captureAll_eq_take (braceBalance first) rest
  have closed (k : Nat) : AreClosed ((first :: rest).take (k + 1)) ↔
      braceBalance first + ((rest.take k).map braceBalance).sum ≤ 0 := by
    rw [areClosed_iff, List.take_succ_cons, List.map_cons, List.sum_cons]
  refine ⟨min shownLimit (n + 1), ⟨?_, ?_⟩, ?_⟩
  · rcases Nat.le_total shownLimit (n + 1) with room | fits
    · exact .inl (.inl (Nat.min_eq_left room))
    · rw [Nat.min_eq_right fits]
      rcases last with rfl | ⟨some, shut⟩
      · exact .inl (.inr rfl)
      · exact .inr ⟨n, some, Nat.lt_succ_of_le within, (closed n).mpr shut, rfl⟩
  · rintro m ((rfl | rfl) | ⟨k, some, inside, shut, rfl⟩)
    · exact Nat.min_le_left _ _
    · exact (Nat.min_le_right _ _).trans (Nat.succ_le_succ within)
    · have reached : n ≤ k := by
        by_contra before
        have stillOpen := earlier k some (by omega)
        have shut := (closed k).mp shut
        omega
      exact (Nat.min_le_right _ _).trans (Nat.succ_le_succ reached)
  · rw [taken, ← List.take_succ_cons, List.take_take]

theorem declarationSnippet_eq (text category : Text) :
    declarationSnippet text category = unlimitedSnippet text category := by
  rw [declarationSnippet, unlimitedSnippet]
  cases text.lines.dropWhile fun line => !declares category.lower line with
  | nil => rfl
  | cons first rest =>
    have captured := captureOnto_eq [first] (braceBalance first) rest
    rw [List.reverse_singleton, List.singleton_append] at captured
    have roomy : min (shownLimit - 1) (captureLimit - 1) = shownLimit - 1 := by decide
    have shown (lines : List Text) : (first :: lines).take shownLimit = first :: lines.take (shownLimit - 1) := rfl
    simp only [captured, shown, List.length_singleton, List.take_take, roomy]

theorem declarationSnippet_of_none (none : ∀ line ∈ text.lines, ¬ IsDeclaration category line) :
    declarationSnippet text category = [] := by
  have passed : (text.lines.dropWhile fun line => !declares category.lower line) = [] := by
    rw [List.dropWhile_eq_nil_iff]
    intro line member
    rw [Bool.not_eq_true', ← Bool.not_eq_true, declares_iff]
    exact none line member
  rw [declarationSnippet, passed]

theorem declarationSnippet_of_first {before rest : List Text} {first : Text}
    (lines : text.lines = before ++ first :: rest) (apart : ∀ line ∈ before, ¬ IsDeclaration category line)
    (declaration : IsDeclaration category first) :
    ∃ m, IsLeast (lineBounds (first :: rest)) m ∧
      declarationSnippet text category = Text.unlines ((first :: rest).take m) := by
  have passed : ∀ line ∈ before, (!declares category.lower line) = true := by
    intro line member
    rw [Bool.not_eq_true', ← Bool.not_eq_true, declares_iff]
    exact apart line member
  have reached : (text.lines.dropWhile fun line => !declares category.lower line) = first :: rest := by
    rw [lines, List.dropWhile_append_of_pos passed, List.dropWhile_cons_of_neg]
    simpa using declares_iff.mpr declaration
  obtain ⟨m, least, shown⟩ := exists_shown first rest
  refine ⟨m, least, ?_⟩
  rw [declarationSnippet_eq, unlimitedSnippet, reached]
  exact congrArg Text.unlines shown

theorem one_le_of_mem_lineBounds {first : Text} {rest : List Text} {m : Nat}
    (member : m ∈ lineBounds (first :: rest)) : 1 ≤ m := by
  rcases member with (rfl | rfl) | ⟨k, -, -, -, rfl⟩
  · decide
  · exact Nat.succ_le_succ (Nat.zero_le _)
  · exact Nat.succ_le_succ (Nat.zero_le _)

theorem lines_take {before rest : List Text} {first : Text} {m : Nat}
    (lines : text.lines = before ++ first :: rest) (some : 1 ≤ m) :
    (Text.unlines ((first :: rest).take m)).lines = (first :: rest).take m := by
  obtain ⟨n, rfl⟩ := Nat.exists_eq_add_one.mpr some
  refine Text.lines_unlines (List.cons_ne_nil _ _) fun line member => ?_
  have among : line ∈ text.lines := by
    rw [lines]
    exact List.mem_append_right _ (List.mem_of_mem_take member)
  exact Text.not_mem_of_mem_lines among

theorem exists_first_declaration (text category : Text) :
    (∀ line ∈ text.lines, ¬ IsDeclaration category line) ∨
      ∃ before first rest, text.lines = before ++ first :: rest ∧
        (∀ line ∈ before, ¬ IsDeclaration category line) ∧ IsDeclaration category first := by
  cases found : text.lines.find? (declares category.lower) with
  | none =>
    refine .inl fun line member declaration => ?_
    exact List.find?_eq_none.mp found line member (declares_iff.mpr declaration)
  | some first =>
    obtain ⟨declaration, before, rest, lines, apart⟩ := List.find?_eq_some_iff_append.mp found
    refine .inr ⟨before, first, rest, lines, fun line member other => ?_, declares_iff.mp declaration⟩
    have none := apart line member
    rw [declares_iff.mpr other] at none
    cases none

/-- The snippet for a category is empty exactly if no line declares something that mentions it. Else it shows
the first such line and the lines after it, as many as the least of their bounds says. The limit of the capture
makes no difference, and there is room for thirty lines. -/
theorem declarationSnippet_shows (text category : Text) :
    (declarationSnippet text category = [] ↔ ∀ line ∈ text.lines, ¬ IsDeclaration category line) ∧
    (∀ before first rest, text.lines = before ++ first :: rest →
        (∀ line ∈ before, ¬ IsDeclaration category line) → IsDeclaration category first →
      ∃ m, IsLeast (lineBounds (first :: rest)) m ∧
        declarationSnippet text category = Text.unlines ((first :: rest).take m) ∧
        (declarationSnippet text category).lines = (first :: rest).take m) ∧
    declarationSnippet text category = unlimitedSnippet text category ∧
    (declarationSnippet text category).lines.length ≤ 30 := by
  have shows {before rest : List Text} {first : Text} (lines : text.lines = before ++ first :: rest)
      (apart : ∀ line ∈ before, ¬ IsDeclaration category line) (declaration : IsDeclaration category first) :
      ∃ m, IsLeast (lineBounds (first :: rest)) m ∧
        declarationSnippet text category = Text.unlines ((first :: rest).take m) ∧
        (declarationSnippet text category).lines = (first :: rest).take m := by
    obtain ⟨m, least, shown⟩ := declarationSnippet_of_first lines apart declaration
    exact ⟨m, least, shown, shown ▸ lines_take lines (one_le_of_mem_lineBounds least.1)⟩
  refine ⟨⟨?_, declarationSnippet_of_none⟩, fun before first rest => shows, declarationSnippet_eq text category, ?_⟩
  · intro empty
    rcases exists_first_declaration text category with none | ⟨before, first, rest, lines, apart, declaration⟩
    · exact none
    · obtain ⟨m, least, -, shown⟩ := shows lines apart declaration
      obtain ⟨n, rfl⟩ := Nat.exists_eq_add_one.mpr (one_le_of_mem_lineBounds least.1)
      rw [empty, List.take_succ_cons] at shown
      exact absurd (List.cons.inj shown).1.symm declaration.ne_nil
  · rcases exists_first_declaration text category with none | ⟨before, first, rest, lines, apart, declaration⟩
    · rw [declarationSnippet_of_none none]
      decide
    · obtain ⟨m, least, -, shown⟩ := shows lines apart declaration
      rw [shown]
      exact (List.length_take_le m _).trans (least.2 (.inl (.inl rfl)))

/-- A line that closes more braces than it opens is not the last one that is shown, if it is the first. -/
theorem declarationSnippet_shows_unbalanced :
    let text : Text := "x\nconst Modal \x7d\n \x7b\nend"
    ∃ m, IsLeast (lineBounds ["const Modal \x7d", " \x7b", "end"]) m ∧
      declarationSnippet text "modal" = Text.unlines ((["const Modal \x7d", " \x7b", "end"] : List Text).take m) ∧
      declarationSnippet text "modal" = "const Modal \x7d\n \x7b" := by
  intro text
  have lines : text.lines = ["x".toList] ++ "const Modal \x7d".toList :: [" \x7b", "end"] := by decide
  have apart : ∀ line ∈ ["x".toList], ¬ IsDeclaration "modal" line := by
    rw [List.forall_mem_singleton, ← declares_iff]
    decide
  have declaration : IsDeclaration "modal" "const Modal \x7d" := declares_iff.mp (by decide)
  obtain ⟨m, least, shown, -⟩ := (declarationSnippet_shows text "modal").2.1 _ _ _ lines apart declaration
  exact ⟨m, least, shown, by decide⟩

end ProjectSurvey
