import ProjectSurvey.Proofs.WritableText
import ProjectSurvey.Terminal.Frame

/-! What is printed on the terminal for people to read. Filling lines, panels and tables bring in no characters but
blanks, dots and the lines of frames, so that they can be written wherever the texts in them can. -/

namespace ProjectSurvey.Terminal

open Text

variable {line text word : Text}

theorem isWritable_expandTabs (writable : line.IsWritable) (cells : Nat) : (expandTabs cells line).IsWritable := by
  induction line generalizing cells with
  | nil => exact isWritable_nil
  | cons c rest ih =>
    obtain ⟨first, others⟩ := isWritable_cons.mp writable
    rw [expandTabs]
    split
    · exact isWritable_append.mpr ⟨isWritable_replicate (by decide) _, ih others _⟩
    · exact isWritable_cons.mpr ⟨first, ih others _⟩

theorem isWritable_runs (writable : line.IsWritable) : ∀ run ∈ runs line, run.IsWritable := by
  induction line with
  | nil => exact List.forall_mem_nil _
  | cons c rest ih =>
    obtain ⟨first, others⟩ := isWritable_cons.mp writable
    have ih := ih others
    have alone : IsWritable [c] := isWritable_cons.mpr ⟨first, isWritable_nil⟩
    rw [runs, List.foldr_cons, ← runs]
    split
    · next d run later found =>
      rw [found] at ih
      obtain ⟨here, later⟩ := List.forall_mem_cons.mp ih
      split
      · exact List.forall_mem_cons.mpr ⟨alone, List.forall_mem_cons.mpr ⟨here, later⟩⟩
      · exact List.forall_mem_cons.mpr ⟨isWritable_cons.mpr ⟨first, here⟩, later⟩
    · exact List.forall_mem_singleton.mpr alone

theorem isWritable_spacedWords (writable : line.IsWritable) : ∀ word ∈ spacedWords line, word.IsWritable := by
  have pieces := isWritable_runs writable
  rw [spacedWords]
  split
  · next first second others found =>
    rw [found] at pieces
    obtain ⟨one, rest⟩ := List.forall_mem_cons.mp pieces
    obtain ⟨other, later⟩ := List.forall_mem_cons.mp rest
    split
    · exact List.forall_mem_cons.mpr ⟨isWritable_append.mpr ⟨one, other⟩, later⟩
    · exact pieces
  · next only found =>
    rw [found] at pieces
    split
    · exact List.forall_mem_nil _
    · exact pieces
  · exact List.forall_mem_nil _

theorem isWritable_chop (writable : word.IsWritable) (limit : Nat) : ∀ piece ∈ chop limit word, piece.IsWritable := by
  rw [chop]
  generalize done : word.foldl _ _ = state
  have kept : (∀ piece ∈ state.1, IsWritable piece) ∧ IsWritable state.2.1 := by
    rw [← done]
    refine List.foldlRecOn (motive := fun state : List Text × Text × Nat =>
        (∀ piece ∈ state.1, IsWritable piece) ∧ IsWritable state.2.1)
      word _ ⟨List.forall_mem_nil _, isWritable_nil⟩ ?_
    intro state kept c member
    have letter := writable c member
    split
    next done piece cells =>
    obtain ⟨pieces, last⟩ := kept
    split
    · exact ⟨List.forall_mem_cons.mpr ⟨last.of_subset (List.reverse_subset.mpr (List.Subset.refl _)), pieces⟩,
        isWritable_cons.mpr ⟨letter, isWritable_nil⟩⟩
    · exact ⟨pieces, isWritable_cons.mpr ⟨letter, last⟩⟩
  obtain ⟨pieces, last⟩ := kept
  intro piece member
  rcases List.mem_cons.mp (List.mem_reverse.mp member) with rfl | later
  · exact last.of_subset (List.reverse_subset.mpr (List.Subset.refl _))
  · exact pieces piece later

def Filling.IsWritable (filling : Filling) : Prop :=
  (∀ line ∈ filling.full, line.IsWritable) ∧ filling.line.IsWritable

variable {filling : Filling}

theorem Filling.IsWritable.onNewLine (writable : filling.IsWritable) (fits : text.IsWritable) :
    (filling.onNewLine text).IsWritable := by
  rw [Filling.onNewLine]
  split
  · exact ⟨List.forall_mem_nil _, fits⟩
  · exact ⟨List.forall_mem_cons.mpr ⟨writable.2, writable.1⟩, fits⟩

theorem Filling.IsWritable.add (writable : filling.IsWritable) (fits : word.IsWritable) (limit : Nat) (folds : Bool) :
    (filling.add limit folds word).IsWritable := by
  rw [Filling.add]
  split
  · exact ⟨writable.1, isWritable_append.mpr ⟨writable.2, fits⟩⟩
  · split
    · exact List.foldlRecOn _ _ writable fun _ kept piece member =>
        kept.onNewLine (isWritable_chop fits limit piece member)
    · exact writable.onNewLine fits

theorem Filling.IsWritable.lines (writable : filling.IsWritable) : ∀ line ∈ filling.lines, line.IsWritable :=
  fun line member => List.forall_mem_cons.mpr ⟨writable.2, writable.1⟩ line (List.mem_reverse.mp member)

theorem isWritable_cutWithin (writable : line.IsWritable) (limit first last : Nat) :
    (cutWithin limit line first last).IsWritable := by
  fun_induction cutWithin limit line first last with
  | case1 first last middle start =>
    have whole : IsWritable start.dropLast := (writable.take _).of_subset (List.dropLast_subset start)
    exact isWritable_append.mpr ⟨whole, by decide⟩
  | case2 => exact writable.take _
  | case3 first last middle start cells half enough long ih => exact ih
  | case4 first last middle start cells half enough short ih => exact ih

theorem isWritable_cut (writable : line.IsWritable) (limit : Nat) : (cut limit line).IsWritable := by
  rw [cut]
  split
  · exact isWritable_nil
  · exact isWritable_cutWithin writable limit _ _

theorem isWritable_cropEnd (writable : line.IsWritable) (limit : Nat) : (cropEnd limit line).IsWritable :=
  writable.take _

theorem isWritable_fit (writable : line.IsWritable) (overflow : Overflow) (limit : Nat) :
    (fit overflow limit line).IsWritable := by
  unfold fit
  split
  · exact writable
  · cases overflow with
    | fold => exact isWritable_cut writable limit
    | ellipsis => exact isWritable_append.mpr ⟨isWritable_cut writable _, by decide⟩

theorem isWritable_wrapLine (writable : line.IsWritable) (overflow : Overflow) (limit : Nat) :
    ∀ part ∈ wrapLine overflow limit line, part.IsWritable := by
  have expanded := isWritable_expandTabs writable 0
  have words := isWritable_spacedWords expanded
  rw [wrapLine]
  refine List.forall_mem_map.mpr fun part member => isWritable_fit (isWritable_cropEnd ?_ limit) overflow limit
  split at member
  · rw [List.mem_singleton.mp member]
    exact expanded
  · have filled : Filling.IsWritable ((spacedWords (expandTabs 0 line)).foldl
        (Filling.add limit (overflow = Overflow.fold)) .start) :=
      List.foldlRecOn _ _ ⟨List.forall_mem_nil _, isWritable_nil⟩ fun _ kept word inside =>
        kept.add (words word inside) limit _
    exact filled.lines part member

theorem isWritable_wrap (writable : text.IsWritable) (overflow : Overflow) (limit : Nat) :
    ∀ part ∈ wrap overflow limit text, part.IsWritable := by
  intro part member
  obtain ⟨line, inside, among⟩ := List.mem_flatMap.mp member
  exact isWritable_wrapLine (isWritable_of_mem_lines (writable.filter _) line inside) overflow limit part among

theorem isWritable_printed (writable : text.IsWritable) : (printed text).IsWritable :=
  isWritable_append.mpr ⟨isWritable_unlines (isWritable_wrap writable .fold lineWidth), by decide⟩

theorem isWritable_padded (writable : line.IsWritable) (limit : Nat) : (padded limit line).IsWritable :=
  isWritable_append.mpr ⟨writable, isWritable_replicate (by decide) _⟩

theorem isWritable_centred (writable : line.IsWritable) (limit : Nat) : (centred limit line).IsWritable :=
  isWritable_padded (isWritable_append.mpr ⟨isWritable_replicate (by decide) _, writable⟩) limit

theorem isWritable_closed {lines : List Text} (writable : ∀ line ∈ lines, line.IsWritable) :
    IsWritable (lines.flatMap (· ++ ['\n'])) := by
  intro c member
  obtain ⟨line, inside, among⟩ := List.mem_flatMap.mp member
  exact isWritable_append.mpr ⟨writable line inside, by decide⟩ c among

theorem isWritable_blankSides (writable : line.IsWritable) : (blankSides line).IsWritable :=
  isWritable_cons.mpr ⟨by decide, isWritable_append.mpr ⟨writable, by decide⟩⟩

theorem Panel.isWritable_titleText {panel : Panel} (writable : panel.title.IsWritable) :
    panel.titleText.IsWritable := by
  refine isWritable_blankSides (isWritable_expandTabs ?_ 0)
  refine List.forall_mem_map.mpr fun c member => ?_
  split
  · decide
  · exact writable.filter _ c member

theorem Panel.isWritable_upperEdge {panel : Panel} (writable : panel.title.IsWritable) :
    panel.upperEdge.IsWritable := by
  have title := isWritable_fit (Panel.isWritable_titleText writable) .fold (panel.innerWidth - 2)
  have bar (n : Nat) : IsWritable (List.replicate n '─') := isWritable_replicate (by decide) n
  have edges : IsWritable "╭─" ∧ IsWritable "─╮" := by decide
  rw [upperEdge]
  refine isWritable_append.mpr ⟨isWritable_append.mpr ⟨edges.1, isWritable_cropEnd ?_ _⟩, edges.2⟩
  exact isWritable_append.mpr ⟨isWritable_append.mpr ⟨bar _, title⟩, bar _⟩

/-- A panel can be printed if its title and its text can. -/
theorem Panel.isWritable_printed {panel : Panel} (title : panel.title.IsWritable) (writable : panel.text.IsWritable) :
    panel.printed.IsWritable := by
  have content := isWritable_wrap writable .fold (panel.innerWidth - 2)
  have side : surrogate? '│' = none := by decide
  refine isWritable_closed (List.forall_mem_append.mpr ⟨List.forall_mem_cons.mpr
    ⟨Panel.isWritable_upperEdge title, List.forall_mem_map.mpr fun line member => ?_⟩, ?_⟩)
  · exact isWritable_append.mpr ⟨isWritable_cons.mpr ⟨side, isWritable_blankSides
      (isWritable_padded (content line member) _)⟩, isWritable_cons.mpr ⟨side, isWritable_nil⟩⟩
  · refine List.forall_mem_singleton.mpr (isWritable_append.mpr ⟨isWritable_cons.mpr ⟨by decide, ?_⟩, ?_⟩)
    · exact isWritable_replicate (by decide) _
    · decide

namespace Table

theorem isWritable_ruleText (widths : Nat × Nat) {rule : Rule} (left : surrogate? rule.left = none)
    (middle : surrogate? rule.middle = none) (right : surrogate? rule.right = none)
    (fill : surrogate? rule.fill = none) : (ruleText widths rule).IsWritable := by
  have bar (n : Nat) : IsWritable (List.replicate n rule.fill) := isWritable_replicate fill n
  simp [ruleText, left, middle, right, bar]

def IsWritableRow (row : Text × Text) : Prop :=
  row.1.IsWritable ∧ row.2.IsWritable

theorem isWritable_rowLines (widths : Nat × Nat) {side : Char} (edge : surrogate? side = none) {row : Text × Text}
    (writable : IsWritableRow row) : ∀ line ∈ rowLines widths side row, line.IsWritable := by
  have cell {text : Text} (fits : text.IsWritable) (width n : Nat) :
      ((cellLines width text).getD n []).IsWritable := by
    rw [List.getD_eq_getElem?_getD]
    cases found : (cellLines width text)[n]? with
    | none => exact isWritable_nil
    | some line => exact isWritable_wrap fits .ellipsis width line (List.mem_of_getElem? found)
  refine List.forall_mem_map.mpr fun n _ => ?_
  have first := isWritable_blankSides (isWritable_padded (cell writable.1 widths.1 n) widths.1)
  have second := isWritable_blankSides (isWritable_padded (cell writable.2 widths.2 n) widths.2)
  have last : IsWritable [side] := isWritable_cons.mpr ⟨edge, isWritable_nil⟩
  exact isWritable_append.mpr ⟨isWritable_append.mpr ⟨isWritable_cons.mpr ⟨edge, first⟩,
    isWritable_cons.mpr ⟨edge, second⟩⟩, last⟩

/-- A table can be printed if its cells and what stands above them can. -/
theorem isWritable_printed {table : Table} (title : ∀ title ∈ table.title, title.IsWritable)
    (heading : ∀ row ∈ table.heading, IsWritableRow row) (rows : ∀ row ∈ table.rows, IsWritableRow row) :
    table.printed.IsWritable := by
  have rule (left middle right fill : Char) (ends : IsWritable [left, middle, right, fill]) :
      (ruleText table.columnWidths ⟨left, middle, right, fill⟩).IsWritable := by
    simp only [isWritable_cons] at ends
    exact isWritable_ruleText _ ends.1 ends.2.1 ends.2.2.1 ends.2.2.2.1
  have body : ∀ line ∈ table.rows.flatMap (rowLines table.columnWidths '│'), line.IsWritable := by
    intro line member
    obtain ⟨row, among, inside⟩ := List.mem_flatMap.mp member
    exact isWritable_rowLines _ (by decide) (rows row among) line inside
  refine isWritable_closed (List.forall_mem_append.mpr ⟨List.forall_mem_append.mpr
    ⟨List.forall_mem_append.mpr ⟨?_, ?_⟩, body⟩, List.forall_mem_singleton.mpr (rule _ _ _ _ (by decide))⟩)
  · cases shown : table.title with
    | none => exact List.forall_mem_nil _
    | some text => exact List.forall_mem_singleton.mpr (isWritable_centred (title text shown) _)
  · cases shown : table.heading with
    | none => exact List.forall_mem_singleton.mpr (rule _ _ _ _ (by decide))
    | some row =>
      refine List.forall_mem_append.mpr ⟨List.forall_mem_cons.mpr ⟨rule _ _ _ _ (by decide), ?_⟩,
        List.forall_mem_singleton.mpr (rule _ _ _ _ (by decide))⟩
      exact isWritable_rowLines _ (by decide) (heading row shown)

end Table

end ProjectSurvey.Terminal
