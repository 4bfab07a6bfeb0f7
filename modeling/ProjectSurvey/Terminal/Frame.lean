import ProjectSurvey.Terminal.Wrap

/-! Frames of lines: panels around a text, and tables of two columns. -/

namespace ProjectSurvey.Terminal

/-- The two cells of a row with a blank on each side of their text. -/
def blankSides (line : Text) : Text :=
  ' ' :: line ++ [' ']

/-! Panels -/

inductive PanelWidth where
  | full
  /-- As wide as its text or its title. -/
  | fitting
  deriving DecidableEq, Repr

/-- A text in a frame with a title in its upper edge. -/
structure Panel where
  title : Text
  text : Text
  width : PanelWidth

def widest (texts : List Text) : Nat :=
  (texts.map Text.width).foldl max 0

/-- Whether a line ends before this character, in measuring how wide a text is. -/
def isLineBoundary (c : Char) : Bool :=
  let n := c.toNat
  (0x0A ≤ n && n ≤ 0x0D) || (0x1C ≤ n && n ≤ 0x1E) || n == 0x85 || n == 0x2028 || n == 0x2029

/-- The number of cells that a text fills where each of its lines has room. -/
def measure (text : Text) : Nat :=
  widest (Text.splitWhere isLineBoundary (cleaned text))

namespace Panel

/-- The title on one line between blanks. -/
def titleText (panel : Panel) : Text :=
  let line := (cleaned panel.title).map fun c => if c = '\n' then ' ' else c
  blankSides (expandTabs 0 line)

/-- The number of cells between the sides of the frame. -/
def innerWidth (panel : Panel) : Nat :=
  let room := lineWidth - 2
  match panel.width with
  | .full => room
  | .fitting =>
    min room
      (max (measure panel.text + 2) (Text.width panel.titleText + 2))

/-- The upper edge: the title in the middle of a line. -/
def upperEdge (panel : Panel) : Text :=
  let room := panel.innerWidth - 2
  let title := fit .fold room panel.titleText
  let excess := room - Text.width title
  let left := excess / 2
  let line := List.replicate left '─' ++ title ++ List.replicate (excess - left) '─'
  "╭─" ++ cropEnd room line ++ "─╮"

def lines (panel : Panel) : List Text :=
  let room := panel.innerWidth - 2
  let content := (wrap .fold room panel.text).map fun line =>
    '│' :: blankSides (padded room line) ++ ['│']
  panel.upperEdge :: content
    ++ [('╰' :: List.replicate panel.innerWidth '─' ++ ['╯'] : Text)]

def printed (panel : Panel) : Text :=
  panel.lines.flatMap (· ++ ['\n'])

end Panel

/-! Tables -/

/-- A table of two columns, of which the second is the wider one if the table does not fit the
line. -/
structure Table where
  title : Option Text
  heading : Option (Text × Text)
  rows : List (Text × Text)

/-- A line of a frame: its two ends, what stands between its columns, and what fills them. -/
structure Rule where
  left : Char
  middle : Char
  right : Char
  fill : Char

namespace Table

def allRows (table : Table) : List (Text × Text) :=
  table.heading.toList ++ table.rows

/-- The number of cells of the two columns without the blanks at their sides. -/
def columnWidths (table : Table) : Nat × Nat :=
  let first := (table.allRows.map fun row => measure row.1).foldl max 0
  let second := (table.allRows.map fun row => measure row.2).foldl max 0
  (first, min second (lineWidth - 7 - first))

def ruleText (widths : Nat × Nat) (rule : Rule) : Text :=
  rule.left :: List.replicate (widths.1 + 2) rule.fill ++ rule.middle ::
    List.replicate (widths.2 + 2) rule.fill ++ [rule.right]

def cellLines (width : Nat) (text : Text) : List Text :=
  wrap .ellipsis width text

/-- The lines of a row between the sides of a frame; the shorter of its cells is filled up with
blank lines. -/
def rowLines (widths : Nat × Nat) (side : Char) (row : Text × Text) : List Text :=
  let first := cellLines widths.1 row.1
  let second := cellLines widths.2 row.2
  (List.range (max first.length second.length)).map fun n =>
    side :: blankSides (padded widths.1 (first.getD n [])) ++ side ::
      blankSides (padded widths.2 (second.getD n [])) ++ [side]

def lines (table : Table) : List Text :=
  let widths := table.columnWidths
  let title := (table.title.map fun title => centred (widths.1 + widths.2 + 7) title).toList
  let head : List Text :=
    match table.heading with
    | none => [ruleText widths ⟨'┌', '┬', '┐', '─'⟩]
    | some heading =>
      ruleText widths ⟨'┏', '┳', '┓', '━'⟩ :: rowLines widths '┃' heading
        ++ [ruleText widths ⟨'┡', '╇', '┩', '━'⟩]
  title ++ head ++ table.rows.flatMap (rowLines widths '│')
    ++ [ruleText widths ⟨'└', '┴', '┘', '─'⟩]

def printed (table : Table) : Text :=
  table.lines.flatMap (· ++ ['\n'])

end Table

end ProjectSurvey.Terminal
