import ProjectSurvey.Text.Blank
import ProjectSurvey.Text.Width

/-! Filling a terminal's lines. A line is cut into words, each with the blanks after it, and the words
go on a line as long as they fit without those blanks. Widths are counted in cells. -/

namespace ProjectSurvey.Terminal

def lineWidth : Nat := 80

/-- The distance between the positions that a tab leads to. -/
def tabWidth : Nat := 8

/-- Whether a control character would move the terminal's cursor, and is left out for that. -/
def isMovement (c : Char) : Bool :=
  let n := c.toNat
  n == 0x07 || n == 0x08 || n == 0x0B || n == 0x0C || n == 0x0D

/-- A text without the control characters that would move the cursor. -/
def cleaned (text : Text) : Text :=
  text.filter fun c => !isMovement c

/-- A line with blanks in place of its tabs; `cells` stand before it. -/
def expandTabs (cells : Nat) : Text → Text
  | [] => []
  | c :: rest =>
    if c = '\t' then
      let blanks := tabWidth - cells % tabWidth
      List.replicate blanks ' ' ++ expandTabs (cells + blanks) rest
    else c :: expandTabs (cells + Text.charWidth c) rest

/-- A line cut wherever a blank is followed by something else. -/
def runs (line : Text) : List Text :=
  line.foldr
    (fun c found =>
      match found with
      | (d :: run) :: others =>
        if isBlank c && !isBlank d then [c] :: (d :: run) :: others else (c :: d :: run) :: others
      | _ => [[c]])
    []

/-- The words of a line, each with the blanks after it and the first also with those before it. A
line of blanks has none. -/
def spacedWords (line : Text) : List Text :=
  match runs line with
  | first :: second :: others =>
    if first.all isBlank then (first ++ second) :: others else first :: second :: others
  | [only] => if only.all isBlank then [] else [only]
  | [] => []

/-- A word cut into pieces of at most `limit` cells. -/
def chop (limit : Nat) (word : Text) : List Text :=
  let (done, piece, _) := word.foldl
    (fun (done, piece, cells) c =>
      if limit < cells + Text.charWidth c then (piece.reverse :: done, [c], Text.charWidth c)
      else (done, c :: piece, cells + Text.charWidth c))
    (([] : List Text), ([] : Text), 0)
  (piece.reverse :: done).reverse

/-- Lines that are being filled: the full ones backwards, and the last one with the number of cells
that it fills. -/
structure Filling where
  full : List Text
  line : Text
  cells : Nat

namespace Filling

def start : Filling := ⟨[], [], 0⟩

/-- Puts a text at the start of a line. -/
def onNewLine (filling : Filling) (text : Text) : Filling :=
  if filling.full.isEmpty && filling.line.isEmpty then ⟨[], text, Text.width text⟩
  else ⟨filling.line :: filling.full, text, Text.width text⟩

/-- Puts a word where it fits without the blanks after it. With `folds` a word that is too long for
every line is cut. -/
def add (limit : Nat) (folds : Bool) (filling : Filling) (word : Text) : Filling :=
  let needed := Text.width (Text.trimEnd isBlank word)
  if filling.cells + needed ≤ limit then
    ⟨filling.full, filling.line ++ word, filling.cells + Text.width word⟩
  else if folds && limit < needed then (chop limit word).foldl onNewLine filling
  else filling.onNewLine word

def lines (filling : Filling) : List Text :=
  (filling.line :: filling.full).reverse

end Filling

/-- What becomes of a word that is too long for a line. -/
inductive Overflow where
  | fold
  /-- The end of the line is replaced by three dots. -/
  | ellipsis
  deriving DecidableEq, Repr

/-- The start of a line that is too long, so that it fills `limit` cells; a blank stands for half of
a wide character. The end of that start is looked for between two positions by halving, which also
decides how many of the characters without a width at the end are kept. -/
def cutWithin (limit : Nat) (line : Text) (first last : Nat) : Text :=
  let middle := (first + last) / 2
  let start := line.take (middle + 1)
  let cells := Text.width start
  if cells = limit + 1 && start.getLast?.map Text.charWidth = some 2 then start.dropLast ++ [' ']
  else if cells = limit || last ≤ first + 1 then start
  else if limit < cells then cutWithin limit line first middle
  else cutWithin limit line middle last
termination_by last - first
decreasing_by all_goals (simp_all; omega)

def cut (limit : Nat) (line : Text) : Text :=
  if limit = 0 then [] else cutWithin limit line 0 line.length

/-- A line without as many of the blanks at its end as it is too long. -/
def cropEnd (limit : Nat) (line : Text) : Text :=
  let blanks := line.length - (Text.trimEnd isBlank line).length
  line.take (line.length - min blanks (line.length - limit))

/-- A line that fills at most `limit` cells. -/
def fit (overflow : Overflow) (limit : Nat) (line : Text) : Text :=
  if Text.width line ≤ limit then line
  else match overflow with
    | .fold => cut limit line
    | .ellipsis => cut (limit - 1) line ++ ['…']

/-- The lines of at most `limit` cells that one line is cut into. -/
def wrapLine (overflow : Overflow) (limit : Nat) (line : Text) : List Text :=
  let line := expandTabs 0 line
  let lines :=
    match spacedWords line with
    | [] => [line]
    | words => (words.foldl (Filling.add limit (overflow = Overflow.fold)) .start).lines
  lines.map fun line => fit overflow limit (cropEnd limit line)

/-- The lines of at most `limit` cells that a text is cut into. -/
def wrap (overflow : Overflow) (limit : Nat) (text : Text) : List Text :=
  (Text.lines (cleaned text)).flatMap (wrapLine overflow limit)

def printed (text : Text) : Text :=
  Text.unlines (wrap .fold lineWidth text) ++ ['\n']

/-- A line filled up with blanks to `limit` cells. -/
def padded (limit : Nat) (line : Text) : Text :=
  line ++ List.replicate (limit - Text.width line) ' '

/-- A line in the middle of `limit` cells. -/
def centred (limit : Nat) (line : Text) : Text :=
  padded limit (List.replicate ((limit - Text.width line) / 2) ' ' ++ line)

end ProjectSurvey.Terminal
