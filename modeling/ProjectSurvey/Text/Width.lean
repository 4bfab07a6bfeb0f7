import ProjectSurvey.Text.Case
import ProjectSurvey.Text.WidthTable

/-! The number of terminal cells that a text fills. -/

namespace ProjectSurvey.Text

def charWidth (c : Char) : Nat :=
  let n := c.toNat
  if 0x20 ≤ n && n < 0x7F then 1
  else if inRanges zeroWidthRanges n then 0
  else if inRanges wideRanges n then 2
  else 1

def width (text : Text) : Nat :=
  text.foldl (fun cells c => cells + charWidth c) 0

end ProjectSurvey.Text
