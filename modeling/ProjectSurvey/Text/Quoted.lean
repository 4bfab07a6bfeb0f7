import ProjectSurvey.Text.Case
import ProjectSurvey.Text.PrintableTable
import ProjectSurvey.Text.Surrogate

/-! A text between quotes with everything invisible escaped. Single quotes stand around it unless
it holds a single quote and no double quote. -/

namespace ProjectSurvey.Text

/-- Whether a character has a visible form or is the plain space. -/
def isPrintable (c : Char) : Bool :=
  if c.toNat < 0x80 then 0x20 ≤ c.toNat && c.toNat < 0x7F
  else !inRanges unprintableRanges c.toNat

/-- A character as it is written between the quotes `quote`. -/
def quotedChar (quote c : Char) : Text :=
  if c = quote || c = '\\' then ['\\', c]
  else if c = '\t' then "\\t"
  else if c = '\n' then "\\n"
  else if c = '\r' then "\\r"
  else if isPrintable c then [c]
  else
    let n := codePoint c
    if n < 0x100 then "\\x" ++ padded 16 2 n
    else if n < 0x10000 then "\\u" ++ padded 16 4 n
    else "\\U" ++ padded 16 8 n

/-- A text between quotes. -/
def quoted (text : Text) : Text :=
  let quote := if text.contains '\'' && !text.contains '"' then '"' else '\''
  quote :: text.flatMap (quotedChar quote) ++ [quote]

end ProjectSurvey.Text
