import ProjectSurvey.Text.Basic

/-! The blank characters: the white space of Unicode together with the four information
separators of ASCII. -/

namespace ProjectSurvey

def isBlank (c : Char) : Bool :=
  let n := c.toNat
  (0x09 ≤ n && n ≤ 0x0D) || (0x1C ≤ n && n ≤ 0x20) || n == 0x85 || n == 0xA0 || n == 0x1680 ||
    (0x2000 ≤ n && n ≤ 0x200A) || n == 0x2028 || n == 0x2029 || n == 0x202F || n == 0x205F ||
    n == 0x3000

/-- The maximal runs of characters that are not blank. -/
def Text.words (text : Text) : List Text :=
  (Text.splitWhere isBlank text).filter fun word => !word.isEmpty

end ProjectSurvey
