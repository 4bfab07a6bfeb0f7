import ProjectSurvey.Text.Surrogate

/-! The order of texts: by the first code point in which they differ, a text before its
continuations. -/

namespace ProjectSurvey.Text

/-- Whether two texts stand in order, equal ones included. -/
def inOrder : Text → Text → Bool
  | [], _ => true
  | _ :: _, [] => false
  | a :: first, b :: second =>
    codePoint a < codePoint b || (codePoint a == codePoint b && inOrder first second)

end ProjectSurvey.Text
