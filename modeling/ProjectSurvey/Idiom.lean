import ProjectSurvey.Json.Basic
import ProjectSurvey.Pattern
import ProjectSurvey.Text.Case

/-! Idioms: recurring ways to write code, recognised by words that occur in a text. -/

namespace ProjectSurvey

structure Idiom where
  kind : Text
  label : Text
  file : Text
  example? : Option Text
  deriving DecidableEq, Repr

/-- A check for one idiom. It fires when one of the words `anyOf`, if there are such words, and all
of the words `allOf` occur. A rule without categories serves the survey of a whole project; the
others serve the search for one of their categories. -/
structure IdiomRule where
  kind : Text
  label : Text
  anyOf : List Text
  allOf : List Text
  examplePattern : Option Pattern
  categories : List Text

/-- The declaration of a state variable, up to the end of its statement. -/
def statePattern : Pattern := ⟨[.word ["const"], .most 1 .blank, .word ["["],
  .most 1 (.notOne ']'), .word ["]"], .most 0 .blank, .word ["="], .most 0 .blank,
  .word ["useState"], .most 1 (.notOne ';'), .perhaps ';']⟩

def callPattern : Pattern := ⟨[.word ["fetch", "axios"], .word ["("], .most 1 (.notOne ')'),
  .word [")"]]⟩

def projectRules : List IdiomRule := [
  ⟨"state-management", "React State", ["useState", "setState"], [], some statePattern, []⟩,
  ⟨"api-call", "API Integration", ["fetch", "axios", "api"], [], some callPattern, []⟩,
  ⟨"styling", "Component Styling", ["styled", "className", "css"], [], none, []⟩,
  ⟨"validation", "Form Validation", ["validate", "schema", "yup", "joi"], [], none, []⟩]

def categoryRules : List IdiomRule := [
  ⟨"portal", "React Portal usage detected", ["createPortal"], [], none, ["modal"]⟩,
  ⟨"keyboard", "Escape key handling detected", [], ["useEffect", "escape"], none, ["modal"]⟩,
  ⟨"backdrop", "Backdrop/overlay pattern detected", ["backdrop", "overlay"], [], none, ["modal"]⟩,
  ⟨"form-library", "React Hook Form detected", ["useForm", "react-hook-form"], [], none, ["form"]⟩,
  ⟨"validation", "Schema validation detected", ["yup", "joi", "zod"], [], none, ["form"]⟩,
  ⟨"http-client", "Axios HTTP client detected", ["axios"], [], none, ["api", "service"]⟩,
  ⟨"fetch-api", "Fetch API detected", ["fetch"], [], none, ["api", "service"]⟩]

def rulesFor : (category : Option Text) → List IdiomRule
  | none => projectRules
  | some category => categoryRules.filter fun rule => rule.categories.contains category.lower

namespace IdiomRule

def fires (rule : IdiomRule) (text : Text) : Bool :=
  (rule.anyOf.isEmpty || Text.anyOccursIn rule.anyOf text) && rule.allOf.all (·.occursIn text)

def exampleFrom (rule : IdiomRule) (text : Text) : Option Text :=
  rule.examplePattern.bind fun pattern => (pattern.first? text).map List.flatten

def toJson (rule : IdiomRule) : Json :=
  .object [("kind", .str rule.kind), ("label", .str rule.label), ("any_of", .ofTexts rule.anyOf),
    ("all_of", .ofTexts rule.allOf),
    ("example", ((rule.examplePattern.map fun pattern => .str pattern.written).getD .null)),
    ("categories", .ofTexts rule.categories)]

end IdiomRule

/-- The idioms in a file's text, in the order of the rules. -/
def idiomsOf (text file : Text) (category : Option Text) : List Idiom :=
  ((rulesFor category).filter (·.fires text)).map fun rule =>
    ⟨rule.kind, rule.label, file, rule.exampleFrom text⟩

def Idiom.toJson (idiom : Idiom) : Json :=
  let fields : List (Text × Json) :=
    [("type", .str idiom.kind), ("pattern", .str idiom.label), ("file", .str idiom.file)]
  match idiom.example? with
  | some found => .object (fields ++ [("example".toList, .str found)])
  | none => .object fields

end ProjectSurvey
