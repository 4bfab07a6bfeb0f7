import ProjectSurvey.Text.Case

/-! Snippets: the few lines of a text that are shown for a match. -/

namespace ProjectSurvey

/-- After how many lines the capture of a declaration ends. -/
def captureLimit : Nat := 50

/-- The greatest number of lines of a declaration that are shown. -/
def shownLimit : Nat := 30

def linesBefore : Nat := 5

def linesAfter : Nat := 10

/-- The words one of which makes a line a declaration. -/
def declarationWords : List Text := ["function", "class", "const"]

/-- Whether a line, in small letters, mentions `category` and has a declaration word. -/
def declares (category line : Text) : Bool :=
  category.occursIn line.lower && Text.anyOccursIn declarationWords line.lower

/-- The number of opening braces less that of closing ones. -/
def braceBalance (line : Text) : Int :=
  (line.count '{' : Int) - line.count '}'

/-- The lines captured after those in `done`, which are backwards and leave `depth` braces open.
The capture ends with the line that closes them all, or at the limit. -/
def captureOnto (done : List Text) (depth : Int) : List Text → List Text
  | [] => done.reverse
  | line :: rest =>
    if captureLimit ≤ done.length then done.reverse
    else
      let depth := depth + braceBalance line
      if depth ≤ 0 then (line :: done).reverse else captureOnto (line :: done) depth rest

/-- The first declaration in a text that mentions `category`, cut at its closing brace; nothing if
there is none. -/
def declarationSnippet (text category : Text) : Text :=
  match text.lines.dropWhile fun line => !declares category.lower line with
  | [] => []
  | first :: rest =>
    Text.unlines ((captureOnto [first] (braceBalance first) rest).take shownLimit)

/-- The lines around the first one that mentions `term`; nothing if none does. -/
def termSnippet (text term : Text) : Text :=
  match text.lines.findIdx? fun line => term.lower.occursIn line.lower with
  | none => []
  | some index =>
    let start := index - linesBefore
    Text.unlines ((text.lines.drop start).take (index + linesAfter + 1 - start))

end ProjectSurvey
