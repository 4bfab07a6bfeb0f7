import ProjectSurvey.Idiom
import ProjectSurvey.Inventory.Extraction
import ProjectSurvey.Snippet
import ProjectSurvey.Source
import ProjectSurvey.Text.Quoted

/-! The search of a project for code like what is about to be written. -/

namespace ProjectSurvey

def componentCategory : Text := "component"

def exactScore : Int := 100

def termScore : Int := 80

structure ExactMatch where
  file : Text
  snippet : Text
  score : Int
  deriving DecidableEq, Repr

structure TermMatch where
  file : Text
  term : Text
  snippet : Text
  score : Int
  deriving DecidableEq, Repr

/-- What a search found, each kind in the order in which the files were visited. -/
structure Findings where
  category : Text
  term : Text
  exactMatches : List ExactMatch
  termMatches : List TermMatch
  imports : List Import
  idioms : List Idiom
  deriving DecidableEq, Repr

/-- Further words in the name of a package that make its import relevant to a category. -/
def packageAliases (category : Text) : List Text :=
  let aliases : List (Text × List Text) :=
    [("modal", ["dialog", "popup"]), ("button", ["btn"]), ("form", ["input"])]
  ((aliases.find? (·.1 == category)).map (·.2)).getD []

/-- Whether an import of `package` by `statement` relates to a small category. -/
def isRelevant (category package statement : Text) : Bool :=
  category.occursIn package.lower || category.occursIn statement.lower ||
    Text.anyOccursIn (packageAliases category) package.lower

/-- The external imports in a file's text that relate to a category. -/
def relevantImports (text file category : Text) : List Import :=
  ((externalImports text).filter fun found => isRelevant category.lower found.1 found.2).map
    fun found => ⟨found.1, file, found.2⟩

/-- What is asked of a search; what is left out or empty has a default. -/
structure Query where
  path : Option Text
  category : Option Text
  term : Option Text
  deriving DecidableEq, Repr

/-- A given text unless it is empty. -/
def given? (value : Option Text) : Option Text :=
  value.filter fun text => !text.isEmpty

/-- The root of the project at a given path: the current directory unless one is named. -/
def Place.rootAt (place : Place) (path : Option Text) : Except Fault Path :=
  match given? path with
  | some text => .ok (.ofText text)
  | none => place.workingDirectory

def Query.smallCategory (query : Query) : Text :=
  ((given? query.category).getD componentCategory).lower

/-- The match of a source file with a small category, if it resembles it. -/
def exactMatch? (category : Text) (source : Source) : Option ExactMatch :=
  if category.occursIn source.path.name.lower || category.occursIn source.text.lower then
    some ⟨source.file, declarationSnippet source.text category, exactScore⟩
  else none

/-- The match of a source file with a term, if it mentions it. -/
def termMatch? (term : Text) (source : Source) : Option TermMatch :=
  if !term.lower.isEmpty && term.lower.occursIn source.text.lower then
    some ⟨source.file, term, termSnippet source.text term, termScore⟩
  else none

/-- What a search for a small category and a term finds in source files. -/
def Findings.ofSources (category term : Text) (sources : List Source) : Findings where
  category := category
  term := term
  exactMatches := sources.filterMap (exactMatch? category)
  termMatches := sources.filterMap (termMatch? term)
  imports := sources.flatMap fun source => relevantImports source.text source.file category
  idioms := sources.flatMap fun source => idiomsOf source.text source.file (some category)

def search (place : Place) (query : Query) : Except Fault Findings := do
  let root ← place.rootAt query.path
  let sources ← place.sources root sourceExtensions
  .ok (.ofSources query.smallCategory (query.term.getD []) sources)

def Findings.note (found : Findings) (root : Path) : Note :=
  ⟨"search", .debug, "Search " ++ found.category.quoted ++ "/" ++ found.term.quoted ++ " in "
    ++ root.toText ++ ": " ++ Text.ofNat found.exactMatches.length ++ " exact, "
    ++ Text.ofNat found.termMatches.length ++ " term"⟩

/-- Searches a project and tells what there is to say on the way, as it comes up. -/
def searchAndTell (listener : Listener) (place : Place) (query : Query) :
    Place × Except Fault Findings :=
  match place.rootAt query.path with
  | .error fault => (place, .error fault)
  | .ok root =>
    match place.tellSources listener root sourceExtensions with
    | (place, .error fault) => (place, .error fault)
    | (place, .ok sources) =>
      let found := Findings.ofSources query.smallCategory (query.term.getD []) sources
      (listener place [found.note root], .ok found)

/-- Where nothing takes up messages the findings are those of the place as it is. -/
theorem searchAndTell_silent (place : Place) (query : Query) :
    searchAndTell .silent place query = (place, search place query) := by
  unfold searchAndTell search
  simp only [Place.tellSources_silent]
  cases place.rootAt query.path with
  | error fault => rfl
  | ok root =>
    dsimp only [bind, Except.bind]
    cases place.sources root sourceExtensions <;> rfl

def ExactMatch.toJson (found : ExactMatch) : Json :=
  .object [("file", .str found.file), ("snippet", .str found.snippet), ("score", .int found.score)]

def TermMatch.toJson (found : TermMatch) : Json :=
  .object [("file", .str found.file), ("searchTerm", .str found.term),
    ("snippet", .str found.snippet), ("score", .int found.score)]

def Findings.toJson (found : Findings) : Json :=
  .object [("componentType", .str found.category), ("searchTerm", .str found.term),
    ("exactMatches", .array (found.exactMatches.map (·.toJson))),
    ("termMatches", .array (found.termMatches.map (·.toJson))),
    ("imports", .array (found.imports.map (·.toJson))),
    ("patterns", .array (found.idioms.map (·.toJson)))]

end ProjectSurvey
