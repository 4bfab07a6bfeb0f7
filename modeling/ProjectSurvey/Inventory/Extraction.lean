import ProjectSurvey.Inventory.Record
import ProjectSurvey.Inventory.Role
import ProjectSurvey.Pattern

/-! Extraction of components, hooks and imports from the text of one file. Matching is by pattern
on the raw text; the grammar of the scanned language plays no part. -/

namespace ProjectSurvey

/-- A declaration keyword and a capitalised name, which is the third piece with the fourth. -/
def componentPattern : Pattern := ⟨[.word ["class", "function", "const"], .most 1 .blank,
  .one .capital, .most 0 .alphanumeric]⟩

/-- A name that begins with `use` or `on` and a capital. -/
def hookPattern : Pattern := ⟨[.word ["use", "on"], .one .capital, .most 0 .alphanumeric]⟩

/-- An import statement within quotes, of which the seventh piece names the package. -/
def importPattern : Pattern := ⟨[.word ["import"], .most 1 .blank, .fewest .withinLine,
  .word ["from"], .most 1 .blank, .one .quote, .most 1 .notQuote, .one .quote]⟩

def componentNames (text : Text) : List Text :=
  (componentPattern.finds text).map fun parts => (parts.drop 2).flatten

def hookNames (text : Text) : List Text :=
  (hookPattern.finds text).map List.flatten

/-- The imports of a text as package and statement, those by relative path left out. -/
def externalImports (text : Text) : List (Text × Text) :=
  (importPattern.finds text).filterMap fun parts =>
    let package := (parts[6]?).getD []
    if ".".toList.isPrefixOf package then none else some (package, parts.flatten)

def componentsOf (text file : Text) : List Component :=
  let judged := judgedRules text.lower
  (componentNames text).map fun name => ⟨name, file, roleBy judged name.lower⟩

def Inventory.ofText (text file : Text) : Inventory where
  components := componentsOf text file
  hooks := (hookNames text).map fun name => ⟨name, file⟩
  imports := (externalImports text).map fun (package, statement) => ⟨package, file, statement⟩

end ProjectSurvey
