import ProjectSurvey.Analysis

/-! Guidance: what an analysis or a search comes to, as text for whoever writes the next code. -/

namespace ProjectSurvey

def commonImportsShown : Nat := 5

/-- The number of idioms shown of each kind. -/
def idiomsShown : Nat := 3

def previewLength : Nat := 200

def relevantImportsShown : Nat := 5

def closedLines (lines : List Text) : Text :=
  Text.unlines lines ++ "\n"

/-- The architecture rules of a project and a short account of what it holds. -/
def architectureInstructions (analysis : Analysis) : Text :=
  let profile := analysis.profile
  Text.unlines [
    "ARCHITECTURE RULES FOR " ++ profile.name.upper ++ " PROJECT:",
    "- Use only layers: " ++ Text.join ", " profile.layers,
    "- Respect folder structure: " ++ Text.join ", " profile.folders,
    "- Do not create files outside these folders",
    "- Language: " ++ profile.name,
    "- Follow conventions already present in the existing code",
    "",
    "PROJECT OVERVIEW:",
    "- Detected " ++ Text.ofNat analysis.components.length ++ " existing components",
    "- Found " ++ Text.ofNat analysis.idioms.length ++ " code patterns",
    "- Project uses " ++ profile.name ++ " with " ++ Text.ofNat profile.layers.length
      ++ " architectural layers",
    "",
    "NEXT STEP: Use find_similar_code tool to search for existing patterns before creating new code."]

/-- The components that play the small category's role or bear it in their name. -/
def similarComponents (components : List Component) (category : Text) : List Component :=
  components.filter fun component =>
    component.role == category || category.occursIn component.name.lower

/-- A section of guidance: a blank line, its title, and its lines. -/
def titled (title : Text) (lines : List Text) : List Text :=
  [] :: title :: lines

def componentLine (component : Component) : Text :=
  "- " ++ component.name ++ " (" ++ component.role ++ ") in " ++ component.file

def similarLines (similar : List Component) : List Text :=
  if similar.isEmpty then []
  else
    titled "SIMILAR COMPONENTS FOUND:" (similar.map componentLine) ++
      titled "=> Follow the same pattern as these existing components!" []

/-- The packages imported most often with their counts, the earlier one first among equals. -/
def commonImports (imports : List Import) : List (Text × Nat) :=
  ((tally (imports.map (·.package))).mergeSort fun a b => b.2 ≤ a.2).take commonImportsShown

def commonImportLine (entry : Text × Nat) : Text :=
  "- " ++ entry.1 ++ " (used " ++ Text.ofNat entry.2 ++ " times)"

def commonImportLines (common : List (Text × Nat)) : List Text :=
  if common.isEmpty then []
  else titled "COMMON IMPORTS IN PROJECT:" (common.map commonImportLine)

/-- The distinct kinds of idioms in the order of their first occurrence. -/
def kindsOf (idioms : List Idiom) : List Text :=
  (tally (idioms.map (·.kind))).map (·.1)

/-- The line of an idiom and, if it has an example that is not empty, the example's. -/
def idiomLines (idiom : Idiom) : List Text :=
  let line := "- " ++ idiom.label ++ " in " ++ idiom.file
  match given? idiom.example? with
  | some found => [line, "  Example: " ++ found]
  | none => [line]

def kindLines (idioms : List Idiom) (kind : Text) : List Text :=
  titled (kind.upper ++ " PATTERNS:")
    (((idioms.filter (·.kind == kind)).take idiomsShown).flatMap idiomLines)

def patternGuidance (analysis : Analysis) (category : Text) : Text :=
  closedLines ([] :: titled "=== EXISTING PATTERNS IN PROJECT ===" (
    similarLines (similarComponents analysis.components category.lower) ++
    commonImportLines (commonImports analysis.imports) ++
    (kindsOf analysis.idioms).flatMap (kindLines analysis.idioms)))

/-- A section with a blank line after it, or nothing when it is empty. -/
def block (heading : Text) (lines : List Text) : List Text :=
  if lines.isEmpty then [] else heading :: lines ++ [[]]

def exactMatchLines (found : ExactMatch) : List Text :=
  if found.snippet.isEmpty then ["- " ++ found.file]
  else
    ["- " ++ found.file, "  Code preview:", found.snippet.take previewLength ++ "...", ""]

/-- The exact matches, which have no blank line after them but those of their previews. -/
def exactBlock (found : List ExactMatch) : List Text :=
  if found.isEmpty then []
  else
    ("EXACT MATCHES (" ++ Text.ofNat found.length ++ "):") :: found.flatMap exactMatchLines

def termMatchLine (found : TermMatch) : Text :=
  "- " ++ found.file ++ " (search: \"" ++ found.term ++ "\")"

/-- The distinct texts in the order of their first occurrence. -/
def distinct (texts : List Text) : List Text :=
  (tally texts).map (·.1)

def recommendation (found : Findings) (category : Text) : List Text :=
  if found.exactMatches.isEmpty && found.termMatches.isEmpty then
    ["NO SIMILAR CODE FOUND",
      "Consider creating a new " ++ category ++ " following the project's architecture."]
  else
    ["RECOMMENDATION:",
      "Follow the patterns found above when creating your new " ++ category ++ ".",
      "Reuse imports, structure, and coding style from existing similar components."]

/-- Summary of a search; it names the given category, or else the one that was searched for. -/
def searchGuidance (found : Findings) (category : Option Text) : Text :=
  closedLines ("=== SIMILAR CODE ANALYSIS ===".toList :: [] :: (
    exactBlock found.exactMatches ++
    block ("TERM MATCHES (" ++ Text.ofNat found.termMatches.length ++ "):")
      (found.termMatches.map termMatchLine) ++
    block "RELEVANT IMPORTS:"
      (((distinct (found.imports.map (·.statement))).take relevantImportsShown).map ("- " ++ ·)) ++
    block "CODE PATTERNS DETECTED:"
      (found.idioms.map fun idiom => "- " ++ idiom.label ++ " in " ++ idiom.file) ++
    recommendation found ((given? category).getD found.category)))

end ProjectSurvey
