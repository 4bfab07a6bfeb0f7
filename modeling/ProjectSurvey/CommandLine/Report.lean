import ProjectSurvey.Guidance
import ProjectSurvey.Terminal.Frame
import ProjectSurvey.Terminal.Markup
import ProjectSurvey.Tool

/-! What the commands print for people to read: an analysis as a table, its rules and its guidance;
the findings of a search as counts and guidance; and the list of the tools. -/

namespace ProjectSurvey.CommandLine

open Terminal

/-- A text without the line feeds at its ends. -/
def withoutOuterBreaks (text : Text) : Text :=
  text.trim (· = '\n')

/-- The rows of the table of an analysis, below the one that shows the root. -/
def analysisRows (analysis : Analysis) : List (Text × Text) :=
  let list (texts : List Text) : Text := Text.join ", " texts
  let profile := analysis.profile
  let configRows : List (Text × Text) :=
    if profile.configFiles.isEmpty then [] else [("Config files", list profile.configFiles)]
  let countRows : List (Text × Text) :=
    [("Components", Text.ofNat analysis.components.length),
      ("Hooks", Text.ofNat analysis.hooks.length),
      ("Imports", Text.ofNat analysis.imports.length),
      ("Patterns", Text.ofNat analysis.idioms.length)]
  ("Language".toList, profile.name) :: ("Layers".toList, list profile.layers) ::
    ("Folders".toList, list profile.folders) :: (configRows ++ countRows)

/-- The table of an analysis. The root is read as markup. -/
def analysisTable (analysis : Analysis) : Except MarkupFault Table := do
  let root ← ofMarkup analysis.root
  .ok ⟨some "Project Analysis", none, ("Root".toList, root) :: analysisRows analysis⟩

/-- What is printed one after another. -/
abbrev Prints := List Text

def analysisReport (analysis : Analysis) (category : Text) : Except MarkupFault Prints := do
  let table ← analysisTable analysis
  let rules : Panel := ⟨"Rules", architectureInstructions analysis, .full⟩
  let guidance := withEmoji (withoutOuterBreaks (patternGuidance analysis category))
  .ok [table.printed, "\n", rules.printed, printed guidance]

def findingsReport (found : Findings) : Prints :=
  let counts : Text :=
    Text.ofNat found.exactMatches.length ++ " exact, " ++ Text.ofNat found.termMatches.length
      ++ " term matches, " ++ Text.ofNat found.idioms.length ++ " patterns"
  let panel : Panel := ⟨"Search: " ++ found.category, counts, .fitting⟩
  [panel.printed, printed (withEmoji (searchGuidance found none))]

def answerReport : Answer → Except MarkupFault Prints
  | .analysis survey category => analysisReport survey category
  | .findings found => .ok (findingsReport found)

def toolsReport : Text :=
  Table.printed
    ⟨none, some ("Tool", "Description"), tools.map fun tool => (tool.name, tool.description)⟩

end ProjectSurvey.CommandLine
