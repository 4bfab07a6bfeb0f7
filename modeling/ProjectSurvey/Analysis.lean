import ProjectSurvey.Language.Detection
import ProjectSurvey.Search

/-! The analysis of a project: its language and the inventory of all its source files. -/

namespace ProjectSurvey

structure Analysis where
  root : Text
  profile : Profile
  components : List Component
  hooks : List Hook
  imports : List Import
  idioms : List Idiom
  deriving DecidableEq, Repr

inductive SurveyFault where
  | unwalkable (fault : Fault)
  | undetectable (fault : DetectionFault)
  deriving DecidableEq, Repr

def Inventory.ofSources (sources : List Source) : Inventory :=
  let inventories := sources.map fun source => Inventory.ofText source.text source.file
  { components := inventories.flatMap (·.components)
    hooks := inventories.flatMap (·.hooks)
    imports := inventories.flatMap (·.imports) }

def extract (place : Place) (root : Path) (extensions : List Text) : Except Fault Inventory := do
  let sources ← place.sources root extensions
  .ok (.ofSources sources)

def Analysis.ofSources (root : Text) (profile : Profile) (sources : List Source) : Analysis :=
  let inventory := Inventory.ofSources sources
  { root, profile
    components := inventory.components
    hooks := inventory.hooks
    imports := inventory.imports
    idioms := sources.flatMap fun source => idiomsOf source.text source.file none }

/-- Analyses the project at a path, or the one in the current directory. -/
def analyze (place : Place) (path : Option Text) : Except SurveyFault Analysis := do
  let root ← (place.rootAt path).mapError .unwalkable
  let profile ← (classify place root).mapError .undetectable
  let sources ← (place.sources root sourceExtensions).mapError .unwalkable
  .ok (.ofSources root.toText profile sources)

/-- The message at the end of an analysis of `count` source files. -/
def Analysis.note (analysis : Analysis) (count : Nat) : Note :=
  ⟨"analyzer", .debug, "Analyzed " ++ analysis.root ++ ": " ++ analysis.profile.name ++ ", "
    ++ Text.ofNat count ++ " source files, " ++ Text.ofNat analysis.components.length
    ++ " components"⟩

/-- Analyses a project and tells what there is to say on the way, as it comes up. -/
def analyzeAndTell (listener : Listener) (place : Place) (path : Option Text) :
    Place × Except SurveyFault Analysis :=
  match place.rootAt path with
  | .error fault => (place, .error (.unwalkable fault))
  | .ok root =>
    match classify place root with
    | .error fault => (place, .error (.undetectable fault))
    | .ok profile =>
      match (listener place (classifyNotes place root)).tellSources listener root sourceExtensions with
      | (place, .error fault) => (place, .error (.unwalkable fault))
      | (place, .ok sources) =>
        let found := Analysis.ofSources root.toText profile sources
        (listener place [found.note sources.length], .ok found)

/-- Where nothing takes up messages the analysis is that of the place as it is. -/
theorem analyzeAndTell_silent (place : Place) (path : Option Text) :
    analyzeAndTell .silent place path = (place, analyze place path) := by
  dsimp only [analyzeAndTell, analyze]
  cases place.rootAt path with
  | error fault => rfl
  | ok root =>
    dsimp only [bind, Except.bind, Except.mapError]
    cases classify place root with
    | error fault => rfl
    | ok profile =>
      simp only [show ∀ notes, Listener.silent place notes = place from fun _ => rfl,
        Place.tellSources_silent]
      cases place.sources root sourceExtensions <;> rfl

def Analysis.toJson (analysis : Analysis) : Json :=
  let found : Json := .object [
    ("components", .array (analysis.components.map (·.toJson))),
    ("hooks", .array (analysis.hooks.map (·.toJson))),
    ("imports", .array (analysis.imports.map (·.toJson))),
    ("patterns", .array (analysis.idioms.map (·.toJson)))]
  .object (("root".toList, .str analysis.root) :: analysis.profile.fields ++
    [("allowedLanguages".toList, .ofTexts [analysis.profile.name]),
      ("existingPatterns".toList, found)])

end ProjectSurvey
