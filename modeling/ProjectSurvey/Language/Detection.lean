import ProjectSurvey.Diagnostics
import ProjectSurvey.FileTree.Walk
import ProjectSurvey.Json.Parser
import ProjectSurvey.Language.Profile

/-! Detection of a project's language: by its package manifest, else by the first marker file
listed in its root, else by the file extension that most of its files have. -/

namespace ProjectSurvey

inductive DetectionFault where
  | unreadable (failure : Failure)
  | undecodable (fault : Utf8.Malformed)
  | unparsable (fault : Json.Fault)
  deriving DecidableEq, Repr

namespace DetectionFault

def message : DetectionFault → Text
  | .unreadable failure =>
    if failure.fault = .nulCharacter then "listdir: embedded null character in path"
    else failure.message
  | .undecodable fault => fault.message
  | .unparsable fault => fault.message

/-- Whether detection is given up without a sound: too deep nesting is not. -/
def isExpected : DetectionFault → Bool
  | .unparsable (.tooDeep _) => false
  | _ => true

end DetectionFault

/-- The text of the file that a path leads to, line ends unified. -/
def Place.readText (place : Place) (path : Path) : Except DetectionFault Text := do
  let bytes ← (place.readBytes path).mapError fun fault => .unreadable ⟨fault, path⟩
  let text ← (Utf8.decode bytes).mapError .undecodable
  .ok text.unifyNewlines

def manifestName : Text := "package.json"

/-- The name of the file that marks a manifest's project as typescript whatever it declares. -/
def compilerConfigName : Text := "tsconfig.json"

/-- Whether a manifest lists typescript among its dependencies, by a value that counts as set. -/
def declaresTypescript (manifest : Json) : Bool :=
  match manifest with
  | .object fields =>
    ["devDependencies".toList, "dependencies".toList].any fun group =>
      match Json.field? fields group with
      | some (.object packages) => ((Json.field? packages "typescript").map (·.isTruthy)).getD false
      | _ => false
  | _ => false

/-- The name of a file that shows the language, or the end of such a name. -/
inductive Marker where
  | called (name : Text)
  | endingIn (ending : Text)
  deriving DecidableEq, Repr

def Marker.fits (marker : Marker) (listed : Text) : Bool :=
  match marker with
  | .called name => listed == name
  | .endingIn ending => ending.isSuffixOf listed

/-- The languages that a file marks, in the order in which they are tried. -/
def markers : List (Text × List Marker) := [
  ("python", [.called "requirements.txt", .called "pyproject.toml", .called "setup.py",
    .called "poetry.lock"]),
  ("java", [.called "pom.xml", .called "build.gradle"]),
  ("csharp", [.endingIn ".csproj", .endingIn ".sln"]),
  ("go", [.called "go.mod"]),
  ("rust", [.called "Cargo.toml"]),
  ("php", [.called "composer.json"])]

def markedLanguage? (names : List Text) : Option Text :=
  (markers.find? fun entry => entry.2.any fun marker => names.any marker.fits).map (·.1)

def extensionLanguages : List (Text × Text) := [
  (".js", "javascript"), (".mjs", "javascript"), (".ts", "typescript"), (".tsx", "typescript"),
  (".py", "python"), (".java", "java"), (".cs", "csharp"), (".go", "go"), (".rs", "rust"),
  (".php", "php")]

/-- The values with the number of their occurrences, in the order of the first ones. -/
def tally (values : List Text) : List (Text × Nat) :=
  values.foldl
    (fun counts value =>
      if counts.any (·.1 == value) then
        counts.map fun entry => if entry.1 == value then (entry.1, entry.2 + 1) else entry
      else counts ++ [(value, 1)])
    []

/-- The entry with the greatest count, the first one among several. -/
def leading? (counts : List (Text × Nat)) : Option (Text × Nat) :=
  counts.foldl
    (fun best entry =>
      match best with
      | none => some entry
      | some champion => if champion.2 < entry.2 then some entry else some champion)
    none

def votedLanguage (files : List Path) : Text :=
  match leading? (tally (files.map fun path => path.suffix.lower)) with
  | none => Profile.unknown.name
  | some (extension, _) =>
    ((extensionLanguages.find? (·.1 == extension)).map (·.2)).getD Profile.unknown.name

/-- The language of a project with a manifest, whose root holds `names`. -/
def manifestLanguage (place : Place) (root : Path) (names : List Text) :
    Except DetectionFault Text := do
  let text ← place.readText (root.descend [manifestName])
  let manifest ← (Json.parse text).mapError .unparsable
  if declaresTypescript manifest || names.contains compilerConfigName then .ok "typescript"
  else .ok "javascript"

def detectLanguage (place : Place) (root : Path) : Except DetectionFault Text := do
  let names ← (place.list root).mapError fun fault => .unreadable ⟨fault, root⟩
  if names.contains manifestName then manifestLanguage place root names
  else match markedLanguage? names with
    | some language => .ok language
    | none =>
      let files ← (place.walk root).mapError fun fault => .unreadable ⟨fault, root⟩
      .ok (votedLanguage files)

/-- The profile of the project at `root`; unknown when its language cannot be told. -/
def classify (place : Place) (root : Path) : Except DetectionFault Profile :=
  match detectLanguage place root with
  | .ok language => .ok (.named language)
  | .error fault => if fault.isExpected then .ok .unknown else .error fault

def classifyNotes (place : Place) (root : Path) : List Note :=
  match detectLanguage place root with
  | .ok _ => []
  | .error fault =>
    if fault.isExpected then
      [⟨"language", .debug,
        "Language detection failed for " ++ root.toText ++ ": " ++ fault.message⟩]
    else []

end ProjectSurvey
