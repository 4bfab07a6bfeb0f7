import ProjectSurvey.FileTree.Canonical
import ProjectSurvey.Search
import ProjectSurvey.UsageLog
import ProjectSurvey.Yaml.Literal

/-! The settings of a project, read from the configuration file in its directory or from a file that
is named. Every setting may be left out, and so may the file. -/

namespace ProjectSurvey

def configName : Text := ".project-guard.yml"

/-- The extensions by which a path is taken for the configuration file itself. -/
def configExtensions : List Text := [".yml", ".yaml"]

structure Config where
  /-- The directory of the configuration file. -/
  root : Path
  usageLogEnabled : Bool
  usageLogDirectory : Path
  defaultCategory : Text
  verbose : Bool
  deriving DecidableEq, Repr

/-- Why there are no settings; a fault in a file comes with the file's name. -/
inductive ConfigFault where
  | unresolvable (fault : CanonicalFault)
  | inaccessible (fault : Fault)
  | undecodable (fault : Utf8.Malformed)
  | unreadable (file : Text) (failure : Failure)
  | malformed (file : Text)
  | notMapping (file : Text)
  | invalid (fault : Yaml.Fault)
  deriving DecidableEq, Repr

namespace Config

def standard (root : Path) : Config :=
  ⟨root, true, .ofText defaultLogDirectory, componentCategory, false⟩

/-- The pairs of a mapping; every other value is taken for an empty one. -/
def group (heap : Yaml.Heap) (value : Option Yaml.Value) : List (Yaml.Value × Yaml.Value) :=
  (value.bind heap.pairs?).getD []

/-- The text of a setting if that counts as set, else `otherwise`. -/
def textOr (heap : Yaml.Heap) (pairs : List (Yaml.Value × Yaml.Value)) (name otherwise : Text) :
    Except Yaml.Fault Text :=
  match (Yaml.Value.field? pairs name).filter heap.isTruthy with
  | some value => heap.toText value
  | none => .ok otherwise

/-- Whether a switch is on; `otherwise` if it is left out. -/
def switch (heap : Yaml.Heap) (pairs : List (Yaml.Value × Yaml.Value)) (name : Text)
    (otherwise : Bool) : Bool :=
  ((Yaml.Value.field? pairs name).map heap.isTruthy).getD otherwise

def ofPairs (root : Path) (heap : Yaml.Heap) (pairs : List (Yaml.Value × Yaml.Value)) :
    Except Yaml.Fault Config := do
  let usual := standard root
  let usage := group heap (Yaml.Value.field? pairs "usage_log")
  let search := group heap (Yaml.Value.field? pairs "search")
  let directory ← textOr heap usage "directory" defaultLogDirectory
  let category ← textOr heap search "default_category" componentCategory
  .ok {
    root
    usageLogEnabled := switch heap usage "enabled" usual.usageLogEnabled
    usageLogDirectory := .ofText directory
    defaultCategory := category.lower
    verbose := switch heap pairs "verbose" usual.verbose }

def usageLog (config : Config) : UsageLog :=
  if config.usageLogEnabled then .daily (config.root.join config.usageLogDirectory) else .silent

def ofText (root : Path) (file text : Text) : Except ConfigFault Config :=
  match Yaml.Data.ofText text with
  | .error .malformed => .error (.malformed file)
  | .error fault => .error (.invalid fault)
  | .ok data =>
    match data.root, data.heap.pairs? data.root with
    | .null, _ => .ok (standard root)
    | _, some pairs => (ofPairs root data.heap pairs).mapError .invalid
    | _, none => .error (.notMapping file)

end Config

/-- The configuration file for a path that leads to a project's directory or to the file itself. -/
def Place.configFile (place : Place) (homes : Homes) (path : Path) : Except ConfigFault Path := do
  let path ← (path.atHome homes).mapError .unresolvable
  let path ← (place.canonical path).mapError .unresolvable
  if configExtensions.contains path.suffix then
    let isDirectory ← (place.isDirectory path).mapError .inaccessible
    .ok (if isDirectory then path.descend [configName] else path)
  else .ok (path.descend [configName])

def Place.loadConfig (place : Place) (homes : Homes) (path : Path) : Except ConfigFault Config := do
  let file ← place.configFile homes path
  if ← (place.isFile file).mapError .inaccessible then
    let bytes ← (place.readBytes file).mapError fun fault => .unreadable file.name ⟨fault, file⟩
    let text ← (Utf8.decode bytes).mapError .undecodable
    Config.ofText file.parent file.name text.unifyNewlines
  else .ok (.standard file.parent)

/-- Whether a fault is one of the settings, which are told what is wrong with them; every other one
comes from what the file and its path hold. -/
def ConfigFault.isTold : ConfigFault → Bool
  | .unreadable .. => true
  | .malformed _ => true
  | .notMapping _ => true
  | _ => false

def unparsed (file : Text) : Text :=
  "Failed to parse " ++ file

/-- The words for what is wrong with the settings. What exactly a malformed file breaks is not
told. -/
def ConfigFault.message : ConfigFault → Text
  | .unresolvable fault => fault.message
  | .inaccessible fault => fault.systemText
  | .undecodable fault => fault.message
  | .unreadable file failure => unparsed file ++ ": " ++ failure.message
  | .malformed file => unparsed file
  | .notMapping file => file ++ " must contain a mapping at the root"
  | .invalid fault => fault.message

end ProjectSurvey
