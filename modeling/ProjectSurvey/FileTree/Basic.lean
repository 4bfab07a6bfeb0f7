import ProjectSurvey.Path
import ProjectSurvey.Text.Surrogate

/-! A tree of files: regular files, symbolic links and directories, with the ways in which asking
for one of them can fail. -/

namespace ProjectSurvey

inductive Node where
  | file (content : Bytes)
  | link (target : Text)
  | directory (entries : List (Text × Node))

/-- A place in a file tree: the names that lead to it from the root. -/
abbrev Location := List Text

inductive Fault where
  | missing
  | exists
  | notDirectory
  | isDirectory
  | nameTooLong
  | tooManyLinks
  /-- The path holds a NUL character, which no name can hold. -/
  | nulCharacter
  /-- The path holds lone surrogates, which no name can hold. -/
  | unencodable (cause : Text.Unencodable)
  deriving DecidableEq, Repr

/-- The number and the words by which a system reports a fault. -/
def Fault.systemText : Fault → Text
  | .missing => "[Errno 2] No such file or directory"
  | .exists => "[Errno 17] File exists"
  | .notDirectory => "[Errno 20] Not a directory"
  | .isDirectory => "[Errno 21] Is a directory"
  | .nameTooLong => "[Errno 36] File name too long"
  | .tooManyLinks => "[Errno 40] Too many levels of symbolic links"
  | .nulCharacter => "embedded null byte"
  | .unencodable cause => cause.message

/-- Whether a fault is one of the text of a path, so that the path is asked for nowhere. -/
def Fault.isOfText : Fault → Bool
  | .nulCharacter | .unencodable _ => true
  | _ => false

/-- Whether a fault only says that nothing stands at a path. -/
def Fault.isAbsence : Fault → Bool
  | .missing | .notDirectory | .tooManyLinks | .nulCharacter | .unencodable _ => true
  | .exists | .isDirectory | .nameTooLong => false

namespace Node

def childNamed? (entries : List (Text × Node)) (name : Text) : Option Node :=
  (entries.find? (·.1 == name)).map (·.2)

/-- What stands at a place, following no link. -/
def at? (tree : Node) : Location → Option Node
  | [] => some tree
  | name :: location =>
    match tree with
    | .directory entries => (childNamed? entries name).bind (·.at? location)
    | _ => none

/-- The entries with the one called `name` replaced, or added at the end. -/
def setEntry (entries : List (Text × Node)) (name : Text) (node : Node) : List (Text × Node) :=
  if entries.any (·.1 == name) then
    entries.map fun entry => if entry.1 == name then (name, node) else entry
  else
    entries ++ [(name, node)]

/-- The tree with `node` at a place whose directory exists. -/
def put : Node → Location → Node → Node
  | _, [], node => node
  | .directory entries, [name], node => .directory (setEntry entries name node)
  | .directory entries, name :: location, node =>
    match childNamed? entries name with
    | some child => .directory (setEntry entries name (child.put location node))
    | none => .directory entries
  | other, _, _ => other
  termination_by structural _ location => location

def remove : Node → Location → Node
  | tree, [] => tree
  | .directory entries, [name] => .directory (entries.filter (·.1 != name))
  | .directory entries, name :: location =>
    match childNamed? entries name with
    | some child => .directory (setEntry entries name (child.remove location))
    | none => .directory entries
  | other, _ => other
  termination_by structural _ location => location

end Node

/-- A file tree together with the directory in which paths that are not absolute start. -/
structure Place where
  tree : Node
  current : Location

namespace Place

def currentPath (place : Place) : Path :=
  .ofLocation place.current

/-- Whether the current directory is there. It can be removed while the program is in it; paths that
start in it then lead nowhere. -/
def hasCurrent (place : Place) : Bool :=
  (place.tree.at? place.current).isSome

/-- The path of the current directory, which has none once it has been removed. -/
def workingDirectory (place : Place) : Except Fault Path :=
  if place.hasCurrent then .ok place.currentPath else .error .missing

/-- The path from the root for a path whose `..` are taken back before links are followed. -/
def absolute (place : Place) (path : Path) : Except Fault Path :=
  let parts := path.absoluteParts place.current
  if path.anchor ≠ .here then .ok ⟨path.anchor, parts⟩
  else if place.hasCurrent then .ok (.ofLocation parts)
  else .error .missing

end Place

end ProjectSurvey
