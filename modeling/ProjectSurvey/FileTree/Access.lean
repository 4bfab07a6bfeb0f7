import ProjectSurvey.FileTree.Resolve
import ProjectSurvey.Text.Quoted

/-! Reading and changing a file tree by path. -/

namespace ProjectSurvey

structure Failure where
  fault : Fault
  /-- The path that was asked for; none where the current directory was. -/
  path : Option Path
  deriving DecidableEq, Repr

def Failure.message (failure : Failure) : Text :=
  match failure.path with
  | some path =>
    if failure.fault.isOfText then failure.fault.systemText
    else failure.fault.systemText ++ ": " ++ path.toText.quoted
  | none => failure.fault.systemText

/-- A place after an attempt to change it, and the failure that ended the attempt. -/
abbrev Attempt := Place × Option Failure

namespace Place

/-- Whether a path leads to an object for which `wanted` holds. Having nothing there is an answer;
a name too long for the file system is a fault. -/
def leadsTo (place : Place) (wanted : Node → Bool) (path : Path) : Except Fault Bool :=
  match place.find path with
  | .ok node => .ok (wanted node)
  | .error fault => if fault.isAbsence then .ok false else .error fault

def isFile (place : Place) (path : Path) : Except Fault Bool :=
  place.leadsTo (fun | .file _ => true | _ => false) path

def isDirectory (place : Place) (path : Path) : Except Fault Bool :=
  place.leadsTo (fun | .directory _ => true | _ => false) path

def readBytes (place : Place) (path : Path) : Except Fault Bytes :=
  match place.find path with
  | .ok (.file content) => .ok content
  | .ok _ => .error .isDirectory
  | .error fault => .error fault

def list (place : Place) (path : Path) : Except Fault (List Text) :=
  match place.find path with
  | .ok (.directory entries) => .ok (entries.map (·.1))
  | .ok _ => .error .notDirectory
  | .error fault => .error fault

def makeDirectory (place : Place) (path : Path) : Except Fault Place :=
  match textFault? path, path.parts.getLast? with
  | some fault, _ => .error fault
  | none, none => .error .exists
  | none, some name => do
    let parent ← place.locate false path.parent
    match place.tree.at? parent with
    | some (.directory entries) =>
      if name = parentPart then .error .exists
      else if nameLimit < systemLength name then .error .nameTooLong
      else match Node.childNamed? entries name with
        | some _ => .error .exists
        | none => .ok { place with tree := place.tree.put (parent ++ [name]) (.directory []) }
    | some _ => .error .notDirectory
    | none => .error .missing

/-- What making a directory comes to when one that is there already will do. -/
def settleMaking (place : Place) (path : Path) : Except Fault Place → Attempt
  | .ok made => (made, none)
  | .error fault =>
    match place.isDirectory path with
    | .ok true => (place, none)
    | _ => (place, some ⟨fault, path⟩)

/-- Makes the directory at the parts given backwards, and those above it that are missing. -/
def makeDirectoriesAt (anchor : Anchor) : (backwards : List Text) → Place → Attempt
  | [], place => place.settleMaking ⟨anchor, []⟩ (place.makeDirectory ⟨anchor, []⟩)
  | name :: above, place =>
    let path : Path := ⟨anchor, (name :: above).reverse⟩
    match place.makeDirectory path with
    | .error .missing =>
      match makeDirectoriesAt anchor above place with
      | (place, some failure) => (place, some failure)
      | (place, none) =>
        match place.makeDirectory path with
        | .error .missing => (place, some ⟨.missing, path⟩)
        | outcome => place.settleMaking path outcome
    | outcome => place.settleMaking path outcome

/-- Makes the directory that a path names unless it is there, and those above it that are
missing. -/
def makeDirectories (place : Place) (path : Path) : Attempt :=
  makeDirectoriesAt path.anchor path.parts.reverse place

/-- Opens a regular file for appending, making it if it is missing; gives where it stands. -/
def openForAppending (place : Place) (path : Path) : Except Fault (Place × Location) := do
  let location ← place.locate true path
  match place.tree.at? location with
  | some (.file _) => .ok (place, location)
  | some _ => .error .isDirectory
  | none => .ok ({ place with tree := place.tree.put location (.file []) }, location)

def append (place : Place) (location : Location) (bytes : Bytes) : Place :=
  match place.tree.at? location with
  | some (.file content) => { place with tree := place.tree.put location (.file (content ++ bytes)) }
  | _ => place

end Place

end ProjectSurvey
