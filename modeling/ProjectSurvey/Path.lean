import ProjectSurvey.Text.Utf8

/-! Paths as they are written: where they start, and the names along the way. Reading a path drops
empty and `.` parts and keeps `..`, which only following the path can settle. -/

namespace ProjectSurvey

inductive Anchor where
  | here
  | root
  /-- Two slashes, which a path keeps apart from one although both lead to the root. -/
  | doubleRoot
  deriving DecidableEq, Repr

structure Path where
  anchor : Anchor
  parts : List Text
  deriving DecidableEq, Repr

/-- The part that leads to the directory above. -/
def parentPart : Text := ".."

namespace Path

def anchorOf (text : Text) : Anchor :=
  match (text.takeWhile (· = '/')).length with
  | 0 => .here
  | 2 => .doubleRoot
  | _ => .root

def partsOf (text : Text) : List Text :=
  (text.pieces '/').filter fun part => !part.isEmpty && part != ".".toList

def ofText (text : Text) : Path :=
  ⟨anchorOf text, partsOf text⟩

/-- The path as it is written. -/
def toText (path : Path) : Text :=
  match path.anchor, path.parts with
  | .here, [] => "."
  | .here, parts => Text.join "/" parts
  | .root, parts => '/' :: Text.join "/" parts
  | .doubleRoot, parts => "//" ++ Text.join "/" parts

def descend (path : Path) (names : List Text) : Path :=
  { path with parts := path.parts ++ names }

/-- The path `other` as seen from where `path` leads. -/
def join (path other : Path) : Path :=
  match other.anchor with
  | .here => path.descend other.parts
  | _ => other

def parent (path : Path) : Path :=
  { path with parts := path.parts.dropLast }

def name (path : Path) : Text :=
  path.parts.getLast?.getD []

/-- A name from its last dot on, unless that is its first or last character. -/
def suffixOf (name : Text) : Text :=
  let ending := (name.reverse.takeWhile (· != '.')).reverse
  if ending.isEmpty || name.length ≤ ending.length + 1 then [] else '.' :: ending

/-- The extension of the last part with its dot, or nothing. -/
def suffix (path : Path) : Text :=
  suffixOf path.name

/-- Whether the path leads to the same place from everywhere. -/
def isAbsolute (path : Path) : Bool :=
  path.anchor != .here

/-- The names that remain when each `..` takes back the name before it. -/
def settle (parts : List Text) : List Text :=
  parts.foldl (fun done part => if part = parentPart then done.dropLast else done ++ [part]) []

/-- The names from the root on when the path is read at the directory `current`. -/
def absoluteParts (current : List Text) (path : Path) : List Text :=
  settle (if path.isAbsolute then path.parts else current ++ path.parts)

/-- The parts that lead from the place `start` to the place `goal`. -/
def partsBetween : (start goal : List Text) → List Text
  | s :: start, g :: goal =>
    if s = g then partsBetween start goal
    else (s :: start).map (fun _ => parentPart) ++ g :: goal
  | start, goal => start.map (fun _ => parentPart) ++ goal

/-- How `path` is written as seen from `root`, both being read at `current`. -/
def relativeTo (path : Path) (current : List Text) (root : Path) : Text :=
  toText ⟨.here, partsBetween (root.absoluteParts current) (path.absoluteParts current)⟩

def ofLocation (location : List Text) : Path :=
  ⟨.root, location⟩

end Path

end ProjectSurvey
