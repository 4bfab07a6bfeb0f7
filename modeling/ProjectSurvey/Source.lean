import ProjectSurvey.Diagnostics
import ProjectSurvey.FileTree.Walk
import ProjectSurvey.Text.Case

/-! The source files of a project and their text. -/

namespace ProjectSurvey

/-- The extensions of source files. They are the same for every language, so that a project in
several languages is seen whole. -/
def sourceExtensions : List Text :=
  [".js", ".ts", ".jsx", ".tsx", ".py", ".java", ".cs", ".go", ".rs", ".php"]

/-- Whether a path has one of the extensions, in small letters or capitals. -/
def isSourceFile (extensions : List Text) (path : Path) : Bool :=
  extensions.contains path.suffix.lower

/-- What becomes of a file that is to be read as source text. -/
inductive Reading where
  | text (content : Text)
  | unreadable (failure : Failure)
  | undecodable (fault : Utf8.Malformed)
  /-- The file holds a NUL character and is taken for a binary one. -/
  | binary
  deriving DecidableEq, Repr

def Reading.ofBytes (bytes : Bytes) : Reading :=
  match Utf8.decode bytes with
  | .error fault => .undecodable fault
  | .ok content =>
    if content.contains (Char.ofNat 0) then .binary else .text content.unifyNewlines

def Reading.text? : Reading → Option Text
  | .text content => some content
  | _ => none

/-- What a reading has to say about the file at `path`; a path that no file can have is not skipped
but a fault. -/
def Reading.notes (path : Path) : Reading → List Note
  | .text _ => []
  | .unreadable failure =>
    if failure.fault.isOfText then []
    else [⟨"walker", .debug, "Skipping " ++ path.toText ++ ": " ++ failure.message⟩]
  | .undecodable fault =>
    [⟨"walker", .debug, "Skipping " ++ path.toText ++ ": " ++ fault.message⟩]
  | .binary => [⟨"walker", .debug, "Skipping binary file " ++ path.toText⟩]

def Place.reading (place : Place) (path : Path) : Reading :=
  match place.readBytes path with
  | .ok bytes => .ofBytes bytes
  | .error fault => .unreadable ⟨fault, path⟩

/-- The source text at a path, if the file is readable text. A path that no file can have is a
fault. -/
def Place.readSource (place : Place) (path : Path) : Except Fault (Option Text) :=
  match place.reading path with
  | .unreadable failure => if failure.fault.isOfText then .error failure.fault else .ok none
  | reading => .ok reading.text?

/-- A readable source file: its path, its path as seen from the project's root, and its text. -/
structure Source where
  path : Path
  file : Text
  text : Text
  deriving DecidableEq, Repr

/-- The source files below the root of a project, in the order of the walk. -/
def Place.sourceFiles (place : Place) (root : Path) (extensions : List Text) :
    Except Fault (List Path) := do
  let files ← place.walk root
  .ok (files.filter (isSourceFile extensions))

/-- The readable source files of a project, in the order of the walk. -/
def Place.sources (place : Place) (root : Path) (extensions : List Text) :
    Except Fault (List Source) := do
  let files ← place.sourceFiles root extensions
  .ok (files.filterMap fun path =>
    (place.reading path).text?.map fun text =>
      ⟨path, path.relativeTo place.current root, text⟩)

/-- The readable ones of source files below a root. Each is read as the messages about those before
it have left it. -/
def readSources (listener : Listener) (root : Path) (place : Place) :
    List Path → Place × List Source
  | [] => (place, [])
  | path :: paths =>
    let reading := place.reading path
    let source := reading.text?.map fun text => ⟨path, path.relativeTo place.current root, text⟩
    let (last, sources) := readSources listener root (listener place (reading.notes path)) paths
    (last, source.toList ++ sources)

/-- The readable source files of a project in the order of the walk, and the place after everything
has been said about them. -/
def Place.tellSources (place : Place) (listener : Listener) (root : Path)
    (extensions : List Text) : Place × Except Fault (List Source) :=
  match place.sourceFiles root extensions with
  | .ok files =>
    let (last, sources) := readSources listener root place files
    (last, .ok sources)
  | .error fault => (place, .error fault)

/-- Where nothing takes up messages the files are read at one and the same place. -/
theorem readSources_silent (root : Path) (place : Place) (files : List Path) :
    readSources .silent root place files =
      (place, files.filterMap fun path =>
        (place.reading path).text?.map fun text =>
          ⟨path, path.relativeTo place.current root, text⟩) := by
  induction files with
  | nil => rfl
  | cons path paths ih =>
    simp only [readSources]
    rw [show Listener.silent place ((place.reading path).notes path) = place from rfl, ih]
    cases found : (place.reading path).text? <;> simp [found]

/-- Where nothing takes up messages the sources are those of the place as it is. -/
theorem Place.tellSources_silent (place : Place) (root : Path) (extensions : List Text) :
    place.tellSources .silent root extensions = (place, place.sources root extensions) := by
  unfold Place.tellSources Place.sources
  cases place.sourceFiles root extensions with
  | error fault => rfl
  | ok files => simp only [readSources_silent]; rfl

end ProjectSurvey
