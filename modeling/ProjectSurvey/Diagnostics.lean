import ProjectSurvey.FileTree.Access

/-! Diagnostic messages: where they come from, how grave they are, and which of them the console
and a log file are given. -/

namespace ProjectSurvey

inductive Level where
  | debug
  | info
  | warning
  | error
  | critical
  deriving DecidableEq, Repr

namespace Level

def rank : Level → Nat
  | .debug => 10
  | .info => 20
  | .warning => 30
  | .error => 40
  | .critical => 50

def label : Level → Text
  | .debug => "DEBUG"
  | .info => "INFO"
  | .warning => "WARNING"
  | .error => "ERROR"
  | .critical => "CRITICAL"

end Level

/-- A message of a part of the program; the part without a name is the program itself. -/
structure Note where
  part : Text
  level : Level
  text : Text
  deriving DecidableEq, Repr

/-- The name under which the program logs. -/
def loggerName : Text := "project_guard"

def Note.source (note : Note) : Text :=
  if note.part.isEmpty then loggerName else loggerName ++ "." ++ note.part

/-- A message as a line of a log file; `time` says when it was logged. -/
def Note.line (time : Text) (note : Note) : Text :=
  time ++ " " ++ note.level.label ++ " " ++ note.source ++ ": " ++ note.text ++ "\n"

/-- What takes up messages: the place after they have been told in it. -/
abbrev Listener := Place → List Note → Place

def Listener.silent : Listener := fun place _ => place

/-- Where messages go: to the console, and to a log file if there is one. Both are given the same
messages. -/
structure Diagnostics where
  /-- The least grave level that is told. -/
  level : Level
  file : Option Location
  deriving DecidableEq, Repr

namespace Diagnostics

/-- The least grave level that is told. -/
def levelFor (verbose : Bool) : Level :=
  if verbose then .debug else .info

/-- Opens a log file for appending. -/
def openFile (place : Place) (path : Path) : Except Failure (Place × Location) := do
  let path ← (place.absolute path).mapError fun fault => ⟨fault, none⟩
  (place.openForAppending path).mapError fun fault => ⟨fault, path⟩

/-- Sets up the console and a log file, which is opened for appending. Where it cannot be opened
the console is set up all the same. -/
def configure (place : Place) (verbose : Bool) (file : Option Path) :
    Place × Diagnostics × Option Failure :=
  let level := levelFor verbose
  match file with
  | none => (place, ⟨level, none⟩, none)
  | some path =>
    match openFile place path with
    | .ok (place, location) => (place, ⟨level, some location⟩, none)
    | .error failure => (place, ⟨level, none⟩, some failure)

def tells (diagnostics : Diagnostics) (note : Note) : Bool :=
  diagnostics.level.rank ≤ note.level.rank

/-- Messages without a log file that is no longer there. -/
def detached (diagnostics : Diagnostics) (place : Place) : Diagnostics :=
  match diagnostics.file.bind place.tree.at? with
  | some (.file _) => diagnostics
  | _ => { diagnostics with file := none }

/-- The place after messages have been told at a time. A log file is given no line that cannot be
encoded, and one that is gone is not made again. -/
def tell (diagnostics : Diagnostics) (time : Text) (place : Place) (notes : List Note) : Place :=
  match (diagnostics.detached place).file with
  | none => place
  | some location =>
    let lines := (notes.filter diagnostics.tells).map (·.line time)
    let written := lines.filter fun line => (Text.unencodable? (fun _ => true) line).isNone
    place.append location (Utf8.encode written.flatten)

def listener (time : Text) : Option Diagnostics → Listener
  | some diagnostics => diagnostics.tell time
  | none => .silent

end Diagnostics

end ProjectSurvey
