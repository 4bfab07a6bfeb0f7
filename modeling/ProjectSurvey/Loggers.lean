import ProjectSurvey.Diagnostics

/-! The loggers behind the diagnostic messages, as they are kept between calls: the handlers of the
program's own logger, the loggers that have been asked for, and what has been decided for them. A
message goes up from its logger to the program's, whose handlers take it. -/

namespace ProjectSurvey

/-- A message as a logger is given it. It can be of any severity, those of the levels and others. -/
structure Message where
  /-- What the logger is asked for by; the program's own has no part. -/
  part : Text
  severity : Int
  text : Text
  deriving DecidableEq, Repr

def severityLabel (severity : Int) : Text :=
  match ([.debug, .info, .warning, .error, .critical] : List Level).find? (·.rank == severity) with
  | some level => level.label
  | none => if severity = 0 then "NOTSET" else "Level " ++ Text.ofInt severity

def loggerFor (part : Text) : Text :=
  if part.isEmpty then loggerName else loggerName ++ "." ++ part

/-- A message as a line of a log file; `time` says when it was logged. -/
def Message.line (time : Text) (message : Message) : Text :=
  time ++ " " ++ severityLabel message.severity ++ " " ++ loggerFor message.part ++ ": "
    ++ message.text ++ "\n"

def Note.message (note : Note) : Message :=
  ⟨note.part, note.level.rank, note.text⟩

inductive Target where
  | console
  | file (location : Location)
  deriving DecidableEq, Repr

structure Handler where
  target : Target
  level : Level
  deriving DecidableEq, Repr

/-- The place after a handler has been given a message. A file is given no line that cannot be
encoded. -/
def Handler.take (time : Text) (message : Message) (place : Place) (handler : Handler) : Place :=
  match handler.target with
  | .console => place
  | .file location =>
    let line := message.line time
    if (handler.level.rank : Int) ≤ message.severity ∧
        Text.unencodable? (fun _ => true) line = none then
      place.append location (Utf8.encode line)
    else place

/-- The loggers of the program. The one called `loggerName` has the handlers; the others have what they
have for being asked for. -/
structure Loggers where
  /-- The least severity that the program's logger tells, once that is set. -/
  level : Option Level
  /-- Whether messages go on from the program's logger to the root. -/
  propagates : Bool
  handlers : List Handler
  /-- The names under which loggers have been asked for. -/
  known : List Text
  /-- What has been decided for a logger and a severity since the level was last set. -/
  decided : List ((Text × Int) × Bool)

namespace Loggers

def unset (known : List Text) : Loggers :=
  ⟨none, true, [], known, []⟩

def ask (loggers : Loggers) (name : Text) : Loggers :=
  { loggers with known := loggers.known.insert name }

/-- Whether a logger stands below the program's, its name given backwards. The one above it is looked
for by cutting its name at dots, from the end; what is right before a cut that comes to no known logger
is not looked at (`skips`). -/
def climbs (known : List Text) : (skips : Bool) → (backwards : Text) → Bool
  | _, [] => false
  | true, _ :: rest => climbs known false rest
  | false, c :: rest =>
    if c = '.' then
      if rest.reverse = loggerName then true
      else climbs known (!known.contains rest.reverse) rest
    else climbs known false rest

/-- Whether messages of a logger come to the handlers of the program's. -/
def reaches (loggers : Loggers) (name : Text) : Bool :=
  name = loggerName || climbs loggers.known false name.reverse

/-- The least severity that a logger tells: that of the next logger above that has one, the root's in
the end. -/
def levelOf (loggers : Loggers) (name : Text) : Level :=
  if loggers.reaches name then loggers.level.getD .warning else .warning

/-- Whether a logger tells messages of a severity, as it was decided before or is now. -/
def settle (loggers : Loggers) (name : Text) (severity : Int) : Bool × Loggers :=
  match loggers.decided.lookup (name, severity) with
  | some decision => (decision, loggers)
  | none =>
    let decision : Bool := (loggers.levelOf name).rank ≤ severity
    (decision, { loggers with decided := ((name, severity), decision) :: loggers.decided })

/-- Logs a message at a time: the logger is asked for, and the handlers get the message if it tells
such messages and stands below the program's. -/
def log (loggers : Loggers) (time : Text) (place : Place) (message : Message) : Place × Loggers :=
  let name := loggerFor message.part
  let (tells, loggers) := (loggers.ask name).settle name message.severity
  if tells && loggers.reaches name then
    (loggers.handlers.foldl (Handler.take time message) place, loggers)
  else (place, loggers)

/-- Sets the level of the program's logger; what was decided before does not count any more. -/
def setLevel (loggers : Loggers) (level : Level) : Loggers :=
  { loggers with level := some level, decided := [] }

def removeHandler (loggers : Loggers) (handler : Handler) : Loggers :=
  { loggers with handlers := loggers.handlers.erase handler }

def addHandler (loggers : Loggers) (handler : Handler) : Loggers :=
  { loggers with handlers := loggers.handlers ++ [handler] }

/-- Sets up the console and a log file in place of the handlers that are there. Where the file cannot
be opened the console is set up all the same. -/
def configure (loggers : Loggers) (place : Place) (verbose : Bool) (file : Option Path) :
    Place × Loggers × Option Failure :=
  let level := Diagnostics.levelFor verbose
  let loggers := { (loggers.ask loggerName).setLevel level with propagates := false }
  let loggers := (loggers.handlers.foldl removeHandler loggers).addHandler ⟨.console, level⟩
  match file with
  | none => (place, loggers, none)
  | some path =>
    match Diagnostics.openFile place path with
    | .ok (place, location) => (place, loggers.addHandler ⟨.file location, level⟩, none)
    | .error failure => (place, loggers, some failure)

end Loggers

end ProjectSurvey
