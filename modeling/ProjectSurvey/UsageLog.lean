import ProjectSurvey.Diagnostics
import ProjectSurvey.FileTree.Access
import ProjectSurvey.Json.Writer

/-! The usage log: an audit trail of tool calls to which one line is added for each event. A line
that cannot be written is reported and otherwise ignored. -/

namespace ProjectSurvey

/-- A moment of universal time, to the microsecond. -/
structure Moment where
  year : Nat
  month : Nat
  day : Nat
  hour : Nat
  minute : Nat
  second : Nat
  microsecond : Nat
  deriving DecidableEq, Repr

namespace Moment

/-- The day as year, month and day. -/
def dateText (moment : Moment) : Text :=
  Text.padded 10 4 moment.year ++ "-" ++ Text.padded 10 2 moment.month ++ "-"
    ++ Text.padded 10 2 moment.day

/-- The moment to its microsecond, which is left out when it is zero. -/
def toText (moment : Moment) : Text :=
  moment.dateText ++ "T" ++ Text.padded 10 2 moment.hour ++ ":" ++ Text.padded 10 2 moment.minute
    ++ ":" ++ Text.padded 10 2 moment.second
    ++ (if moment.microsecond = 0 then [] else '.' :: Text.padded 10 6 moment.microsecond)
    ++ "+00:00"

/-- The moment as log files tell it, to the thousandth of a second. -/
def noteText (moment : Moment) : Text :=
  moment.dateText ++ " " ++ Text.padded 10 2 moment.hour ++ ":" ++ Text.padded 10 2 moment.minute
    ++ ":" ++ Text.padded 10 2 moment.second ++ "," ++ Text.padded 10 3 (moment.microsecond / 1000)

end Moment

structure Occasion where
  now : Moment
  process : Nat

/-- An action with its details. -/
structure Event where
  action : Text
  details : List (Text × Json)

/-- Where events are recorded: nowhere, or in one file for each day in a directory. -/
inductive UsageLog where
  | silent
  | daily (directory : Path)
  deriving DecidableEq, Repr

/-- The directory of a daily log when none is named. -/
def defaultLogDirectory : Text := ".guard-logs"

namespace UsageLog

def fileFor (directory : Path) (moment : Moment) : Path :=
  directory.descend ["usage-" ++ moment.dateText ++ ".log"]

/-- The fields of the entry for an event: circumstances, then details; a detail with the name of a
circumstance takes its place. -/
def entryFields (occasion : Occasion) (current : Path) (event : Event) : List (Text × Json) :=
  event.details.foldl (fun fields detail => Json.setField fields detail.1 detail.2) [
    ("timestamp", .str occasion.now.toText), ("action", .str event.action),
    ("pid", .int occasion.process), ("cwd", .str current.toText)]

def line (occasion : Occasion) (current : Path) (event : Event) : Text :=
  (Json.object (entryFields occasion current event)).render ++ "\n"

/-- Adds the line for an event to the day's file, making its directory if need be. Nothing is made
where the current directory, which the line tells, has been removed. -/
def write (directory : Path) (occasion : Occasion) (place : Place) (event : Event) : Attempt :=
  match place.workingDirectory with
  | .error fault => (place, some ⟨fault, none⟩)
  | .ok current =>
    match place.makeDirectories directory with
    | (place, some failure) => (place, some failure)
    | (place, none) =>
      let file := fileFor directory occasion.now
      match place.openForAppending file with
      | .error fault => (place, some ⟨fault, file⟩)
      | .ok (place, location) =>
        (place.append location (Utf8.encode (line occasion current event)), none)

structure Recorded where
  place : Place
  notes : List Note

/-- Records an event. Only a directory that no path can name is a fault; every other failure to
write is reported in a note. -/
def record (log : UsageLog) (occasion : Occasion) (place : Place) (event : Event) :
    Except Fault Recorded :=
  match log with
  | .silent => .ok ⟨place, []⟩
  | .daily directory =>
    match write directory occasion place event with
    | (place, some failure) =>
      if failure.fault.isOfText then .error failure.fault
      else .ok ⟨place, [⟨"usage", .warning, "Failed to write usage log: " ++ failure.message⟩]⟩
    | (place, none) =>
      .ok ⟨place, [⟨"usage", .debug, event.action ++ " " ++ (Json.object event.details).render⟩]⟩

end UsageLog

end ProjectSurvey
