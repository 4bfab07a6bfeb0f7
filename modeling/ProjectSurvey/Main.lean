import ProjectSurvey.CommandLine.Run
import ProjectSurvey.FileTree.Growth
import ProjectSurvey.Service.Wire
import Std.Async.TCP
import Std.Time.DateTime

/-! The program. The files of the project are those whose names stand on standard input, one in a
line; a name that ends in a slash is that of a directory. What a run adds to files is written to
them, and the service is offered over a connection. -/

namespace ProjectSurvey.CommandLine

/-- The command that a command line asks for, as far as this can be told without any files. -/
def asked? (arguments : List Text) : Option Command :=
  match Wish.ofArguments none ⟨.directory [], []⟩ arguments with
  | .ok (.run _ command) => some command
  | _ => none

def Command.readsFiles : Command → Bool
  | .tools | .version => false
  | .analyze .. | .search .. | .call .. | .serve .. => true

def withFile (place : Place) (path : Path) (content : Bytes) : Place :=
  match (place.makeDirectories path.parent).1.openForAppending path with
  | .ok (place, location) => place.append location content
  | .error _ => place

/-- Reads the files that are named on standard input. -/
partial def readFiles (input : IO.FS.Stream) (place : Place) : IO Place := do
  let line ← input.getLine
  if line.isEmpty then return place
  let name := Text.trimEnd (fun c => c = '\n' || c = '\r') line.toList
  let path := Path.ofText name
  if name.isEmpty then readFiles input place
  else if name.getLast? = some '/' then readFiles input (place.makeDirectories path).1
  else
    match ← (IO.FS.readBinFile (String.ofList name)).toBaseIO with
    | .ok content => readFiles input (withFile place path content.toList)
    | .error _ => readFiles input place

def readPlace (arguments : List Text) : IO Place := do
  let location := Path.partsOf (toString (← IO.currentDir)).toList
  let place : Place := ⟨.nested location, location⟩
  if (asked? arguments).any Command.readsFiles then readFiles (← IO.getStdin) place
  else return place

/-- Writes what the files of `place` have gained since `earlier`. -/
def writeGrowth (earlier place : Place) : IO Unit :=
  for (location, gained) in place.tree.growth (some earlier.tree) do
    IO.FS.createDirAll (String.ofList (Path.ofLocation location.dropLast).toText)
    let handle ← IO.FS.Handle.mk (String.ofList (Path.ofLocation location).toText) .append
    handle.write ⟨gained.toArray⟩

def now : IO Moment := do
  let time := Std.Time.DateTime.ofTimestampWithZone (← Std.Time.Timestamp.now) .UTC
  return ⟨time.year.toInt.toNat, time.month.toInt.toNat, time.day.toInt.toNat,
    time.hour.toInt.toNat, time.minute.toInt.toNat, time.second.toInt.toNat,
    time.nanosecond.toInt.toNat / 1000⟩

/-- The number of this process, where the system tells it. -/
def processNumber : IO Nat := do
  match ← (IO.FS.readFile "/proc/self/stat").toBaseIO with
  | .ok text => return decimalValue (text.toList.takeWhile isDecimalDigit)
  | .error _ => return 0

/-- Where users are at home, as the system's list of users tells. -/
def readHomes : IO (List (Text × Text)) := do
  match ← (IO.FS.readFile "/etc/passwd").toBaseIO with
  | .ok text =>
    return (Text.lines text.toList).filterMap fun line =>
      match Text.pieces ':' line with
      | name :: _ :: _ :: _ :: _ :: home :: _ => some (name, home)
      | _ => none
  | .error _ => return []

def readEnvironment : IO Environment := do
  let home := (← IO.getEnv "HOME").getD "/"
  let directory ← IO.getEnv "PROJECT_GUARD_LOG_DIR"
  let moment ← now
  return {
    homes := ⟨home.toList, ← readHomes⟩
    logDirectory := directory.map String.toList
    occasion := ⟨moment, ← processNumber⟩
    noteTime := moment.noteText }

/-! The service over a connection -/

partial def receive (client : Std.Async.TCP.Socket.Client) (received : Bytes) :
    IO (Option ServiceRequest) := do
  let whole (request : ServiceRequest) : Bool :=
    (bodyLength? request.contentLength).getD 0 ≤ request.body.length
  match (ServiceRequest.ofBytes? received).filter whole with
  | some request => return some request
  | none =>
    match ← (client.recv? 65536).block with
    | some bytes => receive client (received ++ bytes.toList)
    | none => return none

/-- Answers one request; gives the place after it. -/
def answerRequest (client : Std.Async.TCP.Socket.Client) (service : Service)
    (diagnostics : Option Diagnostics) (place : Place) : IO Place := do
  match ← receive client [] with
  | none => return place
  | some request =>
    let environment ← readEnvironment
    let listener := Diagnostics.listener environment.noteTime diagnostics
    let served := service.serve listener environment.occasion place request
    writeGrowth place served.place
    let response :=
      match served.response with
      | .ok response => response
      | .error _ => .failure 500 "The request cannot be answered"
    (client.send ⟨response.wire.toArray⟩).block
    client.shutdown.block
    return served.place

partial def answerAll (server : Std.Async.TCP.Socket.Server) (service : Service)
    (diagnostics : Option Diagnostics) (place : Place) : IO Unit := do
  let client ← server.accept.block
  let next ← (answerRequest client service diagnostics place).toBaseIO
  answerAll server service diagnostics (match next with | .ok place => place | .error _ => place)

/-- Offers a service at an address until the program is interrupted. -/
def offer (service : Service) (run : Run) (host : Text) (port : Int) : IO UInt32 := do
  match Std.Net.IPv4Addr.ofString (String.ofList host) with
  | none =>
    IO.eprintln "project-guard: the host is no address"
    return 1
  | some address =>
    let server ← Std.Async.TCP.Socket.Server.mk
    server.bind (.v4 ⟨address, port.toNat.toUInt16⟩)
    server.listen 5
    answerAll server service run.diagnostics run.place
    return 0

end ProjectSurvey.CommandLine

open ProjectSurvey CommandLine in
def main (arguments : List String) : IO UInt32 := do
  let arguments := arguments.map String.toList
  let place ← readPlace arguments
  let run := CommandLine.run (← readEnvironment) ⟨place, none⟩ arguments
  writeGrowth place run.place
  IO.print (String.ofList run.output)
  (← IO.getStdout).flush
  IO.eprint (String.ofList run.errors)
  if let some fault := run.fault then
    IO.eprintln (String.ofList (programName ++ ": " ++ fault.message))
  match run.service, asked? arguments with
  | some service, some (.serve _ host port) => offer service run host port
  | _, _ => return run.exit.toUInt32
