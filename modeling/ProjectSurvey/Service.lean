import ProjectSurvey.Json.Encoding
import ProjectSurvey.Number.Reading
import ProjectSurvey.Tool

/-! The tools as a service: requests with a method, a path and a body are answered by a status and a
JSON value. A request is checked before a tool is run; what is wrong with it is the answer. -/

namespace ProjectSurvey

inductive Method where
  | get
  | post
  deriving DecidableEq, Repr

def Method.label : Method → Text
  | .get => "GET"
  | .post => "POST"

structure ServiceRequest where
  /-- The first line as it is written. -/
  line : Text
  method : Method
  path : Text
  /-- The length of the body as it is written in the head of the request. -/
  contentLength : Option Text
  body : Bytes

structure Response where
  status : Nat
  body : Json

inductive ServiceFault where
  /-- The body is told to be longer than any number of bytes that can be asked for. -/
  | lengthTooGreat
  | body (fault : Json.Fault)
  | call (fault : CallFault)
  deriving DecidableEq, Repr

structure Served where
  response : Except ServiceFault Response
  events : List Event
  place : Place

structure Service where
  log : UsageLog
  defaultCategory : Text

/-- Where the service is offered unless something else is said. -/
def defaultHost : Text := "127.0.0.1"

def defaultPort : Int := 8420

def toolsPath : Text := "/api/tools/"

def Response.failure (status : Nat) (message : Text) : Response :=
  ⟨status, .object [("error", .str message)]⟩

def Response.notFound (path : Text) : Response :=
  .failure 404 ("Not found: " ++ path)

def Response.ofQuery (path : Text) : Response :=
  if path = "/".toList || path = "/api/tools".toList then ⟨200, toolListing⟩
  else if path = "/health".toList then ⟨200, .object [("status", .str "ok")]⟩
  else .notFound path

/-- The length of a body that a request tells: none if it is left out or empty, and nothing at all
if it is no number of bytes. -/
def bodyLength? (written : Option Text) : Option Nat :=
  match given? written with
  | none => some 0
  | some text =>
    match readWhole 10 text with
    | .ok length => if length < 0 then none else some length.toNat
    | .error _ => none

/-- What a request to run a tool comes to before the tool is run. -/
inductive Dispatch where
  | answer (response : Response)
  | call (name : Text) (arguments : List (Text × Json))
  | fault (fault : ServiceFault)

/-- The greatest integer of the size of an index, above which no number of bytes can be asked for. A reader may
give up earlier for want of memory. -/
def greatestLength : Nat := Nat.pow 2 63 - 1

/-- What the arguments of a call come to: those of an empty body are none. -/
def Dispatch.ofBody (name : Text) (body : Bytes) : Dispatch :=
  if body.isEmpty then .call name []
  else match Json.decodeBytes? body with
    | none => .answer (.failure 400 "Request body must be JSON")
    | some text =>
      match Json.parseDecoded text with
      | .ok (.object fields) => .call name fields
      | .ok _ => .answer (.failure 400 "Request body must be a JSON object")
      | .error (.malformed _) => .answer (.failure 400 "Request body must be JSON")
      | .error problem => .fault (.body problem)

/-- What a request to run a tool comes to. Of the body no more is read than the length that the
request tells. -/
def Dispatch.ofRequest (request : ServiceRequest) : Dispatch :=
  if toolsPath.isPrefixOf request.path then
    match bodyLength? request.contentLength with
    | none => .answer (.failure 400 "Invalid Content-Length")
    | some length =>
      if greatestLength < length then .fault .lengthTooGreat
      else .ofBody (request.path.drop toolsPath.length) (request.body.take length)
  else .answer (.notFound request.path)

/-- The answer to a call of a tool; only faults that the caller can mend are answered. -/
def Response.ofCall : Except CallFault Answer → Except ServiceFault Response
  | .ok answer => .ok ⟨200, answer.payload⟩
  | .error fault =>
    match fault with
    | .unknownTool _ => .ok (.failure 404 fault.message)
    | .argumentsNotObject => .ok (.failure 400 fault.message)
    | .argumentNotText .. => .ok (.failure 400 fault.message)
    | _ => .error (.call fault)

/-- The message about an answer that is given to a request from this computer. -/
def servedNote (request : ServiceRequest) (response : Response) : Note :=
  ⟨"serve", .debug, "127.0.0.1 - \"" ++ request.line ++ "\" " ++ Text.ofNat response.status
    ++ " -"⟩

/-- A request with an answer, after what has come about before it. -/
def Served.complete (listener : Listener) (request : ServiceRequest)
    (response : Except ServiceFault Response) (events : List Event) (place : Place) : Served :=
  match response with
  | .ok answer => ⟨response, events, listener place [servedNote request answer]⟩
  | .error _ => ⟨response, events, place⟩

namespace Service

def serve (service : Service) (listener : Listener) (occasion : Occasion) (place : Place)
    (request : ServiceRequest) : Served :=
  match request.method with
  | .get => .complete listener request (.ok (.ofQuery request.path)) [] place
  | .post =>
    match Dispatch.ofRequest request with
    | .answer response => .complete listener request (.ok response) [] place
    | .fault fault => .complete listener request (.error fault) [] place
    | .call name arguments =>
      let outcome := callTool service.log listener occasion place name (some (.object arguments))
        service.defaultCategory
      .complete listener request (Response.ofCall outcome.result) outcome.events outcome.place

end Service

end ProjectSurvey
