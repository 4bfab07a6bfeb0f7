import ProjectSurvey.Service
import ProjectSurvey.Text.Case

/-! Requests and responses as they go over a connection: lines with circumstances, an empty line,
and a body. -/

namespace ProjectSurvey

structure RequestHead where
  /-- The first line as it is written. -/
  line : Text
  method : Text
  path : Text
  contentLength : Option Text

/-- The bytes before the empty line that ends a head, and those after it. -/
def headAndBody? : (atLineStart : Bool) → Bytes → Option (Bytes × Bytes)
  | true, 10 :: body => some ([], body)
  | true, 13 :: 10 :: body => some ([], body)
  | _, byte :: rest =>
    (headAndBody? (byte = 10) rest).map fun (head, body) => (byte :: head, body)
  | _, [] => none

/-- The lines of a head, each together with those after it that begin with a blank. -/
def joinedLines (lines : List Text) : List Text :=
  let joined : List Text := lines.foldl
    (fun done line =>
      match done with
      | last :: others =>
        if line.head?.any fun c => c = ' ' || c = '\t' then (last ++ '\n' :: line) :: others
        else line :: done
      | [] => [line])
    []
  joined.reverse

namespace RequestHead

/-- The name and the value of a circumstance. A name holds visible characters only. -/
def nameAndValue? (line : Text) : Option (Text × Text) :=
  match Text.cutAt ':' line with
  | (name, some value) =>
    if name.all fun c => 0x20 < c.toNat && c.toNat < 0x7F then
      some (Text.lower name, value.dropWhile fun c => c = ' ' || c = '\t')
    else none
  | (_, none) => none

/-- The value of the circumstance with the given name among the lines before the first one that is
none. -/
def circumstance? (name : Text) (lines : List Text) : Option Text :=
  let found := (lines.map nameAndValue?).takeWhile Option.isSome
  (found.filterMap id).findSome? fun (other, value) => if other = name then some value else none

/-- A path in which slashes at the start count as one. -/
def pathOf (written : Text) : Text :=
  if "//".toList.isPrefixOf written then '/' :: written.dropWhile (· = '/') else written

/-- The head that is written in the given bytes, each of which stands for one character. -/
def ofBytes? (bytes : Bytes) : Option RequestHead :=
  let text : Text := bytes.map fun byte => Char.ofNat byte.toNat
  match Text.cutAt '\n' text with
  | (first, rest) =>
    let line := Text.trimEnd (· = '\r') first
    match Text.words line with
    | [method, path, _] =>
      let lines := joinedLines (Text.lines (Text.unifyNewlines (rest.getD [])))
      some ⟨line, method, pathOf path, circumstance? "content-length" lines⟩
    | _ => none

/-- The request with this head and the given body, if the service knows its method. -/
def request? (head : RequestHead) (body : Bytes) : Option ServiceRequest :=
  ([.get, .post].find? fun (method : Method) => method.label == head.method).map
    fun method => ⟨head.line, method, head.path, head.contentLength, body⟩

end RequestHead

def ServiceRequest.ofBytes? (bytes : Bytes) : Option ServiceRequest := do
  let (head, body) ← headAndBody? true bytes
  let head ← RequestHead.ofBytes? head
  head.request? body

def statusText : Nat → Text
  | 200 => "OK"
  | 400 => "Bad Request"
  | 404 => "Not Found"
  | _ => "Internal Server Error"

def Response.wire (response : Response) : Bytes :=
  let body := Utf8.encode response.body.render
  let head : Text :=
    "HTTP/1.0 " ++ Text.ofNat response.status ++ " " ++ statusText response.status ++ "\r\n"
      ++ "Content-Type: application/json\r\n"
      ++ "Content-Length: " ++ Text.ofNat body.length ++ "\r\n\r\n"
  Utf8.encode head ++ body

end ProjectSurvey
