import ProjectSurvey.Text.Quoted
import ProjectSurvey.Yaml.Data

/-! How the values of a YAML document are shown as text, and the words for their faults. -/

namespace ProjectSurvey.Yaml

/-- How numbers that are not finite are shown. -/
def numberSpelling : Binary64.Spelling := ⟨"nan", "inf"⟩

def quotedByte (quote : Char) (byte : UInt8) : Text :=
  let c := Char.ofNat byte.toNat
  if c = quote || c = '\\' then ['\\', c]
  else if c = '\t' then "\\t"
  else if c = '\n' then "\\n"
  else if c = '\r' then "\\r"
  else if 0x20 ≤ byte && byte < 0x7F then [c]
  else "\\x" ++ Text.padded 16 2 byte.toNat

def bytesLiteral (bytes : Bytes) : Text :=
  let single : UInt8 := 0x27
  let double : UInt8 := 0x22
  let quote := if bytes.contains single && !bytes.contains double then '"' else '\''
  'b' :: quote :: bytes.flatMap (quotedByte quote) ++ [quote]

def boolText (value : Bool) : Text :=
  if value then "True" else "False"

/-- A whole number in decimal digits, of which there may be no more than can be read. -/
def wholeText (value : Int) : Except Fault Text :=
  let digits := Text.ofNat value.natAbs
  if wholeDigitLimit < digits.length then .error (.tooManyDigits digits.length)
  else .ok (if value < 0 then '-' :: digits else digits)

/-- A value as it is shown inside a collection; `enter` shows the collections in it. -/
def Value.literal (enter : NodeId → Except Fault Text) : Value → Except Fault Text
  | .null => .ok "None"
  | .bool value => .ok (boolText value)
  | .int value => wholeText value
  | .float value => .ok (value.toText numberSpelling)
  | .notNumber _ => .ok numberSpelling.nan
  | .text value => .ok value.quoted
  | .bytes value => .ok (bytesLiteral value)
  | .date day => .ok day.literal
  | .moment day time => .ok (momentLiteral day time)
  | .pair first second => do
    .ok ('(' :: (← first.literal enter) ++ ", " ++ (← second.literal enter) ++ ")")
  | .collection id => enter id

/-- A collection inside itself. -/
def Collection.abbreviation : Collection → Text
  | .list _ => "[...]"
  | .mapping _ => ['\x7b', '.', '.', '.', '\x7d']
  | .set _ => "set(...)"

def listed (texts : List Text) : Text :=
  Text.join ", " texts

/-- A collection whose values are shown by `literal`. -/
def Collection.literal (literal : Value → Except Fault Text) : Collection → Except Fault Text
  | .list items => do .ok ('[' :: listed (← items.mapM literal) ++ "]")
  | .mapping pairs => do
    let pairs ← pairs.mapM fun (key, value) => do
      .ok ((← literal key) ++ ": " ++ (← literal value))
    .ok ('\x7b' :: listed pairs ++ ['\x7d'])
  | .set [] => .ok "set()"
  | .set items => do .ok ('\x7b' :: listed (← items.mapM literal) ++ ['\x7d'])

namespace Heap

/-- A collection as it is shown inside those with the numbers in `around`; `depth` bounds how deep
collections are shown in it. -/
def literal (heap : Heap) : (depth : Nat) → (around : List NodeId) → NodeId → Except Fault Text
  | 0, _, id => .ok (heap.get id).abbreviation
  | depth + 1, around, id =>
    if around.contains id then .ok (heap.get id).abbreviation
    else (heap.get id).literal (Value.literal (heap.literal depth (id :: around)))

def toText (heap : Heap) : Value → Except Fault Text
  | .text value => .ok value
  | .date day => .ok day.toText
  | .moment day time => .ok (momentText day time)
  | value => value.literal (heap.literal (heap.collections.size + 1) [])

end Heap

/-! Faults -/

/-- The words for the faults of values; a text that is malformed has none. -/
def Fault.message : Fault → Text
  | .malformed => []
  | .tooDeep => "maximum recursion depth exceeded"
  | .stampNotText => "expected string or bytes-like object, got 'list'"
  | .codePoint number =>
    if 0x7FFFFFFF < number then "Python int too large to convert to C int"
    else "chr() arg not in range(0x110000)"
  | .tooManyDigits count =>
    "Exceeds the limit (4300 digits) for integer string conversion: value has "
      ++ Text.ofNat count
      ++ " digits; use sys.set_int_max_str_digits() to increase the limit"
  | .notWhole base text =>
    "invalid literal for int() with base " ++ Text.ofNat base ++ ": " ++ text.quoted.take 200
  | .notFloat text => "could not convert string to float: " ++ text.quoted
  | .emptyNumber => "string index out of range"
  | .notTruthValue text => text.quoted
  | .notMoment => "'NoneType' object has no attribute 'groupdict'"
  | .yearOutOfRange year => "year " ++ Text.ofNat year ++ " is out of range"
  | .monthOutOfRange => "month must be in 1..12"
  | .dayOutOfRange => "day is out of range for month"
  | .hourOutOfRange => "hour must be in 0..23"
  | .minuteOutOfRange => "minute must be in 0..59"
  | .secondOutOfRange => "second must be in 0..59"
  | .offsetOutOfRange seconds =>
    "offset must be a timedelta strictly between -timedelta(hours=24) and timedelta(hours=24), not "
      ++ differenceLiteral seconds ++ "."

end ProjectSurvey.Yaml
