import ProjectSurvey.Json.Basic
import ProjectSurvey.Text.Surrogate

/-! Reading JSON text. Besides the standard's values, the words `NaN`, `Infinity` and `-Infinity`
are read as numbers; of two fields with one name the last counts. A fault says what was expected
and where. -/

namespace ProjectSurvey.Json

inductive Reason where
  | expectingValue
  | expectingName
  | expectingColon
  | expectingComma
  | unterminatedString
  | controlCharacter
  | badEscape
  | badUnitEscape
  | extraData
  | byteOrderMark
  deriving DecidableEq, Repr

def Reason.message : Reason → Text
  | .expectingValue => "Expecting value"
  | .expectingName => "Expecting property name enclosed in double quotes"
  | .expectingColon => "Expecting ':' delimiter"
  | .expectingComma => "Expecting ',' delimiter"
  | .unterminatedString => "Unterminated string starting at"
  | .controlCharacter => "Invalid control character at"
  | .badEscape => "Invalid \\escape"
  | .badUnitEscape => "Invalid \\uXXXX escape"
  | .extraData => "Extra data"
  | .byteOrderMark => "Unexpected UTF-8 BOM (decode using utf-8-sig)"

inductive Container where
  | array
  | object
  deriving DecidableEq, Repr

/-- Why a text is not read, with what is left of it. -/
inductive Stop where
  | malformed (reason : Reason) (rest : Text)
  | tooManyDigits (count : Nat)
  | tooDeep (container : Container)
  deriving DecidableEq, Repr

def digitLimit : Nat := 4300

/-- How deep arrays and objects may be nested. -/
def depthLimit : Nat := 990

def isSpace (c : Char) : Bool :=
  c = ' ' || c = '\t' || c = '\n' || c = '\r'

def skipSpace (text : Text) : Text :=
  text.dropWhile isSpace

def escaped? (c : Char) : Option Char :=
  match c with
  | '"' => some '"'
  | '\\' => some '\\'
  | '/' => some '/'
  | 'b' => some '\x08'
  | 'f' => some '\x0c'
  | 'n' => some '\n'
  | 'r' => some '\r'
  | 't' => some '\t'
  | _ => none

/-- The character of an escape of four hexadecimal digits and the number of characters after the
backslash that it takes; `text` begins after the backslash. Two escapes may stand for one
character. A string goes on after an escape, so something has to follow. -/
def unitEscape (text : Text) : Except Stop (Char × Nat) :=
  let stop := Stop.malformed .badUnitEscape text
  let after := text.drop 5
  if after.isEmpty then .error stop
  else match hexadecimalValue? ((text.drop 1).take 4) with
    | none => .error stop
    | some unit =>
      if Text.isHighSurrogate unit && 6 < after.length && "\\u".toList.isPrefixOf after then
        match hexadecimalValue? ((after.drop 2).take 4) with
        | none => .error (.malformed .badUnitEscape (after.drop 1))
        | some low =>
          if Text.isLowSurrogate low then .ok (Char.ofNat (Text.joinSurrogates unit low), 11)
          else .ok (Text.charOf unit, 5)
      else .ok (Text.charOf unit, 5)

/-- The character of the escape at the start of a text and the number of characters after the
backslash that it takes. `opening` is the text from the string's quote on. -/
def escape (opening text : Text) : Except Stop (Char × Nat) :=
  match text.drop 1 with
  | [] => .error (.malformed .unterminatedString opening)
  | 'u' :: rest => unitEscape ('u' :: rest)
  | c :: _ =>
    match escaped? c with
    | some character => .ok (character, 1)
    | none => .error (.malformed .badEscape text)

/-- The rest of a string that `opening` begins with; `done` holds the characters so far backwards,
and `skipped` characters belong to an escape that has been read. -/
def stringOnto (opening done : Text) (skipped : Nat) : Text → Except Stop (Text × Text)
  | [] => .error (.malformed .unterminatedString opening)
  | c :: rest =>
    match skipped with
    | more + 1 => stringOnto opening done more rest
    | 0 =>
      if c = '"' then .ok (done.reverse, rest)
      else if c = '\\' then
        match escape opening (c :: rest) with
        | .ok (character, taken) => stringOnto opening (character :: done) taken rest
        | .error stop => .error stop
      else if c.toNat < 0x20 then .error (.malformed .controlCharacter (c :: rest))
      else stringOnto opening (c :: done) 0 rest

/-- The digits after a decimal point at the start of a text, if any, and what follows. -/
def fractionOf (text : Text) : Text × Text :=
  match text with
  | '.' :: rest =>
    let digits := rest.takeWhile isDecimalDigit
    if digits.isEmpty then ([], text) else (digits, rest.dropWhile isDecimalDigit)
  | _ => ([], text)

/-- The exponent at the start of a text, if there is one, and what follows. -/
def exponentOf (text : Text) : Option Int × Text :=
  match text with
  | e :: rest =>
    if e = 'e' || e = 'E' then
      let (negative, rest) :=
        match rest with
        | '-' :: rest => (true, rest)
        | '+' :: rest => (false, rest)
        | _ => (false, rest)
      let digits := rest.takeWhile isDecimalDigit
      if digits.isEmpty then (none, text)
      else
        let size : Int := decimalValue digits
        (some (if negative then -size else size), rest.dropWhile isDecimalDigit)
    else (none, text)
  | [] => (none, text)

/-- The digits of a whole number at the start of a text: a zero alone, or digits of which the
first is not zero. -/
def wholeDigits (text : Text) : Text :=
  match text with
  | '0' :: _ => ['0']
  | _ => text.takeWhile isDecimalDigit

def number (text : Text) : Except Stop (Json × Text) :=
  let negative := text.head? = some '-'
  let unsigned := if negative then text.drop 1 else text
  let digits := wholeDigits unsigned
  if digits.isEmpty then .error (.malformed .expectingValue text)
  else
    let (fraction, rest) := fractionOf (unsigned.drop digits.length)
    let (exponent, rest) := exponentOf rest
    if fraction.isEmpty && exponent.isNone then
      if digitLimit < digits.length then .error (.tooManyDigits digits.length)
      else
        let size : Int := decimalValue digits
        .ok (.int (if negative then -size else size), rest)
    else
      let size :=
        Binary64.ofDecimal (decimalValue (digits ++ fraction)) (exponent.getD 0 - fraction.length)
      .ok (.float (if negative then size.negate else size), rest)

def literals : List (Text × Json) := [
  ("null", .null), ("true", .bool true), ("false", .bool false), ("NaN", .float .nan),
  ("Infinity", .float .infinity), ("-Infinity", .float Binary64.infinity.negate)]

/-- The value of the word at the start of a text, or else the number there. -/
def literalOrNumber (text : Text) : Except Stop (Json × Text) :=
  match literals.find? fun entry => entry.1.isPrefixOf text with
  | some (word, value) => .ok (value, text.drop word.length)
  | none => number text

/-- The items of an array after its opening bracket, when there are some; `value` reads one, and
`fuel` bounds their number. -/
def itemsOnto (value : Text → Except Stop (Json × Text)) :
    (fuel : Nat) → (done : List Json) → Text → Except Stop (Json × Text)
  | 0, _, text => .error (.malformed .expectingValue text)
  | fuel + 1, done, text => do
    let (item, rest) ← value text
    match skipSpace rest with
    | ']' :: rest => .ok (.array (item :: done).reverse, rest)
    | ',' :: rest => itemsOnto value fuel (item :: done) (skipSpace rest)
    | rest => .error (.malformed .expectingComma rest)

def fieldsOnto (value : Text → Except Stop (Json × Text)) :
    (fuel : Nat) → (done : List (Text × Json)) → Text → Except Stop (Json × Text)
  | 0, _, text => .error (.malformed .expectingName text)
  | fuel + 1, done, text => do
    match text with
    | '"' :: rest =>
      let (name, rest) ← stringOnto text [] 0 rest
      match skipSpace rest with
      | ':' :: rest =>
        let (item, rest) ← value (skipSpace rest)
        let done := setField done name item
        match skipSpace rest with
        | '}' :: rest => .ok (.object done, rest)
        | ',' :: rest => fieldsOnto value fuel done (skipSpace rest)
        | rest => .error (.malformed .expectingComma rest)
      | rest => .error (.malformed .expectingColon rest)
    | _ => .error (.malformed .expectingName text)

/-- The value at the start of a text, nested at most `depth` deep. -/
def value : (depth : Nat) → Text → Except Stop (Json × Text)
  | depth, text =>
    match text with
    | '"' :: rest => do
      let (string, rest) ← stringOnto text [] 0 rest
      .ok (.str string, rest)
    | '[' :: rest =>
      match depth with
      | 0 => .error (.tooDeep .array)
      | depth + 1 =>
        match skipSpace rest with
        | ']' :: rest => .ok (.array [], rest)
        | rest => itemsOnto (value depth) (text.length + 1) [] rest
    | '{' :: rest =>
      match depth with
      | 0 => .error (.tooDeep .object)
      | depth + 1 =>
        match skipSpace rest with
        | '}' :: rest => .ok (.object [], rest)
        | rest => fieldsOnto (value depth) (text.length + 1) [] rest
    | _ => literalOrNumber text

def document (text : Text) : Except Stop Json := do
  let (json, rest) ← value depthLimit (skipSpace text)
  match skipSpace rest with
  | [] => .ok json
  | rest => .error (.malformed .extraData rest)

/-- Where a text is malformed: a line and column from one on, and a position from zero on. -/
structure Malformed where
  reason : Reason
  line : Nat
  column : Nat
  position : Nat
  deriving DecidableEq, Repr

inductive Fault where
  | malformed (fault : Malformed)
  | tooManyDigits (count : Nat)
  | tooDeep (container : Container)
  deriving DecidableEq, Repr

/-- Names the place in `text` at which what is left of it begins. -/
def Stop.toFault (text : Text) : Stop → Fault
  | .malformed reason rest =>
    let before := text.take (text.length - rest.length)
    let column := (before.reverse.takeWhile (· != '\n')).length + 1
    .malformed ⟨reason, before.count '\n' + 1, column, before.length⟩
  | .tooManyDigits count => .tooManyDigits count
  | .tooDeep container => .tooDeep container

def Malformed.message (fault : Malformed) : Text :=
  fault.reason.message ++ ": line " ++ Text.ofNat fault.line ++ " column "
    ++ Text.ofNat fault.column ++ " (char " ++ Text.ofNat fault.position ++ ")"

def Fault.message : Fault → Text
  | .malformed fault => fault.message
  | .tooManyDigits count =>
    "Exceeds the limit (4300 digits) for integer string conversion: value has "
      ++ Text.ofNat count
      ++ " digits; use sys.set_int_max_str_digits() to increase the limit"
  | .tooDeep .array => "maximum recursion depth exceeded while decoding a JSON array from a unicode string"
  | .tooDeep .object =>
    "maximum recursion depth exceeded while decoding a JSON object from a unicode string"

/-- The byte order mark, which a text of characters must not begin with. -/
def byteOrderMark : Char := Char.ofNat 0xFEFF

/-- The value that a text which came as bytes holds. -/
def parseDecoded (text : Text) : Except Fault Json :=
  (document text).mapError (Stop.toFault text)

def parse (text : Text) : Except Fault Json :=
  if text.head? = some byteOrderMark then .error (.malformed ⟨.byteOrderMark, 1, 1, 0⟩)
  else parseDecoded text

end ProjectSurvey.Json
