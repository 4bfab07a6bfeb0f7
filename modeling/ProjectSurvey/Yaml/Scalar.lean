import ProjectSurvey.Text.Quoted
import ProjectSurvey.Yaml.Tag
import ProjectSurvey.Yaml.Value

/-! What a scalar of a YAML document stands for under its tag. -/

namespace ProjectSurvey.Yaml

/-- A whole number in a base, with the text at fault when there is none. -/
def wholeIn (base : Nat) (text : Text) : Except Fault Int :=
  (readWhole base text).mapError fun
    | .malformed => .notWhole base text
    | .tooManyDigits count => .tooManyDigits count

/-- The number whose digits to the base sixty are given, most significant first. -/
def sexagesimal (digits : List Int) : Int :=
  digits.foldl (fun value digit => 60 * value + digit) 0

/-- The whole number that a text without sign and underscores stands for: binary, hexadecimal or
octal by its start, in sixties if it holds a colon, else decimal. -/
def wholeSize (text : Text) : Except Fault Int :=
  match text with
  | ['0'] => .ok 0
  | '0' :: 'b' :: digits => wholeIn 2 digits
  | '0' :: 'x' :: digits => wholeIn 16 digits
  | '0' :: _ => wholeIn 8 text
  | [] => .error .emptyNumber
  | _ =>
    if text.contains ':' then do
      let digits ← (text.pieces ':').mapM (wholeIn 10)
      .ok (sexagesimal digits)
    else wholeIn 10 text

def wholeOf (text : Text) : Except Fault Int :=
  match text.filter (· != '_') with
  | [] => .error .emptyNumber
  | text => do
    let (negative, size) := signOf text
    let value ← wholeSize size
    .ok (if negative then -value else value)

/-- A floating-point number, with the text at fault when there is none. -/
def floatIn (text : Text) : Except Fault Binary64 :=
  match readFloat? text with
  | some value => .ok value
  | none => .error (.notFloat text)

/-- The number whose digits to the base sixty are given, least significant first; each step of the
sum is rounded. -/
def sexagesimalFloat (digits : List Binary64) : Binary64 :=
  (digits.foldl
    (fun (value, unit) digit =>
      (value.add (digit.mul (.ofInt unit)), unit * 60))
    ((⟨0⟩ : Binary64), (1 : Int))).1

/-- The floating-point number that a small text without sign and underscores stands for. -/
def floatSize (text : Text) : Except Fault Binary64 :=
  if text = ".inf".toList then .ok .infinity
  else if text = ".nan".toList then .ok .nan
  else if text.contains ':' then do
    let digits ← (text.pieces ':').mapM floatIn
    .ok (sexagesimalFloat digits.reverse)
  else floatIn text

/-- The floating-point number that a text tagged as one stands for; what is no number comes from the
node `id` unless it is written by the word for it. -/
def floatOf (id : NodeId) (text : Text) : Except Fault Value :=
  match Text.lower (text.filter (· != '_')) with
  | [] => .error .emptyNumber
  | text => do
    let (negative, size) := signOf text
    let value ← floatSize size
    if value.isNan then .ok (.notNumber (if size = ".nan".toList then none else some id))
    else .ok (.float (if negative then value.negate else value))

def truthOf (text : Text) : Except Fault Bool :=
  let word := text.lower
  if trueWords.contains word then .ok true
  else if falseWords.contains word then .ok false
  else .error (.notTruthValue word)

/-- The date or the moment that a text tagged as one stands for. -/
def stampOf (text : Text) : Except Fault Value :=
  match Stamp.ofText? (withoutLastBreak text) with
  | none => .error .notMoment
  | some stamp =>
    match stamp.fault?, stamp.time with
    | some fault, _ => .error fault
    | none, none => .ok (.date stamp.date)
    | none, some time => .ok (.moment stamp.date time)

/-- The value of one of the 64 digits by which bytes are written. -/
def digit64? (c : Char) : Option Nat :=
  if 'A' ≤ c && c ≤ 'Z' then some (c.toNat - 'A'.toNat)
  else if 'a' ≤ c && c ≤ 'z' then some (c.toNat - 'a'.toNat + 26)
  else if isDecimalDigit c then some (c.toNat - '0'.toNat + 52)
  else if c = '+' then some 62
  else if c = '/' then some 63
  else none

/-- The bytes of digits to the base 64, in groups of four of which the last may be filled up by
equals signs. Other characters are passed over, and so is what follows a full group. `place` counts
the digits of the group, `pads` the equals signs since the last digit, and `left` holds the bits that
make up no byte yet. -/
def bytes64 (place pads left : Nat) (done : Bytes) : Text → Option Bytes
  | [] => if place = 0 then some done.reverse else none
  | c :: rest =>
    if c = '=' then
      if 2 ≤ place && 4 ≤ place + pads + 1 then some done.reverse
      else bytes64 place (if 2 ≤ place then pads + 1 else pads) left done rest
    else
      match digit64? c with
      | none => bytes64 place pads left done rest
      | some digit =>
        match place with
        | 0 => bytes64 1 0 digit done rest
        | 1 => bytes64 2 0 (digit % 16) ((left * 4 + digit / 16).toUInt8 :: done) rest
        | 2 => bytes64 3 0 (digit % 4) ((left * 16 + digit / 4).toUInt8 :: done) rest
        | _ => bytes64 0 0 0 ((left * 64 + digit).toUInt8 :: done) rest

/-- The bytes that a text tagged as binary stands for. -/
def bytesOf (text : Text) : Except Fault Value :=
  if text.all fun c => c.toNat < 0x80 then
    match bytes64 0 0 0 [] text with
    | some bytes => .ok (.bytes bytes)
    | none => .error .malformed
  else .error .malformed

def scalarValue (id : NodeId) (tag : Tag) (text : Text) : Except Fault Value :=
  match tag with
  | .null => .ok .null
  | .bool => (truthOf text).map .bool
  | .int => (wholeOf text).map .int
  | .float => floatOf id text
  | .moment => stampOf text
  | .binary => bytesOf text
  | .text => .ok (.text text)
  | _ => .error .malformed

end ProjectSurvey.Yaml
