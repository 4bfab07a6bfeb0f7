import ProjectSurvey.Number.Binary64
import ProjectSurvey.Text.Case
import ProjectSurvey.Text.Digits

/-! Reading the numbers that people write: blanks may surround them, single underscores may stand
between digits, and the digits of every script count. -/

namespace ProjectSurvey

inductive NotWhole where
  | malformed
  | tooManyDigits (count : Nat)
  deriving DecidableEq, Repr

/-- The greatest number of decimal digits of a whole number that is read. -/
def wholeDigitLimit : Nat := 4300

/-- A sign at the start of a text, and what follows. -/
def signOf (text : Text) : Bool × Text :=
  match text with
  | '-' :: rest => (true, rest)
  | '+' :: rest => (false, rest)
  | _ => (false, text)

/-- The value of a digit below `base`, of which letters may be of either case. -/
def digitBelow? (base : Nat) (c : Char) : Option Nat :=
  (hexadecimalDigit? c).filter (· < base)

/-- The letter that a zero before a number of this base may be followed by. -/
def baseLetter? (base : Nat) : Option Char :=
  match base with
  | 2 => some 'b'
  | 8 => some 'o'
  | 16 => some 'x'
  | _ => none

/-- The digits after the mark of the base that may stand before them. -/
def withoutBaseMark (base : Nat) (text : Text) : Text :=
  match text with
  | '0' :: letter :: rest =>
    if some letter.toLower = baseLetter? base then
      match rest with
      | '_' :: digits => digits
      | _ => rest
    else text
  | _ => text

/-- The digits of a text in which single underscores stand between digits only. -/
def digitsOf? (isDigit : Char → Bool) (text : Text) : Option Text :=
  if (text.pieces '_').all fun digits => !digits.isEmpty && digits.all isDigit then
    some (text.filter (· != '_'))
  else none

def valueIn (base : Nat) (digits : Text) : Nat :=
  digits.foldl (fun value c => base * value + ((hexadecimalDigit? c).getD 0)) 0

/-- The whole number that a text stands for in a base. -/
def readWhole (base : Nat) (text : Text) : Except NotWhole Int :=
  let (negative, size) := signOf text.numeral
  match digitsOf? (fun c => (digitBelow? base c).isSome) (withoutBaseMark base size) with
  | none => .error .malformed
  | some digits =>
    if base = 10 && wholeDigitLimit < digits.length then .error (.tooManyDigits digits.length)
    else
      let value : Int := valueIn base digits
      .ok (if negative then -value else value)

/-- The exponent that a text without its letter stands for. -/
def exponentValue? (text : Text) : Option Int := do
  let (negative, size) := signOf text
  let digits ← digitsOf? isDecimalDigit size
  let value : Int := decimalValue digits
  some (if negative then -value else value)

/-- The magnitude that a text of digits, a point and an exponent stands for. -/
def readDecimal? (text : Text) : Option Binary64 := do
  let isExponentLetter (c : Char) : Bool := c = 'e' || c = 'E'
  let mantissa := text.takeWhile fun c => !isExponentLetter c
  let exponent ←
    match text.dropWhile fun c => !isExponentLetter c with
    | [] => some 0
    | _ :: power => exponentValue? power
  let (whole, fraction) := Text.cutAt '.' mantissa
  let fraction := fraction.getD []
  if whole.isEmpty && fraction.isEmpty then none
  else
    let wholeDigits ← if whole.isEmpty then some [] else digitsOf? isDecimalDigit whole
    let fractionDigits ← if fraction.isEmpty then some [] else digitsOf? isDecimalDigit fraction
    some (.ofDecimal (decimalValue (wholeDigits ++ fractionDigits))
      (exponent - fractionDigits.length))

def readFloat? (text : Text) : Option Binary64 := do
  let (negative, size) := signOf text.numeral
  let magnitude ←
    if size.lower = "inf".toList || size.lower = "infinity".toList then some .infinity
    else if size.lower = "nan".toList then some .nan
    else readDecimal? size
  some (if negative then magnitude.negate else magnitude)

namespace Binary64

/-- The sum and the product, each rounded to the nearest number. -/
def add (x y : Binary64) : Binary64 :=
  ⟨(Float.ofBits x.bits + Float.ofBits y.bits).toBits⟩

def mul (x y : Binary64) : Binary64 :=
  ⟨(Float.ofBits x.bits * Float.ofBits y.bits).toBits⟩

end Binary64

end ProjectSurvey
