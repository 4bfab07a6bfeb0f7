import ProjectSurvey.Text.Basic

/-! The tags that say what a node is, and the tag that a plain scalar has by its text alone. The
rules are those of version 1.1 of the language: `yes` is a truth value, `010` is octal and `1:30`
counts in sixties. -/

namespace ProjectSurvey.Yaml

inductive Tag where
  | null
  | bool
  | int
  | float
  | moment
  | binary
  | text
  | sequence
  | mapping
  | set
  | pairs
  /-- The key of a mapping whose value is merged into it. -/
  | merge
  /-- The key of a mapping's default value. -/
  | default
  /-- A tag that no value can have. -/
  | unknown
  deriving DecidableEq, Repr

/-- What the language's own tags begin with. -/
def tagStart : Text := "tag:yaml.org,2002:"

/-- The language's own tags by what follows their start. -/
def ownTags : List (Text × Tag) := [
  ("null", .null), ("bool", .bool), ("int", .int), ("float", .float), ("timestamp", .moment),
  ("binary", .binary), ("str", .text), ("seq", .sequence), ("map", .mapping), ("set", .set),
  ("omap", .pairs), ("pairs", .pairs), ("merge", .merge), ("value", .default)]

def Tag.ofName (name : Text) : Tag :=
  if tagStart.isPrefixOf name then
    ((ownTags.find? (·.1 == name.drop tagStart.length)).map (·.2)).getD .unknown
  else .unknown

/-! The text of a plain scalar -/

/-- Words in the three spellings that are read alike: small, capitalised and large. -/
def spellings (words : List Text) : List Text :=
  words.flatMap fun word =>
    [word, (word.take 1).map Char.toUpper ++ word.drop 1, word.map Char.toUpper]

/-- A text without the line feed that it may end in. -/
def withoutLastBreak (text : Text) : Text :=
  if text.getLast? = some '\n' then text.dropLast else text

/-- Whether a text is one of the marks that begin a tag, an anchor or an alias. -/
def isIndicator (text : Text) : Bool :=
  text == ['!'] || text == ['&'] || text == ['*']

def trueWords : List Text := ["yes", "true", "on"]

def falseWords : List Text := ["no", "false", "off"]

def isTruthWord (text : Text) : Bool :=
  (spellings (trueWords ++ falseWords)).contains text

def isNullWord (text : Text) : Bool :=
  text.isEmpty || text == ['~'] || (spellings ["null"]).contains text

def unsigned (text : Text) : Text :=
  match text with
  | '+' :: rest => rest
  | '-' :: rest => rest
  | _ => text

def isDigitOrLine (c : Char) : Bool :=
  isDecimalDigit c || c = '_'

/-- Whether a text is a digit other than zero and more digits. -/
def isCount (text : Text) : Bool :=
  match text with
  | c :: rest => isDecimalDigit c && c != '0' && rest.all isDigitOrLine
  | [] => false

def isDigits (text : Text) : Bool :=
  match text with
  | c :: rest => isDecimalDigit c && rest.all isDigitOrLine
  | [] => false

/-- Whether a text is a number below sixty of one or two digits. -/
def isSixtieth (text : Text) : Bool :=
  match text with
  | [c] => isDecimalDigit c
  | [t, c] => '0' ≤ t && t ≤ '5' && isDecimalDigit c
  | _ => false

/-- Whether a text is not empty and all of a class. -/
def isSomeOf (inClass : Char → Bool) (text : Text) : Bool :=
  !text.isEmpty && text.all inClass

def isWholeSize (text : Text) : Bool :=
  match text with
  | ['0'] => true
  | '0' :: 'b' :: rest => isSomeOf (fun c => c = '0' || c = '1' || c = '_') rest
  | '0' :: 'x' :: rest => isSomeOf (fun c => (hexadecimalDigit? c).isSome || c = '_') rest
  | '0' :: rest => isSomeOf (fun c => ('0' ≤ c && c ≤ '7') || c = '_') rest
  | _ =>
    match text.pieces ':' with
    | whole :: sixtieths => isCount whole && sixtieths.all isSixtieth
    | [] => false

def isWhole (text : Text) : Bool :=
  isWholeSize (unsigned text)

/-- Whether a text is nothing or the exponent of a number, whose sign must be written. -/
def isExponent (text : Text) : Bool :=
  match text with
  | [] => true
  | e :: sign :: digits =>
    (e = 'e' || e = 'E') && (sign = '+' || sign = '-') && isSomeOf isDecimalDigit digits
  | _ => false

/-- Whether a text without sign is digits, a point, digits and an exponent. -/
def isDecimal (text : Text) : Bool :=
  match text.cutAt '.' with
  | (whole, some after) => isDigits whole && isExponent (after.dropWhile isDigitOrLine)
  | (_, none) => false

/-- Whether a text is a point, digits and an exponent. -/
def isFraction (text : Text) : Bool :=
  match text with
  | '.' :: c :: rest => isDecimalDigit c && isExponent (rest.dropWhile isDigitOrLine)
  | _ => false

/-- Whether a text without sign counts in sixties and has a fraction. -/
def isSexagesimal (text : Text) : Bool :=
  match text.cutAt '.' with
  | (whole, some fraction) =>
    match whole.pieces ':' with
    | first :: sixtieths =>
      isDigits first && !sixtieths.isEmpty && sixtieths.all isSixtieth
        && fraction.all isDigitOrLine
    | [] => false
  | (_, none) => false

def isFloat (text : Text) : Bool :=
  isDecimal (unsigned text) || isFraction text || isSexagesimal (unsigned text)
    || ([".inf", ".Inf", ".INF"] : List Text).contains (unsigned text)
    || ([".nan", ".NaN", ".NAN"] : List Text).contains text

end ProjectSurvey.Yaml
