import ProjectSurvey.Text.Basic

/-! A place in a YAML text, and the classes of characters that its grammar tells apart. The text's
line breaks have been unified, so a carriage return is none of them. -/

namespace ProjectSurvey.Yaml

inductive Fault where
  /-- The text breaks a rule of the grammar, or a node has a tag that its content does not fit. -/
  | malformed
  /-- Nodes are nested too deep. -/
  | tooDeep
  /-- An escape names a code point beyond the last one. -/
  | codePoint (number : Nat)
  /-- A whole number has more decimal digits than can be read. -/
  | tooManyDigits (count : Nat)
  /-- A text tagged as a whole number is none in the base that its start tells. -/
  | notWhole (base : Nat) (text : Text)
  | notFloat (text : Text)
  /-- A text tagged as a number is empty. -/
  | emptyNumber
  /-- A text tagged as a truth value is none of the words for one. -/
  | notTruthValue (text : Text)
  | notMoment
  /-- What is tagged as a date or a moment is no scalar. -/
  | stampNotText
  | yearOutOfRange (year : Nat)
  | monthOutOfRange
  | dayOutOfRange
  | hourOutOfRange
  | minuteOutOfRange
  | secondOutOfRange
  /-- The offset of a moment is a whole day or more. -/
  | offsetOutOfRange (seconds : Int)
  deriving DecidableEq, Repr

/-- What reading beyond the end gives; no YAML text holds this character. -/
def endMark : Char := Char.ofNat 0

/-- The characters that a YAML text may hold. -/
def isAllowed (c : Char) : Bool :=
  let n := c.toNat
  n == 0x09 || n == 0x0A || n == 0x0D || (0x20 ≤ n && n ≤ 0x7E) || n == 0x85
    || (0xA0 ≤ n && n ≤ 0xFFFD) || 0x10000 ≤ n

def isBreak (c : Char) : Bool :=
  c = '\n' || c.toNat == 0x85 || c.toNat == 0x2028 || c.toNat == 0x2029

/-- Whether a line ends before this character. -/
def isLineEnd (c : Char) : Bool :=
  c = endMark || isBreak c

/-- Whether a token that only a blank may follow ends before this character. -/
def isSpaceOrEnd (c : Char) : Bool :=
  c = ' ' || isLineEnd c

/-- Whether a token ends before this character. -/
def isGap (c : Char) : Bool :=
  c = '\t' || isSpaceOrEnd c

def isSpaceOrTab (c : Char) : Bool :=
  c = ' ' || c = '\t'

/-- The characters of the names of anchors, directives and tag handles. -/
def isWordChar (c : Char) : Bool :=
  isAlphanumeric c || c = '-' || c = '_'

/-- The text that a line break stands for. -/
def breakText (c : Char) : Text :=
  if c.toNat == 0x2028 || c.toNat == 0x2029 then [c] else ['\n']

/-- What a line break followed by the given further breaks becomes inside a folded scalar: a single
one is a blank, of several the first is dropped. -/
def foldBreaks (first further : Text) : Text :=
  if first != ['\n'] then first ++ further else if further.isEmpty then [' '] else further

/-- A place in a text: what is left, and how many characters, lines and columns lie before it. -/
structure Cursor where
  rest : Text
  index : Nat
  line : Nat
  column : Nat

namespace Cursor

def ofText (text : Text) : Cursor := ⟨text, 0, 0, 0⟩

def peekAt (cursor : Cursor) (n : Nat) : Char :=
  cursor.rest.getD n endMark

def peek (cursor : Cursor) : Char :=
  cursor.rest.headD endMark

/-- The place behind the next character. A byte order mark fills no column. -/
def advance (cursor : Cursor) : Cursor :=
  match cursor.rest with
  | [] => cursor
  | c :: rest =>
    if isBreak c then ⟨rest, cursor.index + 1, cursor.line + 1, 0⟩
    else if c.toNat == 0xFEFF then ⟨rest, cursor.index + 1, cursor.line, cursor.column⟩
    else ⟨rest, cursor.index + 1, cursor.line, cursor.column + 1⟩

def skip : Nat → Cursor → Cursor
  | 0, cursor => cursor
  | n + 1, cursor => skip n cursor.advance

/-- The longest run of characters of a class. -/
def run (cursor : Cursor) (inClass : Char → Bool) : Text :=
  cursor.rest.takeWhile inClass

/-- The place behind the longest run of characters of a class. -/
def skipWhile (cursor : Cursor) (inClass : Char → Bool) : Cursor :=
  cursor.skip (cursor.run inClass).length

/-- The text of the line break here, or nothing, and the place behind it. -/
def lineBreak (cursor : Cursor) : Text × Cursor :=
  if isBreak cursor.peek then (breakText cursor.peek, cursor.advance) else ([], cursor)

/-- Whether `mark` stands here with a gap behind it. -/
def atMark (cursor : Cursor) (mark : Text) : Bool :=
  mark.isPrefixOf cursor.rest && isGap (cursor.peekAt mark.length)

/-- Whether a mark that separates documents stands here. -/
def atSeparator (cursor : Cursor) : Bool :=
  cursor.atMark "---" || cursor.atMark "..."

/-- The place behind the blanks, the comment and the break that may end a line. -/
def endLine (cursor : Cursor) : Except Fault Cursor :=
  let cursor := cursor.skipWhile (· = ' ')
  let cursor := if cursor.peek = '#' then cursor.skipWhile fun c => !isLineEnd c else cursor
  if isLineEnd cursor.peek then .ok cursor.lineBreak.2 else .error .malformed

/-- The number of `digits` hexadecimal digits that stand here. -/
def hexadecimal (cursor : Cursor) (digits : Nat) : Except Fault Nat :=
  let text := cursor.rest.take digits
  if text.length < digits then .error .malformed
  else match hexadecimalValue? text with
    | some number => .ok number
    | none => .error .malformed

end Cursor

end ProjectSurvey.Yaml
