import ProjectSurvey.Text.Surrogate
import ProjectSurvey.Yaml.Cursor

/-! The styles in which a scalar is written: plain, between quotes, or as a block of indented
lines. Each reader starts at the scalar's first character and gives its text and the place behind
it. -/

namespace ProjectSurvey.Yaml

/-! Plain scalars -/

/-- Whether a colon before this character ends a plain scalar. -/
def endsKey (inFlow : Bool) (next : Char) : Bool :=
  isGap next || (inFlow && ",[]\x7b\x7d".toList.contains next)

/-- The part of a plain scalar up to the next gap. -/
def plainRun (inFlow : Bool) : Text → Text
  | [] => []
  | c :: rest =>
    if isGap c || (c = ':' && endsKey inFlow (rest.headD endMark))
      || (inFlow && ",?[]\x7b\x7d".toList.contains c) then []
    else c :: plainRun inFlow rest

/-- What has been read of a plain scalar or of a gap in it; `crossed` says whether the last gap
held a line break. -/
structure Plain where
  text : Text
  cursor : Cursor
  crossed : Bool

/-- The blank lines after a line break, unless one of them ends at a separator of documents;
`fuel` bounds the characters read. -/
def plainBreaks : (fuel : Nat) → Cursor → (done : Text) → Option Text × Cursor
  | 0, cursor, done => (some done, cursor)
  | fuel + 1, cursor, done =>
    if cursor.peek = ' ' then plainBreaks fuel cursor.advance done
    else if isBreak cursor.peek then
      let (text, cursor) := cursor.lineBreak
      if cursor.atSeparator then (none, cursor) else plainBreaks fuel cursor (done ++ text)
    else (some done, cursor)

/-- The gap after a part of a plain scalar; its text is empty where the scalar has to end. -/
def plainGap (cursor : Cursor) : Plain :=
  let blanks := cursor.run (· = ' ')
  let cursor := cursor.skip blanks.length
  if isBreak cursor.peek then
    let (first, cursor) := cursor.lineBreak
    if cursor.atSeparator then ⟨[], cursor, true⟩
    else match plainBreaks cursor.rest.length cursor [] with
      | (some further, cursor) => ⟨foldBreaks first further, cursor, true⟩
      | (none, cursor) => ⟨[], cursor, true⟩
  else ⟨blanks, cursor, false⟩

/-- The rest of a plain scalar after `done` and a gap with the text `gap`. -/
def plainOnto (inFlow : Bool) (margin : Nat) :
    (fuel : Nat) → (done gap : Text) → (crossed : Bool) → Cursor → Plain
  | 0, done, _, crossed, cursor => ⟨done, cursor, crossed⟩
  | fuel + 1, done, gap, crossed, cursor =>
    let part := if cursor.peek = '#' then [] else plainRun inFlow cursor.rest
    if part.isEmpty then ⟨done, cursor, crossed⟩
    else
      let done := done ++ gap ++ part
      let after := plainGap (cursor.skip part.length)
      if after.text.isEmpty || after.cursor.peek = '#'
        || (!inFlow && after.cursor.column < margin) then ⟨done, after.cursor, after.crossed⟩
      else plainOnto inFlow margin fuel done after.text after.crossed after.cursor

/-- A plain scalar; outside of flow collections its lines stand at column `margin` or beyond. -/
def plain (inFlow : Bool) (margin : Nat) (cursor : Cursor) : Plain :=
  plainOnto inFlow margin (cursor.rest.length + 1) [] [] false cursor

/-! Quoted scalars -/

/-- The characters that a backslash and one character stand for. -/
def simpleEscapes : List (Char × Nat) := [
  ('0', 0x00), ('a', 0x07), ('b', 0x08), ('t', 0x09), ('\t', 0x09), ('n', 0x0A), ('v', 0x0B),
  ('f', 0x0C), ('r', 0x0D), ('e', 0x1B), (' ', 0x20), ('"', 0x22), ('\\', 0x5C), ('/', 0x2F),
  ('N', 0x85), ('_', 0xA0), ('L', 0x2028), ('P', 0x2029)]

/-- How many hexadecimal digits follow a backslash and this character. -/
def escapeDigits? (c : Char) : Option Nat :=
  match c with
  | 'x' => some 2
  | 'u' => some 4
  | 'U' => some 8
  | _ => none

/-- The blank lines inside a quoted scalar, in which no separator of documents may stand. -/
def quotedBreaks : (fuel : Nat) → Cursor → (done : Text) → Except Fault (Text × Cursor)
  | 0, cursor, done => .ok (done, cursor)
  | fuel + 1, cursor, done =>
    if cursor.atSeparator then .error .malformed
    else
      let cursor := cursor.skipWhile isSpaceOrTab
      if isBreak cursor.peek then
        let (text, cursor) := cursor.lineBreak
        quotedBreaks fuel cursor (done ++ text)
      else .ok (done, cursor)

/-- The blanks and line breaks at a gap in a quoted scalar, folded. -/
def quotedGap (cursor : Cursor) : Except Fault (Text × Cursor) := do
  let blanks := cursor.run isSpaceOrTab
  let cursor := cursor.skip blanks.length
  if isBreak cursor.peek then
    let (first, cursor) := cursor.lineBreak
    let (further, cursor) ← quotedBreaks (cursor.rest.length + 1) cursor []
    .ok (foldBreaks first further, cursor)
  else .ok (blanks, cursor)

def codePointLimit : Nat := 0x10FFFF

/-- The text of the escape whose backslash stands before the cursor. -/
def escapeSequence (cursor : Cursor) : Except Fault (Text × Cursor) :=
  match simpleEscapes.find? (·.1 == cursor.peek), escapeDigits? cursor.peek with
  | some (_, number), _ => .ok ([Char.ofNat number], cursor.advance)
  | none, some digits => do
    let number ← cursor.advance.hexadecimal digits
    if codePointLimit < number then .error (.codePoint number)
    else .ok ([Text.charOf number], cursor.advance.skip digits)
  | none, none =>
    if isBreak cursor.peek then
      let (_, cursor) := cursor.lineBreak
      quotedBreaks (cursor.rest.length + 1) cursor []
    else .error .malformed

/-- The rest of a quoted scalar; `done` holds the characters so far backwards. -/
def quotedOnto (quote : Char) : (fuel : Nat) → (done : Text) → Cursor → Except Fault (Text × Cursor)
  | 0, _, _ => .error .malformed
  | fuel + 1, done, cursor => do
    let c := cursor.peek
    if c = endMark then .error .malformed
    else if c = quote then
      if quote = '\'' && cursor.peekAt 1 = '\'' then
        quotedOnto quote fuel ('\'' :: done) (cursor.skip 2)
      else .ok (done.reverse, cursor.advance)
    else if isGap c then
      let (text, cursor) ← quotedGap cursor
      quotedOnto quote fuel (text.reverse ++ done) cursor
    else if quote = '"' && c = '\\' then
      let (text, cursor) ← escapeSequence cursor.advance
      quotedOnto quote fuel (text.reverse ++ done) cursor
    else quotedOnto quote fuel (c :: done) cursor.advance

def quotedScalar (cursor : Cursor) : Except Fault (Text × Cursor) :=
  quotedOnto cursor.peek cursor.rest.length [] cursor.advance

/-! Block scalars -/

/-- What becomes of the line breaks at the end of a block: all are dropped, one is kept, or all
are. -/
inductive Chomping where
  | strip
  | clip
  | keep
  deriving DecidableEq, Repr

/-- What the first line of a block says about it. -/
structure BlockHeader where
  chomping : Chomping
  /-- The indentation of its lines beyond that of the block around it. -/
  increment : Option Nat

def chompingOf? (c : Char) : Option Chomping :=
  if c = '+' then some .keep else if c = '-' then some .strip else none

def incrementOf? (c : Char) : Option Nat :=
  if isDecimalDigit c then some (c.toNat - '0'.toNat) else none

/-- The indicators behind a block's first character, in either order. -/
def blockHeader (cursor : Cursor) : Except Fault (BlockHeader × Cursor) :=
  let (header, cursor) : BlockHeader × Cursor :=
    match chompingOf? cursor.peek, incrementOf? cursor.peek with
    | some chomping, _ =>
      match incrementOf? cursor.advance.peek with
      | some n => (⟨chomping, some n⟩, cursor.skip 2)
      | none => (⟨chomping, none⟩, cursor.advance)
    | none, some n =>
      match chompingOf? cursor.advance.peek with
      | some chomping => (⟨chomping, some n⟩, cursor.skip 2)
      | none => (⟨.clip, some n⟩, cursor.advance)
    | none, none => (⟨.clip, none⟩, cursor)
  if header.increment = some 0 || !isSpaceOrEnd cursor.peek then .error .malformed
  else .ok (header, cursor)

/-- The place behind the blanks before column `indent`. -/
def skipIndent (indent : Nat) (cursor : Cursor) : Cursor :=
  cursor.skip (min (cursor.run (· = ' ')).length (indent - cursor.column))

/-- The blank lines before a line of a block whose lines stand at column `indent`. -/
def blockBreaksOnto (indent : Nat) : (fuel : Nat) → (done : Text) → Cursor → Text × Cursor
  | 0, done, cursor => (done, cursor)
  | fuel + 1, done, cursor =>
    if isBreak cursor.peek then
      let (text, cursor) := cursor.lineBreak
      blockBreaksOnto indent fuel (done ++ text) (skipIndent indent cursor)
    else (done, cursor)

def blockBreaks (indent : Nat) (cursor : Cursor) : Text × Cursor :=
  blockBreaksOnto indent cursor.rest.length [] (skipIndent indent cursor)

/-- The blank lines at the start of a block, and the widest indentation among them and the line
behind. -/
def leadingBreaks : (fuel : Nat) → (done : Text) → (widest : Nat) → Cursor → Text × Nat × Cursor
  | 0, done, widest, cursor => (done, widest, cursor)
  | fuel + 1, done, widest, cursor =>
    if isBreak cursor.peek then
      let (text, cursor) := cursor.lineBreak
      leadingBreaks fuel (done ++ text) widest cursor
    else if cursor.peek = ' ' then
      leadingBreaks fuel done (max widest cursor.advance.column) cursor.advance
    else (done, widest, cursor)

/-- Whether a line of a block begins here. -/
def atBlockLine (indent : Nat) (cursor : Cursor) : Bool :=
  cursor.column = indent && cursor.peek != endMark

/-- The lines of a block from the one here on, before which the blank lines `further` stand: what
was read of it, the last line break, and the blank lines after that. -/
def blockLines (folded : Bool) (indent : Nat) :
    (fuel : Nat) → (done further : Text) → Cursor → (Text × Text × Text) × Cursor
  | 0, done, further, cursor => ((done, [], further), cursor)
  | fuel + 1, done, further, cursor =>
    let line := cursor.run fun c => !isLineEnd c
    let done := done ++ further ++ line
    let flush := !isSpaceOrTab cursor.peek
    let (last, cursor) := (cursor.skip line.length).lineBreak
    let (further, cursor) := blockBreaks indent cursor
    if atBlockLine indent cursor then
      let joint :=
        if folded && last = ['\n'] && flush && !isSpaceOrTab cursor.peek then
          if further.isEmpty then [' '] else []
        else last
      blockLines folded indent fuel (done ++ joint) further cursor
    else ((done, last, further), cursor)

/-- The line breaks at the end of a block. -/
def chomp (chomping : Chomping) (last further : Text) : Text :=
  match chomping with
  | .strip => []
  | .clip => last
  | .keep => last ++ further

/-- A block scalar whose lines stand at column `margin` or beyond. -/
def blockScalar (margin : Nat) (cursor : Cursor) : Except Fault (Text × Cursor) := do
  let folded := cursor.peek = '>'
  let (header, cursor) ← blockHeader cursor.advance
  let cursor ← cursor.endLine
  let least := max margin 1
  let (first, indent, cursor) : Text × Nat × Cursor :=
    match header.increment with
    | some n =>
      let indent := least + n - 1
      let (first, cursor) := blockBreaks indent cursor
      (first, indent, cursor)
    | none =>
      let (first, widest, cursor) := leadingBreaks cursor.rest.length [] 0 cursor
      (first, max least widest, cursor)
  let ((done, last, further), cursor) :=
    if atBlockLine indent cursor then blockLines folded indent cursor.rest.length [] first cursor
    else (([], [], first), cursor)
  .ok (done ++ chomp header.chomping last further, cursor)

end ProjectSurvey.Yaml
