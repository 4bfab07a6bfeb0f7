import ProjectSurvey.Text.Utf8
import ProjectSurvey.Yaml.Cursor

/-! What may stand before the content of a node, its anchor and its tag, and what may stand before
a document, its directives. -/

namespace ProjectSurvey.Yaml

/-- A tag as it is written: a handle that stands for the start of the tag, if there is one, and the
rest. -/
structure WrittenTag where
  handle? : Option Text
  rest : Text
  deriving DecidableEq, Repr

inductive Directive where
  /-- The version of the language that a document is written in. -/
  | version (major : Nat)
  /-- What a tag handle stands for. -/
  | handle (name start : Text)
  | other
  deriving DecidableEq, Repr

/-- The handle that stands alone, and the one of the language's own tags. -/
def primaryHandle : Text := "!"

def secondaryHandle : Text := "!!"

/-- The word at the cursor, which must not be empty. -/
def word (cursor : Cursor) : Except Fault (Text × Cursor) :=
  let text := cursor.run isWordChar
  if text.isEmpty then .error .malformed else .ok (text, cursor.skip text.length)

/-- The name of an anchor or alias, whose indicator is the next character. -/
def anchorName (cursor : Cursor) : Except Fault (Text × Cursor) := do
  let (name, cursor) ← word cursor.advance
  if isGap cursor.peek || "?:,]\x7d%@`".toList.contains cursor.peek then .ok (name, cursor)
  else .error .malformed

/-! Tags -/

def isTagChar (c : Char) : Bool :=
  isAlphanumeric c || "-;/?:@&=+$,_.!~*'()[]".toList.contains c

/-- The bytes of the escapes at the cursor. -/
def escapedBytes : (fuel : Nat) → (done : List UInt8) → Cursor → Except Fault (List UInt8 × Cursor)
  | 0, done, cursor => .ok (done.reverse, cursor)
  | fuel + 1, done, cursor => do
    if cursor.peek = '%' then
      let number ← cursor.advance.hexadecimal 2
      escapedBytes fuel (number.toUInt8 :: done) (cursor.skip 3)
    else .ok (done.reverse, cursor)

/-- The characters of a tag, of which those that are escaped are written in UTF-8. -/
def tagCharsOnto : (fuel : Nat) → (done : Text) → Cursor → Except Fault (Text × Cursor)
  | 0, done, cursor => .ok (done, cursor)
  | fuel + 1, done, cursor => do
    if cursor.peek = '%' then
      let (bytes, cursor) ← escapedBytes cursor.rest.length [] cursor
      match Utf8.decode bytes with
      | .ok text => tagCharsOnto fuel (done ++ text) cursor
      | .error _ => .error .malformed
    else
      let text := cursor.run isTagChar
      if text.isEmpty then .ok (done, cursor)
      else tagCharsOnto fuel (done ++ text) (cursor.skip text.length)

/-- The characters of a tag at the cursor, which must not be none. -/
def tagChars (cursor : Cursor) : Except Fault (Text × Cursor) := do
  let (text, cursor) ← tagCharsOnto cursor.rest.length [] cursor
  if text.isEmpty then .error .malformed else .ok (text, cursor)

/-- The tag handle at the cursor: an exclamation mark alone before a blank, or a name between
two. -/
def tagHandle (cursor : Cursor) : Except Fault (Text × Cursor) :=
  if cursor.peek != '!' then .error .malformed
  else if cursor.peekAt 1 = ' ' then .ok (primaryHandle, cursor.advance)
  else
    let name := cursor.advance.run isWordChar
    let after := cursor.skip (1 + name.length)
    if after.peek = '!' then .ok ('!' :: name ++ ['!'], after.advance) else .error .malformed

/-- The tag at the cursor without a look at what follows it. -/
def tagAt (cursor : Cursor) : Except Fault (WrittenTag × Cursor) := do
  if cursor.peekAt 1 = '<' then
    let (rest, cursor) ← tagChars (cursor.skip 2)
    if cursor.peek = '>' then .ok (⟨none, rest⟩, cursor.advance) else .error .malformed
  else if isGap (cursor.peekAt 1) then .ok (⟨none, primaryHandle⟩, cursor.advance)
  else if (cursor.advance.run fun c => !isSpaceOrEnd c).contains '!' then
    let (handle, cursor) ← tagHandle cursor
    let (rest, cursor) ← tagChars cursor
    .ok (⟨some handle, rest⟩, cursor)
  else
    let (rest, cursor) ← tagChars cursor.advance
    .ok (⟨some primaryHandle, rest⟩, cursor)

/-- The tag of a node, behind which a blank or the end of the line has to follow. -/
def writtenTag (cursor : Cursor) : Except Fault (WrittenTag × Cursor) := do
  let (tag, cursor) ← tagAt cursor
  if isSpaceOrEnd cursor.peek then .ok (tag, cursor) else .error .malformed

/-! Directives -/

def versionNumber (cursor : Cursor) : Except Fault (Nat × Cursor) :=
  let digits := cursor.run isDecimalDigit
  if digits.isEmpty then .error .malformed
  else .ok (decimalValue digits, cursor.skip digits.length)

/-- The version that a directive names, of which the minor part does not matter. -/
def versionDirective (cursor : Cursor) : Except Fault (Directive × Cursor) := do
  let (major, cursor) ← versionNumber cursor
  if cursor.peek != '.' then .error .malformed
  else
    let (_, cursor) ← versionNumber cursor.advance
    if isSpaceOrEnd cursor.peek then .ok (.version major, cursor) else .error .malformed

/-- The handle that a directive gives a meaning, and that meaning. -/
def handleDirective (cursor : Cursor) : Except Fault (Directive × Cursor) := do
  let (name, cursor) ← tagHandle cursor
  if cursor.peek != ' ' then .error .malformed
  else
    let (start, cursor) ← tagChars (cursor.skipWhile (· = ' '))
    if isSpaceOrEnd cursor.peek then .ok (.handle name start, cursor) else .error .malformed

/-- The directive whose indicator is the next character, up to the end of its line. -/
def directive (cursor : Cursor) : Except Fault (Directive × Cursor) := do
  let (name, cursor) ← word cursor.advance
  if !isSpaceOrEnd cursor.peek then .error .malformed
  else
    let after := cursor.skipWhile (· = ' ')
    let (found, cursor) ←
      if name = "YAML".toList then versionDirective after
      else if name = "TAG".toList then handleDirective after
      else .ok (.other, cursor.skipWhile fun c => !isLineEnd c)
    let cursor ← cursor.endLine
    .ok (found, cursor)

end ProjectSurvey.Yaml
