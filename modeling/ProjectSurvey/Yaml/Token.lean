import ProjectSurvey.Yaml.Property
import ProjectSurvey.Yaml.Style

/-! The tokens of a YAML text. Indentation becomes tokens that open and close block collections; a
colon turns what stands before it into a key, so where a key may begin is kept in mind until a
colon comes or can no longer come. -/

namespace ProjectSurvey.Yaml

inductive Token where
  | directive (directive : Directive)
  | documentStart
  | documentEnd
  | blockSequenceStart
  | blockMappingStart
  | blockEnd
  | flowSequenceStart
  | flowSequenceEnd
  | flowMappingStart
  | flowMappingEnd
  | blockEntry
  | flowEntry
  | key
  | value
  | alias (name : Text)
  | anchor (name : Text)
  | tag (tag : WrittenTag)
  | scalar (text : Text) (isPlain : Bool)
  /-- The text cannot be read on from here. -/
  | broken (fault : Fault)
  deriving DecidableEq, Repr

structure KeyStart where
  /-- The number of tokens before it. -/
  number : Nat
  /-- Whether what stands there can be nothing but a key. -/
  required : Bool
  index : Nat
  line : Nat
  column : Nat

structure Scan where
  cursor : Cursor
  /-- The tokens so far, backwards. -/
  tokens : List Token
  /-- The columns of the open block collections, innermost first. -/
  indents : List Nat
  /-- Where a key may have begun in each open flow collection, innermost first, and last of all
  outside of them. -/
  keys : List (Option KeyStart)
  /-- Whether a key may begin here without an indicator. -/
  keyAllowed : Bool

/-- The greatest distance between the start of a key and its colon. -/
def keyLimit : Nat := 1024

namespace Scan

def start (text : Text) : Scan :=
  ⟨Cursor.ofText text, [], [], [none], true⟩

def inFlow (scan : Scan) : Bool :=
  1 < scan.keys.length

def push (scan : Scan) (token : Token) : Scan :=
  { scan with tokens := token :: scan.tokens }

/-- Puts a token before all but the first `number` ones. -/
def insertAt (scan : Scan) (number : Nat) (token : Token) : Scan :=
  let later := scan.tokens.length - number
  { scan with tokens := scan.tokens.take later ++ token :: scan.tokens.drop later }

/-- Goes on behind `length` characters that make up a token. -/
def accept (scan : Scan) (length : Nat) (token : Token) : Scan :=
  { scan.push token with cursor := scan.cursor.skip length }

/-- The least column of what belongs to the innermost block collection. -/
def margin (scan : Scan) : Nat :=
  match scan.indents with
  | [] => 0
  | indent :: _ => indent + 1

/-- Opens a block collection at a column unless one is open there or further right. -/
def indentTo (scan : Scan) (column : Nat) : Option Scan :=
  if scan.margin ≤ column then some { scan with indents := column :: scan.indents } else none

/-- Closes the open block collections for which `closes` holds of the column. -/
def unwind (scan : Scan) (closes : Nat → Bool) : Scan :=
  if scan.inFlow then scan
  else
    let closed := scan.indents.takeWhile closes
    { scan with
      indents := scan.indents.drop closed.length
      tokens := closed.map (fun _ => Token.blockEnd) ++ scan.tokens }

/-! Keys -/

/-- Forgets where a key may have begun in the innermost collection; not if it has to be one. -/
def dropKey (scan : Scan) : Except Fault Scan :=
  match scan.keys with
  | some start :: outer =>
    if start.required then .error .malformed else .ok { scan with keys := none :: outer }
  | _ => .ok scan

/-- Keeps in mind that a key may begin here. -/
def saveKey (scan : Scan) : Except Fault Scan := do
  if scan.keyAllowed then
    let scan ← scan.dropKey
    let cursor := scan.cursor
    let required := !scan.inFlow && scan.indents.head? = some cursor.column
    let start : KeyStart :=
      ⟨scan.tokens.length, required, cursor.index, cursor.line, cursor.column⟩
    .ok { scan with keys := some start :: scan.keys.drop 1 }
  else .ok scan

/-- Whether a key that begins at `start` cannot reach as far as the cursor. -/
def isStale (cursor : Cursor) (start : KeyStart) : Bool :=
  start.line != cursor.line || keyLimit < cursor.index - start.index

/-- Forgets the starts of keys that no colon can follow any more. -/
def dropStaleKeys (scan : Scan) : Except Fault Scan :=
  let stale (start : KeyStart) := isStale scan.cursor start
  if scan.keys.any fun key => key.any fun start => stale start && start.required then
    .error .malformed
  else .ok { scan with keys := scan.keys.map fun key => key.filter fun start => !stale start }

/-! The single tokens -/

/-- A mark that stands alone on the outermost level. -/
def document (scan : Scan) (token : Token) : Except Fault Scan := do
  let scan ← (scan.unwind fun _ => true).dropKey
  .ok { scan.accept 3 token with keyAllowed := false }

def directiveToken (scan : Scan) : Except Fault Scan := do
  let scan ← (scan.unwind fun _ => true).dropKey
  let (found, cursor) ← directive scan.cursor
  .ok { scan.push (.directive found) with cursor, keyAllowed := false }

def openFlow (scan : Scan) (token : Token) : Except Fault Scan := do
  let scan ← scan.saveKey
  .ok { scan.accept 1 token with keys := none :: scan.keys, keyAllowed := true }

def closeFlow (scan : Scan) (token : Token) : Except Fault Scan := do
  let scan ← scan.dropKey
  let keys := if scan.inFlow then scan.keys.drop 1 else scan.keys
  .ok { scan.accept 1 token with keys, keyAllowed := false }

def flowEntry (scan : Scan) : Except Fault Scan := do
  let scan ← scan.dropKey
  .ok { scan.accept 1 .flowEntry with keyAllowed := true }

/-- Opens a block collection at the cursor if need be, where a key may begin. -/
def openBlock (scan : Scan) (token : Token) : Except Fault Scan :=
  if scan.inFlow then .ok scan
  else if !scan.keyAllowed then .error .malformed
  else match scan.indentTo scan.cursor.column with
    | some scan => .ok (scan.push token)
    | none => .ok scan

def blockEntry (scan : Scan) : Except Fault Scan := do
  let scan ← scan.openBlock .blockSequenceStart
  let scan ← scan.dropKey
  .ok { scan.accept 1 .blockEntry with keyAllowed := true }

def keyToken (scan : Scan) : Except Fault Scan := do
  let scan ← scan.openBlock .blockMappingStart
  let scan ← scan.dropKey
  .ok { scan.accept 1 .key with keyAllowed := !scan.inFlow }

/-- A colon: what began where a key may have begun is one. -/
def valueToken (scan : Scan) : Except Fault Scan :=
  match scan.keys with
  | some start :: outer =>
    let scan := { scan with keys := none :: outer }.insertAt start.number .key
    let scan :=
      if scan.inFlow then scan
      else match scan.indentTo start.column with
        | some opened => opened.insertAt start.number .blockMappingStart
        | none => scan
    .ok { scan.accept 1 .value with keyAllowed := false }
  | _ => do
    let scan ← scan.openBlock .blockMappingStart
    .ok { scan.accept 1 .value with keyAllowed := !scan.inFlow }

/-- A token that is read from here on, which may begin a key and after which none may begin. -/
def inKey {α : Type} (scan : Scan) (read : Cursor → Except Fault (α × Cursor)) (token : α → Token) :
    Except Fault Scan := do
  let scan ← scan.saveKey
  let (found, cursor) ← read scan.cursor
  .ok { scan.push (token found) with cursor, keyAllowed := false }

def blockScalarToken (scan : Scan) : Except Fault Scan := do
  let scan ← scan.dropKey
  let (text, cursor) ← blockScalar scan.margin scan.cursor
  .ok { scan.push (.scalar text false) with cursor, keyAllowed := true }

def plainToken (scan : Scan) : Except Fault Scan := do
  let scan ← scan.saveKey
  let found := plain scan.inFlow scan.margin scan.cursor
  .ok { scan.push (.scalar found.text true) with cursor := found.cursor, keyAllowed := found.crossed }

/-- Whether a plain scalar may begin with the next character. -/
def startsPlain (scan : Scan) : Bool :=
  let c := scan.cursor.peek
  if isGap c then false
  else if c = '-' then !isGap (scan.cursor.peekAt 1)
  else if c = '?' || c = ':' then !scan.inFlow && !isGap (scan.cursor.peekAt 1)
  else !",[]\x7b\x7d#&*!|>'\"%@`".toList.contains c

def token (scan : Scan) : Except Fault Scan :=
  let cursor := scan.cursor
  let c := cursor.peek
  let gapAfter := isGap (cursor.peekAt 1)
  if c = '%' && cursor.column = 0 then scan.directiveToken
  else if cursor.column = 0 && cursor.atMark "---" then scan.document .documentStart
  else if cursor.column = 0 && cursor.atMark "..." then scan.document .documentEnd
  else if c = '[' then scan.openFlow .flowSequenceStart
  else if c = '\x7b' then scan.openFlow .flowMappingStart
  else if c = ']' then scan.closeFlow .flowSequenceEnd
  else if c = '\x7d' then scan.closeFlow .flowMappingEnd
  else if c = ',' then scan.flowEntry
  else if c = '-' && gapAfter then scan.blockEntry
  else if c = '?' && (scan.inFlow || gapAfter) then scan.keyToken
  else if c = ':' && (scan.inFlow || gapAfter) then scan.valueToken
  else if c = '*' then scan.inKey anchorName .alias
  else if c = '&' then scan.inKey anchorName .anchor
  else if c = '!' then scan.inKey writtenTag .tag
  else if (c = '|' || c = '>') && !scan.inFlow then scan.blockScalarToken
  else if c = '\'' || c = '"' then scan.inKey quotedScalar fun text => .scalar text false
  else if scan.startsPlain then scan.plainToken
  else .error .malformed

/-- Goes on behind blanks, comments and line breaks; `fuel` bounds the lines. -/
def skipBlank : (fuel : Nat) → Scan → Scan
  | 0, scan => scan
  | fuel + 1, scan =>
    let cursor := scan.cursor.skipWhile (· = ' ')
    let cursor := if cursor.peek = '#' then cursor.skipWhile fun c => !isLineEnd c else cursor
    if isBreak cursor.peek then
      skipBlank fuel
        { scan with cursor := cursor.advance, keyAllowed := scan.keyAllowed || !scan.inFlow }
    else { scan with cursor }

/-- Goes on to the next token and closes the block collections that it does not belong to. -/
def toToken (scan : Scan) : Except Fault Scan := do
  let scan ← (scan.skipBlank (scan.cursor.rest.length + 1)).dropStaleKeys
  let column := scan.cursor.column
  .ok (scan.unwind fun indent => column < indent)

/-- The tokens of the text, those so far included; `fuel` bounds the number of further ones. -/
def finish : (fuel : Nat) → Scan → List Token
  | 0, scan => scan.tokens.reverse
  | fuel + 1, scan =>
    match scan.toToken with
    | .error fault => (scan.push (.broken fault)).tokens.reverse
    | .ok scan =>
      if scan.cursor.peek = endMark then
        match (scan.unwind fun _ => true).dropKey with
        | .error fault => (scan.push (.broken fault)).tokens.reverse
        | .ok scan => scan.tokens.reverse
      else match scan.token with
        | .error fault => (scan.push (.broken fault)).tokens.reverse
        | .ok scan => finish fuel scan

end Scan

/-- The text without the byte order mark that it may begin with. -/
def Scan.skipMark (scan : Scan) : Scan :=
  if scan.cursor.peek.toNat == 0xFEFF then { scan with cursor := scan.cursor.advance } else scan

def tokensOf (text : Text) : List Token :=
  if text.all isAllowed then (Scan.start text).skipMark.finish (text.length + 1)
  else [.broken .malformed]

end ProjectSurvey.Yaml
