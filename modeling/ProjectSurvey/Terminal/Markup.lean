import ProjectSurvey.Terminal.Emoji
import ProjectSurvey.Terminal.Literal
import ProjectSurvey.Terminal.Style
import ProjectSurvey.Text.AlphanumericTable
import ProjectSurvey.Text.Quoted

/-! Markup in text for the terminal: tags in brackets that open and close styles. Styles are not
shown, so that reading markup only takes the tags away; but a tag must not close what is not
open, and what a tag that is closed says has to be readable. -/

namespace ProjectSurvey.Terminal

/-- A tag: its name, which begins with a slash if it closes a style, and what stands after an equals
sign. -/
structure Tag where
  name : Text
  parameters : Option Text
  deriving DecidableEq, Repr

inductive Marked where
  | plain (text : Text)
  | tag (tag : Tag)
  deriving DecidableEq, Repr

def Tag.ofContent (content : Text) : Tag :=
  let (name, parameters) := Text.cutAt '=' content
  ⟨name, parameters⟩

/-- Whether a tag may begin with this character after its bracket. -/
def startsTag (c : Char) : Bool :=
  ('a' ≤ c && c ≤ 'z') || c = '#' || c = '/' || c = '@'

def tagContent? (text : Text) : Option Text :=
  match text with
  | '[' :: c :: rest =>
    let inner := rest.takeWhile fun d => d != '[' && d != ']'
    if startsTag c && (rest.drop inner.length).head? = some ']' then some (c :: inner) else none
  | _ => none

/-- A plain text in which a backslash before a bracket is dropped. -/
def unescaped : Text → Text
  | '\\' :: '[' :: rest => '[' :: unescaped rest
  | c :: rest => c :: unescaped rest
  | [] => []

/-- The pieces of a marked-up text. Of backslashes before a tag every two stand for one, and one
left over takes the tag its meaning. `plain` holds the characters since the last piece backwards,
and `skipped` characters belong to a piece that has been read. -/
def piecesOnto (plain : Text) (skipped : Nat) : Text → List Marked
  | [] => [.plain (unescaped plain.reverse)]
  | c :: rest =>
    match skipped with
    | more + 1 => piecesOnto plain more rest
    | 0 =>
      let text := c :: rest
      let slashes := (text.takeWhile (· = '\\')).length
      match tagContent? (text.drop slashes) with
      | none => piecesOnto (c :: plain) 0 rest
      | some content =>
        let before : List Marked :=
          [.plain (unescaped plain.reverse), .plain (List.replicate (slashes / 2) '\\')]
        let piece : Marked :=
          if slashes % 2 = 1 then .plain ('[' :: content ++ [']'])
          else .tag (.ofContent content)
        before ++ piece :: piecesOnto [] (slashes + content.length + 1) rest

inductive MarkupFault where
  /-- A tag closes a style that is not open. -/
  | notOpen (tag : Text)
  /-- A tag that names an action is closed, but what the action is given is no literal. -/
  | badParameters (parameters : Text)
  /-- A tag spells a colour in numbers of which one is none. -/
  | partNotNumber (fault : PartNotNumber)
  deriving DecidableEq, Repr

def MarkupFault.message : MarkupFault → Text
  | .notOpen tag => "closing tag '[" ++ tag ++ "]' does not match any open tag"
  | .badParameters parameters => "error parsing " ++ Text.quoted parameters
  | .partNotNumber fault => "not a number: " ++ Text.quoted fault.part

/-- The name of a style in a tag, however it is spelled. -/
def normalName (name : Text) : Except MarkupFault Text :=
  (styleName name).mapError .partNotNumber

/-! Actions -/

/-- Whether a character may stand in the name of an action. -/
def isActionChar (c : Char) : Bool :=
  isAlphanumeric c || c = '_' || c = '.' || Text.inRanges Text.alphanumericRanges c.toNat

/-- Whether what an action is given can be read: the name of a handler, a handler with values in
brackets, or a literal. -/
def parametersAreReadable (parameters : Text) : Bool :=
  let text := Text.trim isBlank parameters
  let after := text.dropWhile isActionChar
  if after.isEmpty then true
  else if after.head? = some '(' && after.getLast? = some ')' && !after.contains '\n' then
    isLiteral after
  else isLiteral text

namespace Tag

/-- The style that a tag stands for: its name, with what is given to it. -/
def style (tag : Tag) : Text :=
  match tag.parameters with
  | some parameters => tag.name ++ " " ++ parameters
  | none => tag.name

/-- Closes an open tag: the style that it stood for, of which an action has none. -/
def close (tag : Tag) : Except MarkupFault (Option Text) :=
  if tag.name.head? = some '@' then
    match tag.parameters with
    | some parameters =>
      if parametersAreReadable parameters then .ok none else .error (.badParameters parameters)
    | none => .ok none
  else .ok (some tag.style)

end Tag

/-! Reading -/

/-- What has been read of a marked-up text. -/
structure MarkupReading where
  /-- The pieces of text that are shown, backwards. -/
  shown : List Text
  /-- The tags that are open, the last one first. -/
  opens : List Tag
  /-- The styles of the tags that are closed. -/
  styles : List Text

namespace MarkupReading

def start : MarkupReading := ⟨[], [], []⟩

/-- Closes the open tag at a position. -/
def closeAt (reading : MarkupReading) (position : Nat) (written : Text) :
    Except MarkupFault MarkupReading := do
  match reading.opens[position]? with
  | none => .error (.notOpen written)
  | some tag =>
    let style ← tag.close
    .ok { reading with
      opens := reading.opens.eraseIdx position
      styles := style.toList ++ reading.styles }

/-- Reads a tag. One that closes nothing by name closes the last open one. -/
def readTag (reading : MarkupReading) (tag : Tag) : Except MarkupFault MarkupReading := do
  match tag.name with
  | '/' :: rest =>
    let closed := Text.trim isBlank rest
    if closed.isEmpty then reading.closeAt 0 tag.name
    else
      let name ← normalName closed
      reading.closeAt (reading.opens.findIdx fun other => other.name == name) tag.name
  | _ =>
    let name ← normalName tag.name
    .ok { reading with opens := ⟨name, tag.parameters⟩ :: reading.opens }

def read (reading : MarkupReading) : Marked → Except MarkupFault MarkupReading
  | .plain text => .ok { reading with shown := withEmoji text :: reading.shown }
  | .tag tag => reading.readTag tag

/-- The text that is shown, if every style can be made out. -/
def finish (reading : MarkupReading) : Except MarkupFault Text := do
  let _ ← (reading.styles ++ reading.opens.map Tag.style).mapM normalName
  .ok reading.shown.reverse.flatten

end MarkupReading

/-- The text that a marked-up text shows, with emoji in place of their names. -/
def ofMarkup (text : Text) : Except MarkupFault Text := do
  if text.contains '[' then
    let reading ← (piecesOnto [] 0 text).foldlM MarkupReading.read .start
    reading.finish
  else .ok (withEmoji text)

end ProjectSurvey.Terminal
