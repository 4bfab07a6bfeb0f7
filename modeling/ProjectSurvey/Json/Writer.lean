import ProjectSurvey.Json.Basic
import ProjectSurvey.Text.Surrogate

/-! JSON values as ASCII text, on one line or with each item on a line of its own. -/

namespace ProjectSurvey.Json

/-- A code unit of sixteen bits as an escape. -/
def writeUnit (unit : Nat) : Text :=
  "\\u" ++ Text.padded 16 4 unit

/-- A character as it stands in a string. Whatever is not printable ASCII is escaped, a character
beyond sixteen bits as two units. -/
def escapeChar (c : Char) : Text :=
  if c = '"' then "\\\""
  else if c = '\\' then "\\\\"
  else if c = '\n' then "\\n"
  else if c = '\r' then "\\r"
  else if c = '\t' then "\\t"
  else if c = '\x08' then "\\b"
  else if c = '\x0c' then "\\f"
  else if 0x20 ≤ c.toNat && c.toNat < 0x7F then [c]
  else
    let n := Text.codePoint c
    if n < 0x10000 then writeUnit n
    else writeUnit (0xD800 + (n - 0x10000) / 0x400) ++ writeUnit (0xDC00 + (n - 0x10000) % 0x400)

def quoted (text : Text) : Text :=
  '"' :: text.flatMap escapeChar ++ ['"']

/-- How numbers that are not finite are written. -/
def spelling : Binary64.Spelling := ⟨"NaN", "Infinity"⟩

mutual

/-- A value on one line. -/
def render : Json → Text
  | .null => "null"
  | .bool value => if value then "true" else "false"
  | .int value => Text.ofInt value
  | .float value => value.toText spelling
  | .str value => quoted value
  | .array items => '[' :: Text.join ", " (renderItems items) ++ "]"
  | .object fields => '{' :: Text.join ", " (renderFields fields) ++ ['}']
  termination_by structural json => json

def renderItems : List Json → List Text
  | [] => []
  | item :: items => item.render :: renderItems items
  termination_by structural items => items

def renderFields : List (Text × Json) → List Text
  | [] => []
  | (name, value) :: fields => (quoted name ++ ": " ++ value.render) :: renderFields fields
  termination_by structural fields => fields

end

/-- Items between brackets, each on a line of its own that is indented by two blanks more than
`margin`; nothing between the brackets when there are none. -/
def bracketed (opening closing : Char) (margin : Text) (items : List Text) : Text :=
  if items.isEmpty then [opening, closing]
  else
    let line := '\n' :: margin
    opening :: line ++ "  " ++ Text.join (',' :: line ++ "  ") items ++ line ++ [closing]

mutual

/-- A value on several lines, of which all but the first begin with `margin`. -/
def renderIndented (margin : Text) : Json → Text
  | .array items => bracketed '[' ']' margin (renderItemsIndented ("  " ++ margin) items)
  | .object fields => bracketed '{' '}' margin (renderFieldsIndented ("  " ++ margin) fields)
  | .null => render .null
  | .bool value => render (.bool value)
  | .int value => render (.int value)
  | .float value => render (.float value)
  | .str value => render (.str value)
  termination_by structural json => json

def renderItemsIndented (margin : Text) : List Json → List Text
  | [] => []
  | item :: items => item.renderIndented margin :: renderItemsIndented margin items
  termination_by structural items => items

def renderFieldsIndented (margin : Text) : List (Text × Json) → List Text
  | [] => []
  | (name, value) :: fields =>
    (quoted name ++ ": " ++ value.renderIndented margin) :: renderFieldsIndented margin fields
  termination_by structural fields => fields

end

/-- A value with each item on a line of its own. -/
def pretty (json : Json) : Text :=
  json.renderIndented []

end ProjectSurvey.Json
