import ProjectSurvey.Terminal.Colour

/-! Styles of text in a terminal: attributes that are turned on or off, two colours and a link. A
style has one normal form, by which two spellings of it are seen to be the same. -/

namespace ProjectSurvey.Terminal

/-- The attributes in the order in which a style names them. -/
def attributeNames : List Text := ["bold", "dim", "italic", "underline", "blink", "blink2",
  "reverse", "conceal", "strike", "underline2", "frame", "encircle", "overline"]

def attributeAliases : List (Text × Text) := [("b", "bold"), ("d", "dim"), ("i", "italic"),
  ("u", "underline"), ("r", "reverse"), ("c", "conceal"), ("s", "strike"), ("uu", "underline2"),
  ("o", "overline")]

def attribute? (word : Text) : Option Text :=
  if attributeNames.contains word then some word
  else (attributeAliases.find? (·.1 == word)).map (·.2)

structure Style where
  /-- The attributes that are set, each with whether it is on; of two for one the first counts. -/
  attributes : List (Text × Bool)
  colour : Option Text
  background : Option Text
  link : Option Text
  deriving DecidableEq, Repr

inductive StyleFault where
  | unknownWord
  | partNotNumber (fault : PartNotNumber)
  deriving DecidableEq, Repr

namespace Style

def plain : Style := ⟨[], none, none, none⟩

def colourOf (word : Text) : Except StyleFault Text :=
  (colourName word).mapError fun
    | .unknown => .unknownWord
    | .partNotNumber fault => .partNotNumber fault

/-- A style with what further words say. `on`, `not` and `link` belong to the word after them. -/
def withWords (style : Style) : List Text → Except StyleFault Style
  | [] => .ok style
  | word :: rest =>
    let lowered := Text.lower word
    if lowered = "on".toList then
      match rest with
      | [] => .error .unknownWord
      | name :: rest => do
        let background ← colourOf name
        withWords { style with background := some background } rest
    else if lowered = "not".toList then
      match rest with
      | [] => .error .unknownWord
      | name :: rest =>
        match attribute? name with
        | some found =>
          withWords { style with attributes := (found, false) :: style.attributes } rest
        | none => .error .unknownWord
    else if lowered = "link".toList then
      match rest with
      | [] => .error .unknownWord
      | target :: rest => withWords { style with link := some target } rest
    else match attribute? lowered with
      | some found =>
        withWords { style with attributes := (found, true) :: style.attributes } rest
      | none => do
        let colour ← colourOf lowered
        withWords { style with colour := some colour } rest

def ofText (text : Text) : Except StyleFault Style :=
  if Text.trim isBlank text = "none".toList then .ok plain else plain.withWords (Text.words text)

def attributeWords (style : Style) : List Text :=
  attributeNames.filterMap fun name =>
    (style.attributes.find? (·.1 == name)).map fun found =>
      if found.2 then name else "not " ++ name

def toWords (style : Style) : List Text :=
  let after (word : Text) (value : Option Text) : List Text :=
    (value.map fun text => [word, text]).getD []
  style.attributeWords ++ style.colour.toList ++ after "on" style.background
    ++ after "link" style.link

def toText (style : Style) : Text :=
  if style.toWords.isEmpty then "none" else Text.join " " style.toWords

end Style

/-- The name by which a style is known however it is spelled; what describes no style is known by
its own words. -/
def styleName (text : Text) : Except PartNotNumber Text :=
  match Style.ofText text with
  | .ok style => .ok style.toText
  | .error .unknownWord => .ok (Text.lower (Text.trim isBlank text))
  | .error (.partNotNumber fault) => .error fault

end ProjectSurvey.Terminal
