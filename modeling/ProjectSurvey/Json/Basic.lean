import ProjectSurvey.Number.Binary64

/-! JSON values. Whole numbers and numbers with a fraction or exponent are told apart, and the
fields of an object keep the order in which they were first written. -/

namespace ProjectSurvey

inductive Json where
  | null
  | bool (value : Bool)
  | int (value : Int)
  | float (value : Binary64)
  | str (value : Text)
  | array (items : List Json)
  | object (fields : List (Text × Json))

namespace Json

/-- The kind of a value as it is named to the reader of an error message. -/
def kind : Json → Text
  | .null => "NoneType"
  | .bool _ => "bool"
  | .int _ => "int"
  | .float _ => "float"
  | .str _ => "str"
  | .array _ => "list"
  | .object _ => "dict"

def field? (fields : List (Text × Json)) (name : Text) : Option Json :=
  (fields.find? (·.1 == name)).map (·.2)

/-- The fields with one of them set: in its place if it is there, else at the end. -/
def setField (fields : List (Text × Json)) (name : Text) (value : Json) : List (Text × Json) :=
  if fields.any (·.1 == name) then
    fields.map fun field => if field.1 == name then (name, value) else field
  else
    fields ++ [(name, value)]

/-- Whether a value counts as set: everything but `null`, `false`, zero and what is empty. -/
def isTruthy : Json → Bool
  | .null => false
  | .bool value => value
  | .int value => value != 0
  | .float value => !value.isZero
  | .str value => !value.isEmpty
  | .array items => !items.isEmpty
  | .object fields => !fields.isEmpty

def ofTexts (texts : List Text) : Json :=
  .array (texts.map .str)

end Json

end ProjectSurvey
