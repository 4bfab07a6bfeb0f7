import ProjectSurvey.Number.Reading
import ProjectSurvey.Text.Utf8
import ProjectSurvey.Yaml.Stamp

/-! The values of a YAML document. A collection is known by the number of the node that it comes from,
so that it may stand in several places and inside itself; what it holds is kept in a heap. -/

namespace ProjectSurvey.Yaml

/-- The number of a node in its document. -/
abbrev NodeId := Nat

inductive Value where
  | null
  | bool (value : Bool)
  | int (value : Int)
  | float (value : Binary64)
  /-- What is no number. Every reading gives one of its own, which is told apart by the node that
  was read; the word for it always stands for the same. -/
  | notNumber (reading : Option NodeId)
  | text (value : Text)
  | bytes (value : Bytes)
  | date (date : Date)
  | moment (date : Date) (time : Time)
  /-- An item of a list of pairs. -/
  | pair (first second : Value)
  | collection (id : NodeId)
  deriving DecidableEq, Repr

inductive Collection where
  | list (items : List Value)
  | mapping (pairs : List (Value × Value))
  | set (items : List Value)
  deriving DecidableEq, Repr

structure Heap where
  collections : Array Collection

namespace Heap

/-- The heap with as many empty lists as there are nodes. -/
def empty (size : Nat) : Heap :=
  ⟨Array.replicate size (.list [])⟩

def get (heap : Heap) (id : NodeId) : Collection :=
  (heap.collections[id]?).getD (.list [])

def put (heap : Heap) (id : NodeId) (collection : Collection) : Heap :=
  ⟨heap.collections.setIfInBounds id collection⟩

/-- The pairs of a value that is a mapping. -/
def pairs? (heap : Heap) : Value → Option (List (Value × Value))
  | .collection id =>
    match heap.get id with
    | .mapping pairs => some pairs
    | _ => none
  | _ => none

/-- Whether a value counts as set: everything but nothing, false, zero and what is empty. -/
def isTruthy (heap : Heap) : Value → Bool
  | .null => false
  | .bool value => value
  | .int value => value != 0
  | .float value => !value.isZero
  | .text value => !value.isEmpty
  | .bytes value => !value.isEmpty
  | .collection id =>
    match heap.get id with
    | .list items => !items.isEmpty
    | .mapping pairs => !pairs.isEmpty
    | .set items => !items.isEmpty
  | _ => true

end Heap

namespace Value

def whole? : Value → Option Int
  | .bool value => some (if value then 1 else 0)
  | .int value => some value
  | .float value => value.toInt?
  | _ => none

/-- Whether two keys are one. Numbers and truth values are compared by their size, and moments with
an offset by the time that they mean. -/
def isSameKey : Value → Value → Bool
  | .null, .null => true
  | .text a, .text b => a == b
  | .bytes a, .bytes b => a == b
  | .date a, .date b => a == b
  | .moment a s, .moment b t => isSameMoment a s b t
  | .notNumber a, .notNumber b => a == b
  | .float a, .float b => a == b || (a.isZero && b.isZero)
  | a, b =>
    match a.whole?, b.whole? with
    | some x, some y => x == y
    | _, _ => false

/-- Whether a value may be a key. -/
def isKey : Value → Bool
  | .collection _ => false
  | _ => true

/-- The pairs with the value of a key set: in its place if it is there, else at the end. -/
def setKey (pairs : List (Value × Value)) (key value : Value) : List (Value × Value) :=
  if pairs.any fun pair => pair.1.isSameKey key then
    pairs.map fun pair => if pair.1.isSameKey key then (pair.1, value) else pair
  else pairs ++ [(key, value)]

def field? (pairs : List (Value × Value)) (name : Text) : Option Value :=
  (pairs.find? fun pair => pair.1.isSameKey (.text name)).map (·.2)

end Value

end ProjectSurvey.Yaml
