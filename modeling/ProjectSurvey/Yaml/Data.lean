import ProjectSurvey.Yaml.Merge
import ProjectSurvey.Yaml.Scalar

/-! The data of a YAML document: the values that its nodes stand for. Scalars get their values at
once. Collections are filled later, one after another in the order in which they are met, and this
is the order in which faults come up. -/

namespace ProjectSurvey.Yaml

structure Data where
  root : Value
  heap : Heap

structure Building where
  graph : Graph
  /-- The values of the nodes that have been met. -/
  values : Array (Option Value)
  heap : Heap
  /-- The collections that are still to be filled, the last one met first. -/
  waiting : List NodeId

abbrev Builder (α : Type) := StateT Building (Except Fault) α

/-- The text of a scalar. That of a mapping is the text of its default value; `depth` bounds how
deep it stands. -/
def Graph.textOf (graph : Graph) : (depth : Nat) → NodeId → Except Fault Text
  | 0, _ => .error .tooDeep
  | depth + 1, id =>
    match (graph.node id).content with
    | .scalar text => .ok text
    | .sequence _ => .error .malformed
    | .mapping pairs =>
      match pairs.find? fun pair => (graph.node pair.1).tag = .default with
      | some pair => graph.textOf depth pair.2
      | none => .error .malformed

/-- The empty collection of a tag. -/
def Tag.collection? : Tag → Option Collection
  | .sequence => some (.list [])
  | .pairs => some (.list [])
  | .mapping => some (.mapping [])
  | .set => some (.set [])
  | _ => none

/-- Whether a node with this tag has its value by its text. -/
def Tag.isScalar : Tag → Bool
  | .null | .bool | .int | .float | .moment | .binary | .text => true
  | _ => false

/-- The value of a node with the tag of a scalar. -/
def Graph.scalarAt (graph : Graph) (id : NodeId) : Except Fault Value := do
  let node := graph.node id
  if !node.tag.isScalar then .error .malformed
  else
    let text ← graph.textOf (graph.nodes.size + 1) id
    match node.tag, node.content with
    | .moment, .mapping _ => .error .stampNotText
    | tag, _ => scalarValue id tag text

namespace Builder

def fail {α : Type} (fault : Fault) : Builder α :=
  fun _ => .error fault

/-- The value of a node. A node has one value wherever it stands. -/
def value (id : NodeId) : Builder Value := do
  let building ← get
  match (building.values[id]?).join with
  | some value => pure value
  | none =>
    match (building.graph.node id).tag.collection? with
    | some collection =>
      let value := Value.collection id
      set { building with
        values := building.values.setIfInBounds id (some value)
        heap := building.heap.put id collection
        waiting := id :: building.waiting }
      pure value
    | none =>
      match building.graph.scalarAt id with
      | .error fault => fail fault
      | .ok value =>
        set { building with values := building.values.setIfInBounds id (some value) }
        pure value

def valuesOf : List NodeId → Builder (List Value)
  | [] => pure []
  | id :: others => do
    let first ← value id
    pure (first :: (← valuesOf others))

/-- The pairs of a mapping, of those with one key the last. -/
def fieldsOnto (done : List (Value × Value)) :
    List (NodeId × NodeId) → Builder (List (Value × Value))
  | [] => pure done
  | (key, item) :: others => do
    let key ← value key
    if key.isKey then
      let item ← value item
      fieldsOnto (Value.setKey done key item) others
    else fail .malformed

def fields (id : NodeId) : Builder (List (Value × Value)) := do
  let graph := (← get).graph
  if (graph.pairs? id).isNone then fail .malformed
  else
    match graph.merged (graph.mergeCount + 1) id with
    | .error fault => fail fault
    | .ok graph =>
      modify fun building => { building with graph }
      fieldsOnto [] ((graph.pairs? id).getD [])

/-- The items of a list of pairs, each of which is a mapping with one pair. -/
def singlePairs : List NodeId → Builder (List Value)
  | [] => pure []
  | id :: others => do
    match (← get).graph.pairs? id with
    | some [(key, item)] =>
      let first ← value key
      let second ← value item
      pure (.pair first second :: (← singlePairs others))
    | _ => fail .malformed

def items (id : NodeId) : Builder (List NodeId) := do
  match ((← get).graph.node id).content with
  | .sequence items => pure items
  | _ => fail .malformed

def content (id : NodeId) : Builder Collection := do
  match ((← get).graph.node id).tag with
  | .mapping => .mapping <$> fields id
  | .set => (fun pairs => .set (pairs.map (·.1))) <$> fields id
  | .pairs => .list <$> (items id >>= singlePairs)
  | _ => .list <$> (items id >>= valuesOf)

def fillAll : List NodeId → Builder Unit
  | [] => pure ()
  | id :: others => do
    let collection ← content id
    modify fun building => { building with heap := building.heap.put id collection }
    fillAll others

/-- Fills the collections that wait, and those that are met on the way. Each is met once, so that
`rounds` need only be the number of nodes. -/
def settle : (rounds : Nat) → Builder Unit
  | 0 => pure ()
  | rounds + 1 => do
    let waiting := (← get).waiting
    if waiting.isEmpty then pure ()
    else
      modify fun building => { building with waiting := [] }
      fillAll waiting.reverse
      settle rounds

/-- The value of a node with everything in it. -/
def complete (id : NodeId) : Builder Value := do
  let root ← value id
  settle ((← get).graph.nodes.size + 1)
  pure root

end Builder

/-- The data of a document; an empty one holds nothing. -/
def Data.ofDocument (document : Document) : Except Fault Data := do
  let size := document.graph.nodes.size
  let start : Building := ⟨document.graph, Array.replicate size none, .empty size, []⟩
  match document.root? with
  | none => .ok ⟨.null, start.heap⟩
  | some root =>
    let (value, building) ← (Builder.complete root).run start
    .ok ⟨value, building.heap⟩

def Data.ofText (text : Text) : Except Fault Data := do
  let document ← Document.ofText text
  Data.ofDocument document

end ProjectSurvey.Yaml
