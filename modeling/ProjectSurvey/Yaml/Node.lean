import ProjectSurvey.Yaml.Tag
import ProjectSurvey.Yaml.Token
import ProjectSurvey.Yaml.Value

/-! The nodes of a YAML document, each with the tag that says what it is. An alias is the very node
that it stands for, so that a node may stand in several places and even inside itself: the nodes
form a graph. -/

namespace ProjectSurvey.Yaml

inductive Content where
  | scalar (text : Text)
  | sequence (items : List NodeId)
  | mapping (pairs : List (NodeId × NodeId))
  deriving DecidableEq, Repr

structure Node where
  tag : Tag
  content : Content
  deriving DecidableEq, Repr

structure Graph where
  nodes : Array Node
  deriving DecidableEq, Repr

namespace Graph

/-- The node with a number. A number that no node has counts as that of a scalar left out. -/
def node (graph : Graph) (id : NodeId) : Node :=
  (graph.nodes[id]?).getD ⟨.null, .scalar []⟩

def add (graph : Graph) (node : Node) : NodeId × Graph :=
  (graph.nodes.size, ⟨graph.nodes.push node⟩)

def put (graph : Graph) (id : NodeId) (node : Node) : Graph :=
  ⟨graph.nodes.setIfInBounds id node⟩

def fill (graph : Graph) (id : NodeId) (content : Content) : Graph :=
  graph.put id { graph.node id with content }

end Graph

/-- The tag that a scalar has by its text. A line feed at its end does not count unless there is
nothing else. -/
def plainTag (text : Text) : Tag :=
  let text := if text = ['\n'] then text else withoutLastBreak text
  if isTruthWord text then .bool
  else if isFloat text then .float
  else if isWhole text then .int
  else if text = "<<".toList then .merge
  else if isNullWord text then .null
  else if isStamp text then .moment
  else if text = ['='] then .default
  else if isIndicator text then .unknown
  else .text

def scalarTagOf (text : Text) (isPlain : Bool) : Tag :=
  if isPlain then plainTag text else .text

/-! Documents -/

/-- What is left of the tokens, and what the names in them stand for. -/
structure Reading where
  tokens : List Token
  /-- The nodes that have an anchor. -/
  anchors : List (Text × NodeId)
  /-- What tag handles stand for. -/
  handles : List (Text × Text)
  /-- The nodes read so far. -/
  graph : Graph

abbrev Reader (α : Type) := StateT Reading (Except Fault) α

namespace Reader

def fail {α : Type} (fault : Fault) : Reader α :=
  fun _ => .error fault

/-- Fails at a token that is not expected: with its own fault where the text is broken. -/
def unexpected {α : Type} : Reader α := fun reading =>
  match reading.tokens with
  | .broken fault :: _ => .error fault
  | _ => .error .malformed

def next? : Reader (Option Token) := fun reading =>
  .ok (reading.tokens.head?, reading)

/-- Whether one of the tokens comes next. -/
def isNext (tokens : List Token) : Reader Bool := do
  pure ((← next?).any tokens.contains)

def drop : Reader Unit := fun reading =>
  .ok ((), { reading with tokens := reading.tokens.drop 1 })

/-- Goes on behind a token if it comes next. -/
def accepts (token : Token) : Reader Bool := do
  if ← isNext [token] then
    drop
    pure true
  else pure false

def expect (token : Token) : Reader Unit := do
  if ← accepts token then pure () else unexpected

def add (node : Node) : Reader NodeId := fun reading =>
  let (id, graph) := reading.graph.add node
  .ok (id, { reading with graph })

def fill (id : NodeId) (content : Content) : Reader Unit :=
  modify fun reading => { reading with graph := reading.graph.fill id content }

/-- The node of a scalar that is left out. -/
def missing : Reader NodeId :=
  add ⟨.null, .scalar []⟩

/-- The node that an alias stands for. -/
def aliased (name : Text) : Reader NodeId := do
  match ((← get).anchors.find? (·.1 == name)).map (·.2) with
  | some id => pure id
  | none => fail .malformed

/-- Fails if an anchor is set already; each may be set once. -/
def checkAnchor (name : Option Text) : Reader Unit := do
  match name with
  | none => pure ()
  | some name =>
    if (← get).anchors.any (·.1 == name) then fail .malformed else pure ()

/-- Lets an anchor stand for a node. -/
def setAnchor (name : Option Text) (id : NodeId) : Reader Unit :=
  match name with
  | none => pure ()
  | some name => modify fun reading => { reading with anchors := (name, id) :: reading.anchors }

def tagName (tag : WrittenTag) : Reader Text := do
  match tag.handle? with
  | none => pure tag.rest
  | some handle =>
    match ((← get).handles.find? (·.1 == handle)).map (·.2) with
    | some start => pure (start ++ tag.rest)
    | none => fail .malformed

/-- What stands before the content of a node. -/
structure Properties where
  anchor : Option Text
  tag : Option Text

def anchor? : Reader (Option Text) := do
  match ← next? with
  | some (.anchor name) =>
    drop
    pure (some name)
  | _ => pure none

def tag? : Reader (Option WrittenTag) := do
  match ← next? with
  | some (.tag tag) =>
    drop
    pure (some tag)
  | _ => pure none

/-- The anchor and the tag of a node in either order. -/
def properties : Reader Properties := do
  let before ← anchor?
  let tag ← tag?
  let after ← if before.isNone && tag.isSome then anchor? else pure none
  let name ← tag.mapM tagName
  pure ⟨before.or after, name⟩

def Properties.tagOr (properties : Properties) (otherwise : Tag) : Tag :=
  match properties.tag with
  | none => otherwise
  | some name => if name = primaryHandle then otherwise else .ofName name

def Properties.scalarTag (properties : Properties) (text : Text) (isPlain : Bool) : Tag :=
  match properties.tag with
  | none => scalarTagOf text isPlain
  | some name => if name = primaryHandle then plainTag text else .ofName name

/-- The node that `node` reads, or a missing one if a token of `enders` comes next. -/
def nodeUnless (node : Reader NodeId) (enders : List Token) : Reader NodeId := do
  if ← isNext enders then missing else node

/-- The value of a pair, whose key has been read. -/
def pairValue (node : Reader NodeId) (enders : List Token) : Reader NodeId := do
  if ← accepts .value then nodeUnless node enders else missing

/-- The items of a block sequence up to its end; `fuel` bounds their number. -/
def blockItems (node : Reader NodeId) : (fuel : Nat) → (done : List NodeId) → Reader (List NodeId)
  | 0, _ => unexpected
  | fuel + 1, done => do
    if ← accepts .blockEntry then
      let item ← nodeUnless node [.blockEntry, .blockEnd]
      blockItems node fuel (item :: done)
    else
      expect .blockEnd
      pure done.reverse

/-- The items of a sequence that is not indented further than the key it belongs to. -/
def flatItems (node : Reader NodeId) : (fuel : Nat) → (done : List NodeId) → Reader (List NodeId)
  | 0, _ => unexpected
  | fuel + 1, done => do
    if ← accepts .blockEntry then
      let item ← nodeUnless node [.blockEntry, .key, .value, .blockEnd]
      flatItems node fuel (item :: done)
    else pure done.reverse

/-- The pairs of a block mapping up to its end. -/
def blockPairs (node : Reader NodeId) :
    (fuel : Nat) → (done : List (NodeId × NodeId)) → Reader (List (NodeId × NodeId))
  | 0, _ => unexpected
  | fuel + 1, done => do
    if ← accepts .key then
      let enders : List Token := [.key, .value, .blockEnd]
      let key ← nodeUnless node enders
      let value ← pairValue node enders
      blockPairs node fuel ((key, value) :: done)
    else
      expect .blockEnd
      pure done.reverse

/-- An item of a flow sequence; a pair makes a mapping of its own, which `nested` reads. -/
def flowItem (node : Reader NodeId) (nested : Reader NodeId) : Reader NodeId := do
  if ← accepts .key then
    let id ← add ⟨.mapping, .mapping []⟩
    let key ← nodeUnless nested [.value, .flowEntry, .flowSequenceEnd]
    let value ← pairValue nested [.flowEntry, .flowSequenceEnd]
    fill id (.mapping [(key, value)])
    pure id
  else node

/-- The items of a flow sequence up to its end. -/
def flowItems (item : Reader NodeId) : (fuel : Nat) → (done : List NodeId) → Reader (List NodeId)
  | 0, _ => unexpected
  | fuel + 1, done => do
    if ← accepts .flowSequenceEnd then pure done.reverse
    else
      if !done.isEmpty then expect .flowEntry
      if ← accepts .flowSequenceEnd then pure done.reverse
      else
        let found ← item
        flowItems item fuel (found :: done)

/-- A pair of a flow mapping, of which the value may be left out. -/
def flowPair (node : Reader NodeId) : Reader (NodeId × NodeId) := do
  if ← accepts .key then
    let key ← nodeUnless node [.value, .flowEntry, .flowMappingEnd]
    let value ← pairValue node [.flowEntry, .flowMappingEnd]
    pure (key, value)
  else
    let key ← node
    let value ← missing
    pure (key, value)

/-- The pairs of a flow mapping up to its end. -/
def flowPairs (node : Reader NodeId) :
    (fuel : Nat) → (done : List (NodeId × NodeId)) → Reader (List (NodeId × NodeId))
  | 0, _ => unexpected
  | fuel + 1, done => do
    if ← accepts .flowMappingEnd then pure done.reverse
    else
      if !done.isEmpty then expect .flowEntry
      if ← accepts .flowMappingEnd then pure done.reverse
      else
        let pair ← flowPair node
        flowPairs node fuel (pair :: done)

/-- Which collections a node may be. -/
inductive Position where
  /-- Only one between brackets or braces. -/
  | flow
  | block
  /-- Also a sequence that is not indented further than the key before it. -/
  | blockValue
  deriving DecidableEq, Repr

/-- A sequence with its properties. Its anchor is set before its items are read. -/
def sequenceOf (properties : Properties) (items : Reader (List NodeId)) : Reader NodeId := do
  let id ← add ⟨properties.tagOr .sequence, .sequence []⟩
  setAnchor properties.anchor id
  fill id (.sequence (← items))
  pure id

/-- A mapping with its properties. -/
def mappingOf (properties : Properties) (pairs : Reader (List (NodeId × NodeId))) :
    Reader NodeId := do
  let id ← add ⟨properties.tagOr .mapping, .mapping []⟩
  setAnchor properties.anchor id
  fill id (.mapping (← pairs))
  pure id

/-- A scalar with its properties. -/
def scalarOf (properties : Properties) (text : Text) (isPlain : Bool) : Reader NodeId := do
  let id ← add ⟨properties.scalarTag text isPlain, .scalar text⟩
  setAnchor properties.anchor id
  pure id

/-- What follows the token that opens a collection. -/
def opened {α : Type} (content : Reader α) : Reader α := do
  drop
  content

/-- A node; `depth` bounds how deep nodes are nested in it. -/
def node : (depth : Nat) → Position → Reader NodeId
  | 0, _ => fail .tooDeep
  | depth + 1, position => do
    let fuel := (← get).tokens.length + 1
    match ← next? with
    | some (.alias name) =>
      drop
      aliased name
    | _ =>
      let properties ← properties
      match ← next? with
      | some (.scalar text isPlain) =>
        drop
        checkAnchor properties.anchor
        scalarOf properties text isPlain
      | some .flowSequenceStart =>
        checkAnchor properties.anchor
        let nested := node (depth - 1) .flow
        sequenceOf properties (opened (flowItems (flowItem (node depth .flow) nested) fuel []))
      | some .flowMappingStart =>
        checkAnchor properties.anchor
        mappingOf properties (opened (flowPairs (node depth .flow) fuel []))
      | token =>
        if position = .blockValue && token = some .blockEntry then
          checkAnchor properties.anchor
          sequenceOf properties (flatItems (node depth .block) fuel [])
        else if position != .flow && token = some .blockSequenceStart then
          checkAnchor properties.anchor
          sequenceOf properties (opened (blockItems (node depth .block) fuel []))
        else if position != .flow && token = some .blockMappingStart then
          checkAnchor properties.anchor
          mappingOf properties (opened (blockPairs (node depth .blockValue) fuel []))
        else if properties.anchor.isSome || properties.tag.isSome then
          checkAnchor properties.anchor
          scalarOf properties [] properties.tag.isNone
        else unexpected
  termination_by depth => depth

/-! Directives -/

/-- The directives before a document: at most one version, which has to be the first, and one
meaning for each handle. -/
def directives : (fuel : Nat) → (hasVersion : Bool) → (handles : List (Text × Text)) →
    Reader (List (Text × Text))
  | 0, _, _ => unexpected
  | fuel + 1, hasVersion, handles => do
    match ← next? with
    | some (.directive found) =>
      drop
      match found with
      | .version major =>
        if hasVersion || major != 1 then fail .malformed else directives fuel true handles
      | .handle name start =>
        if handles.any (·.1 == name) then fail .malformed
        else directives fuel hasVersion ((name, start) :: handles)
      | .other => directives fuel hasVersion handles
    | _ => pure handles

/-- What the two handles of the language stand for unless a directive says otherwise. -/
def standardHandles : List (Text × Text) :=
  [(primaryHandle, primaryHandle), (secondaryHandle, tagStart)]

/-- Whether a document with no content ends before the next token. -/
def isContentMissing : Reader Bool := do
  match ← next? with
  | none => pure true
  | some (.directive _) => pure true
  | some token => pure (token = .documentStart || token = .documentEnd)

/-- How deep nodes may be nested. -/
def nestingLimit : Nat := 485

def content : Reader (Option NodeId) := do
  match ← next? with
  | none => pure none
  | some token =>
    if token matches .directive _ || token = .documentStart then
      let handles ← directives ((← get).tokens.length + 1) false []
      expect .documentStart
      modify fun reading => { reading with handles := handles ++ standardHandles }
      if ← isContentMissing then some <$> missing else some <$> node nestingLimit .block
    else some <$> node nestingLimit .block

/-- The only document, after which nothing but its end may follow. -/
def document : Reader (Option NodeId) := do
  let found ← content
  modify fun reading =>
    { reading with tokens := reading.tokens.dropWhile (· = .documentEnd) }
  match ← next? with
  | none => pure found
  | some _ => unexpected

end Reader

/-- A document: its nodes, and the one that holds the others unless there is none. -/
structure Document where
  graph : Graph
  root? : Option NodeId

def Document.ofText (text : Text) : Except Fault Document :=
  (Reader.document.run ⟨tokensOf text, [], Reader.standardHandles, ⟨#[]⟩⟩).map
    fun (root?, reading) => ⟨reading.graph, root?⟩

end ProjectSurvey.Yaml
