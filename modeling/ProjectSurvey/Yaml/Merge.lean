import ProjectSurvey.Yaml.Node

/-! Merging: the value of a merge key is a mapping, or a sequence of mappings, whose pairs are put in
front of those of the mapping with the key. -/

namespace ProjectSurvey.Yaml

namespace Graph

def pairs? (graph : Graph) (id : NodeId) : Option (List (NodeId × NodeId)) :=
  match (graph.node id).content with
  | .mapping pairs => some pairs
  | _ => none

def isMergeKey (graph : Graph) (id : NodeId) : Bool :=
  (graph.node id).tag = .merge

def mergeCount (graph : Graph) : Nat :=
  graph.nodes.foldl
    (fun count node =>
      match node.content with
      | .mapping pairs => count + (pairs.filter fun pair => graph.isMergeKey pair.1).length
      | _ => count)
    0

/-- The graph in which the given keys are texts where they were marks of a default value. -/
def nameDefaults (graph : Graph) (keys : List NodeId) : Graph :=
  keys.foldl
    (fun graph id =>
      let node := graph.node id
      if node.tag = .default then graph.put id { node with tag := .text } else graph)
    graph

/-- The pairs of each of several mappings after `settle` has merged what is in them, the last
mapping's first. -/
def mergedItems (settle : NodeId → Graph → Except Fault Graph) (graph : Graph)
    (done : List (NodeId × NodeId)) : List NodeId → Except Fault (List (NodeId × NodeId) × Graph)
  | [] => .ok (done, graph)
  | id :: others =>
    if (graph.pairs? id).isNone then .error .malformed
    else do
      let graph ← settle id graph
      mergedItems settle graph (((graph.pairs? id).getD []) ++ done) others

/-- The pairs that the value of a merge key stands for. -/
def mergedPairs (settle : NodeId → Graph → Except Fault Graph) (graph : Graph) (id : NodeId) :
    Except Fault (List (NodeId × NodeId) × Graph) :=
  match (graph.node id).content with
  | .mapping _ => mergedItems settle graph [] [id]
  | .sequence items => mergedItems settle graph [] items
  | .scalar _ => .error .malformed

/-- The graph after the merge keys of a mapping, and of the mappings merged into it, have been
followed. A merge key is taken away before it is followed, so that `fuel` need only be greater than
the number of merge keys. -/
def merged : (fuel : Nat) → NodeId → Graph → Except Fault Graph
  | 0, _, _ => .error .tooDeep
  | fuel + 1, id, graph => do
    let pairs := (graph.pairs? id).getD []
    match pairs.span fun pair => !graph.isMergeKey pair.1 with
    | (_, []) => .ok (graph.nameDefaults (pairs.map (·.1)))
    | (before, merge :: after) =>
      let graph := graph.fill id (.mapping (before ++ after))
      let (found, graph) ← mergedPairs (merged fuel) graph merge.2
      let graph ← merged fuel id graph
      .ok (graph.fill id (.mapping (found ++ (graph.pairs? id).getD [])))

end Graph

end ProjectSurvey.Yaml
