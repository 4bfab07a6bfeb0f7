import ProjectSurvey.Proofs.FaultKinds
import ProjectSurvey.Yaml.Literal

/-! The faults of a document whose nodes have no values, and of values that cannot be shown. A tag that the
text of a scalar does not fit is told by the very tag and text that stand in the document: merging moves
pairs about and changes neither. -/

namespace ProjectSurvey.Yaml

/-- Whether a node may have become another one while mappings were merged: only the pairs of a mapping
change, and the mark of a default value becomes a text. -/
structure Node.BecomesBy (node other : Node) : Prop where
  tag : other.tag = node.tag ∨ other.tag = .text
  scalar : ∀ text, other.content = .scalar text → node.content = .scalar text
  mapping : ∀ pairs, other.content = .mapping pairs → ∃ pairs, node.content = .mapping pairs

theorem Node.BecomesBy.refl (node : Node) : node.BecomesBy node :=
  ⟨.inl rfl, fun _ same => same, fun pairs same => ⟨pairs, same⟩⟩

namespace Graph

/-- Whether each node of a graph may have become that of another. -/
def BecomesBy (graph other : Graph) : Prop :=
  ∀ id, (graph.node id).BecomesBy (other.node id)

variable {base graph : Graph}

theorem node_put (graph : Graph) (id : NodeId) (node : Node) (other : NodeId) :
    (graph.put id node).node other = node ∨ (graph.put id node).node other = graph.node other := by
  simp only [put, Graph.node, Array.getElem?_setIfInBounds]
  split
  · split
    · exact .inl rfl
    · next same outside =>
      rw [← same, Array.getElem?_eq_none (Nat.le_of_not_lt outside)]
      exact .inr rfl
  · exact .inr rfl

theorem node_put_of_ne {graph : Graph} {id other : NodeId} {node : Node} (different : other ≠ id) :
    (graph.put id node).node other = graph.node other := by
  simp only [put, Graph.node, Array.getElem?_setIfInBounds, Ne.symm different, if_false]

theorem BecomesBy.put (becomes : base.BecomesBy graph) {id : NodeId} {node : Node}
    (fits : (base.node id).BecomesBy node) : base.BecomesBy (graph.put id node) := by
  intro other
  by_cases same : other = id
  · rcases node_put graph id node other with new | old
    · rw [new, same]
      exact fits
    · rw [old]
      exact becomes other
  · rw [node_put_of_ne same]
    exact becomes other

theorem BecomesBy.fill (becomes : base.BecomesBy graph) {id : NodeId}
    (stands : ∃ pairs, (base.node id).content = .mapping pairs) (pairs : List (NodeId × NodeId)) :
    base.BecomesBy (graph.fill id (.mapping pairs)) := by
  apply becomes.put
  refine ⟨(becomes id).tag, ?_, fun _ _ => stands⟩
  intro text same
  cases same

theorem BecomesBy.pairs? (becomes : base.BecomesBy graph) {id : NodeId} {pairs : List (NodeId × NodeId)}
    (found : graph.pairs? id = some pairs) : ∃ pairs, (base.node id).content = .mapping pairs := by
  rw [Graph.pairs?] at found
  split at found
  · next content => exact (becomes id).mapping _ content
  · cases found

theorem BecomesBy.nameDefaults (becomes : base.BecomesBy graph) (keys : List NodeId) :
    base.BecomesBy (graph.nameDefaults keys) := by
  induction keys generalizing graph with
  | nil => exact becomes
  | cons id keys ih =>
    rw [Graph.nameDefaults, List.foldl_cons, ← Graph.nameDefaults]
    apply ih
    dsimp only
    split
    · exact becomes.put ⟨.inr rfl, (becomes id).scalar, (becomes id).mapping⟩
    · exact becomes

end Graph

/-- The faults of a document whose nodes are those of a graph. -/
inductive Fault.OfNodes (graph : Graph) : Fault → Prop
  | malformed : OfNodes graph .malformed
  /-- A mapping stands for the text of its default value, and that again for that of its own without end. -/
  | circular : OfNodes graph .tooDeep
  | stampNotText {id : NodeId} {pairs : List (NodeId × NodeId)} (tag : (graph.node id).tag = .moment)
    (content : (graph.node id).content = .mapping pairs) : OfNodes graph .stampNotText
  /-- The text of a scalar does not fit a tag. -/
  | scalar {id other : NodeId} {text : Text} {fault : Fault} (tag : (graph.node id).tag.isScalar = true)
    (content : (graph.node other).content = .scalar text)
    (refused : scalarValue id (graph.node id).tag text = .error fault) : OfNodes graph fault

namespace Graph

section Merging

variable {base : Graph} {settle : NodeId → Graph → Except Fault Graph}
  (settles : ∀ id graph, base.BecomesBy graph →
    FailsOnly (Fault.OfNodes base) (settle id graph) ∧ Yields base.BecomesBy (settle id graph))

include settles

theorem mergedItems_ends {graph : Graph} (becomes : base.BecomesBy graph) (done : List (NodeId × NodeId))
    (items : List NodeId) : FailsOnly (Fault.OfNodes base) (mergedItems settle graph done items) ∧
      Yields (fun result => base.BecomesBy result.2) (mergedItems settle graph done items) := by
  induction items generalizing graph done with
  | nil => exact ⟨failsOnly_ok _, yields_ok.mpr becomes⟩
  | cons id others ih =>
    rw [mergedItems]
    split
    · exact ⟨failsOnly_error.mpr .malformed, yields_error _⟩
    · obtain ⟨fails, yields⟩ := settles id graph becomes
      constructor
      · exact failsOnly_bind.mpr ⟨fails, fun after given => (ih (yields after given) _).1⟩
      · exact yields.bind fun after kept => (ih kept _).2

theorem mergedPairs_ends {graph : Graph} (becomes : base.BecomesBy graph) (id : NodeId) :
    FailsOnly (Fault.OfNodes base) (mergedPairs settle graph id) ∧
      Yields (fun result => base.BecomesBy result.2) (mergedPairs settle graph id) := by
  rw [mergedPairs]
  split
  · exact mergedItems_ends settles becomes _ _
  · exact mergedItems_ends settles becomes _ _
  · exact ⟨failsOnly_error.mpr .malformed, yields_error _⟩

end Merging

theorem merged_ends (base : Graph) (fuel : Nat) (id : NodeId) (graph : Graph) (becomes : base.BecomesBy graph) :
    FailsOnly (Fault.OfNodes base) (merged fuel id graph) ∧ Yields base.BecomesBy (merged fuel id graph) := by
  induction fuel generalizing id graph with
  | zero => exact ⟨failsOnly_error.mpr .circular, yields_error _⟩
  | succ fuel ih =>
    rw [merged]
    split
    · exact ⟨failsOnly_ok _, yields_ok.mpr (becomes.nameDefaults _)⟩
    · next before merge after parted =>
      have stands : ∃ pairs, (base.node id).content = .mapping pairs := by
        cases found : graph.pairs? id with
        | none =>
          rw [found] at parted
          cases parted
        | some pairs => exact becomes.pairs? found
      have cut := becomes.fill stands (before ++ after)
      obtain ⟨pairFails, pairYields⟩ := mergedPairs_ends ih cut merge.2
      constructor
      · refine failsOnly_bind.mpr ⟨pairFails, fun ⟨found, moved⟩ given => ?_⟩
        have kept := pairYields _ given
        exact failsOnly_bind.mpr ⟨(ih id moved kept).1, fun _ _ => failsOnly_ok _⟩
      · refine pairYields.bind fun ⟨found, moved⟩ kept => ?_
        exact (ih id moved kept).2.bind fun _ merged => yields_ok.mpr (merged.fill stands _)

end Graph

theorem Graph.textOf_ends {base graph : Graph} (becomes : base.BecomesBy graph) (depth : Nat) (id : NodeId) :
    FailsOnly (Fault.OfNodes base) (graph.textOf depth id) ∧
      Yields (fun text => ∃ other, (base.node other).content = .scalar text) (graph.textOf depth id) := by
  induction depth generalizing id with
  | zero => exact ⟨failsOnly_error.mpr .circular, yields_error _⟩
  | succ depth ih =>
    rw [textOf]
    split
    · next text content => exact ⟨failsOnly_ok _, yields_ok.mpr ⟨id, (becomes id).scalar _ content⟩⟩
    · exact ⟨failsOnly_error.mpr .malformed, yields_error _⟩
    · split
      · exact ih _
      · exact ⟨failsOnly_error.mpr .malformed, yields_error _⟩

theorem Graph.scalarAt_fails {base graph : Graph} (becomes : base.BecomesBy graph) (id : NodeId) :
    FailsOnly (Fault.OfNodes base) (graph.scalarAt id) := by
  rw [scalarAt]
  split
  · exact failsOnly_error.mpr .malformed
  next scalar =>
  obtain ⟨fails, yields⟩ := Graph.textOf_ends becomes (graph.nodes.size + 1) id
  refine failsOnly_bind.mpr ⟨fails, fun text given => ?_⟩
  obtain ⟨other, content⟩ := yields text given
  rcases (becomes id).tag with kept | named
  · rw [kept] at scalar ⊢
    split
    · next pairs moment mapping =>
      obtain ⟨pairs, mapping⟩ := (becomes id).mapping _ mapping
      exact failsOnly_error.mpr (.stampNotText moment mapping)
    · intro fault refused
      simp only [Bool.not_eq_true', Bool.not_eq_false] at scalar
      exact .scalar scalar content refused
  · rw [named]
    exact failsOnly_ok _

/-- Whether a building still has the nodes of a document, but for what has been merged. -/
def Building.StandsOn (base : Graph) (building : Building) : Prop :=
  base.BecomesBy building.graph

namespace Builder

variable {base : Graph}

abbrev IsSane {α : Type} (base : Graph) (builder : Builder α) : Prop :=
  Keeps (Building.StandsOn base) (Fault.OfNodes base) builder

theorem malformed_sane {α : Type} : IsSane base (fail .malformed : Builder α) :=
  .fail .malformed

theorem value_sane (id : NodeId) : IsSane base (value id) := by
  apply Keeps.bind_get
  intro building stands
  split
  · exact .pure _
  split
  · exact (Keeps.set (by exact stands)).bind fun _ => .pure _
  · split
    · next fault failed => exact .fail (Graph.scalarAt_fails stands id fault failed)
    · exact (Keeps.set (by exact stands)).bind fun _ => .pure _

theorem valuesOf_sane (ids : List NodeId) : IsSane base (valuesOf ids) := by
  induction ids with
  | nil => exact .pure _
  | cons id others ih => exact (value_sane id).bind fun _ => ih.bind fun _ => .pure _

theorem fieldsOnto_sane (done : List (Value × Value)) (pairs : List (NodeId × NodeId)) :
    IsSane base (fieldsOnto done pairs) := by
  induction pairs generalizing done with
  | nil => exact .pure _
  | cons pair others ih =>
    obtain ⟨key, item⟩ := pair
    exact (value_sane key).bind fun _ => .ite ((value_sane item).bind fun _ => ih _) malformed_sane

theorem fields_sane (id : NodeId) : IsSane base (fields id) := by
  apply Keeps.bind_get
  intro building stands
  refine .ite malformed_sane ?_
  obtain ⟨fails, yields⟩ := Graph.merged_ends base (building.graph.mergeCount + 1) id building.graph stands
  split
  · next fault failed => exact .fail (fails fault failed)
  · next graph given =>
    exact (Keeps.modify fun _ _ => by exact yields graph given).bind fun _ => fieldsOnto_sane _ _

theorem singlePairs_sane (ids : List NodeId) : IsSane base (singlePairs ids) := by
  induction ids with
  | nil => exact .pure _
  | cons id others ih =>
    refine Keeps.get.bind fun building => ?_
    split
    · exact (value_sane _).bind fun _ => (value_sane _).bind fun _ => ih.bind fun _ => .pure _
    · exact malformed_sane

theorem items_sane (id : NodeId) : IsSane base (items id) := by
  refine Keeps.get.bind fun building => ?_
  split
  · exact .pure _
  · exact malformed_sane

theorem content_sane (id : NodeId) : IsSane base (content id) := by
  refine Keeps.get.bind fun building => ?_
  split
  · exact (fields_sane id).map _
  · exact (fields_sane id).map _
  · exact ((items_sane id).bind singlePairs_sane).map _
  · exact ((items_sane id).bind valuesOf_sane).map _

theorem fillAll_sane (ids : List NodeId) : IsSane base (fillAll ids) := by
  induction ids with
  | nil => exact .pure _
  | cons id others ih =>
    exact (content_sane id).bind fun _ => (Keeps.modify fun _ stands => by exact stands).bind fun _ => ih

theorem settle_sane (rounds : Nat) : IsSane base (settle rounds) := by
  induction rounds with
  | zero => exact .pure _
  | succ rounds ih =>
    refine Keeps.get.bind fun building => .ite (.pure _) ?_
    exact (Keeps.modify fun _ stands => by exact stands).bind fun _ => (fillAll_sane _).bind fun _ => ih

theorem complete_sane (id : NodeId) : IsSane base (complete id) :=
  (value_sane id).bind fun _ => Keeps.get.bind fun _ => (settle_sane _).bind fun _ => .pure _

end Builder

/-- A document has no data only if a tag does not fit its node or the nodes go around in a circle. -/
theorem Data.ofDocument_fails (document : Document) :
    FailsOnly (Fault.OfNodes document.graph) (Data.ofDocument document) := by
  rw [ofDocument]
  split
  · exact failsOnly_ok _
  · next root _ =>
    refine failsOnly_bind.mpr ⟨(Builder.complete_sane root _ ?_).1, fun _ _ => failsOnly_ok _⟩
    exact fun id => .refl _

/-- The fault of a value that cannot be shown: a whole number has too many digits. -/
inductive Fault.OfShowing : Fault → Prop
  | tooManyDigits {count : Nat} (many : wholeDigitLimit < count) : OfShowing (.tooManyDigits count)

theorem wholeText_fails (value : Int) : FailsOnly Fault.OfShowing (wholeText value) := by
  rw [wholeText]
  split
  · next many => exact failsOnly_error.mpr (.tooManyDigits many)
  · exact failsOnly_ok _

theorem Value.literal_fails {enter : NodeId → Except Fault Text}
    (enters : ∀ id, FailsOnly Fault.OfShowing (enter id)) (value : Value) :
    FailsOnly Fault.OfShowing (value.literal enter) := by
  induction value with
  | int value => exact wholeText_fails value
  | pair first second ihFirst ihSecond =>
    exact failsOnly_bind.mpr ⟨ihFirst, fun _ _ => failsOnly_bind.mpr ⟨ihSecond, fun _ _ => failsOnly_ok _⟩⟩
  | collection id => exact enters id
  | _ => exact failsOnly_ok _

theorem Collection.literal_fails {literal : Value → Except Fault Text}
    (shows : ∀ value, FailsOnly Fault.OfShowing (literal value)) (collection : Collection) :
    FailsOnly Fault.OfShowing (collection.literal literal) := by
  cases collection with
  | list items =>
    exact failsOnly_bind.mpr ⟨failsOnly_mapM shows _, fun _ _ => failsOnly_ok _⟩
  | mapping pairs =>
    refine failsOnly_bind.mpr ⟨failsOnly_mapM (fun ⟨key, value⟩ => ?_) _, fun _ _ => failsOnly_ok _⟩
    exact failsOnly_bind.mpr ⟨shows key, fun _ _ => failsOnly_bind.mpr ⟨shows value, fun _ _ => failsOnly_ok _⟩⟩
  | set items =>
    cases items with
    | nil => exact failsOnly_ok _
    | cons item items =>
      exact failsOnly_bind.mpr ⟨failsOnly_mapM shows _, fun _ _ => failsOnly_ok _⟩

namespace Heap

theorem literal_fails (heap : Heap) (depth : Nat) (around : List NodeId) (id : NodeId) :
    FailsOnly Fault.OfShowing (heap.literal depth around id) := by
  induction depth generalizing around id with
  | zero => exact failsOnly_ok _
  | succ depth ih =>
    rw [literal]
    split
    · exact failsOnly_ok _
    · exact Collection.literal_fails (Value.literal_fails (ih _)) _

theorem toText_fails (heap : Heap) (value : Value) : FailsOnly Fault.OfShowing (heap.toText value) := by
  rw [toText.eq_def]
  split
  · exact failsOnly_ok _
  · exact failsOnly_ok _
  · exact failsOnly_ok _
  · exact Value.literal_fails (heap.literal_fails _ _) _

end Heap

end ProjectSurvey.Yaml
