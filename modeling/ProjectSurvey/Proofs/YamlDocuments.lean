import ProjectSurvey.Proofs.YamlTokens
import ProjectSurvey.Yaml.Node

/-! The faults of a YAML text that is no document: besides those of its tokens only that its nodes are
nested too deep. -/

namespace ProjectSurvey.Yaml

/-- The faults of a text that is no document. -/
inductive Fault.OfDocument : Fault → Prop
  | ofText {fault : Fault} (told : fault.OfText) : OfDocument fault
  | tooDeep : OfDocument .tooDeep

def Reading.IsSane (reading : Reading) : Prop :=
  ∀ token ∈ reading.tokens, token.IsSane

namespace Reader

/-- Whether a reader keeps the tokens sane and fails, if it does, with a fault of a document. -/
abbrev IsSane {α : Type} (reader : Reader α) : Prop :=
  Keeps Reading.IsSane Fault.OfDocument reader

section Steps

variable {α : Type}

theorem malformed_sane : IsSane (fail .malformed : Reader α) :=
  .fail (.ofText .malformed)

theorem unexpected_sane : IsSane (unexpected : Reader α) := by
  intro reading sane
  rw [unexpected]
  split
  · next fault rest first =>
    have told : Token.IsSane (.broken fault) := sane _ (first ▸ List.mem_cons_self)
    exact ⟨failsOnly_error.mpr (.ofText told), yields_error _⟩
  · exact ⟨failsOnly_error.mpr (.ofText .malformed), yields_error _⟩

theorem next?_sane : next?.IsSane :=
  fun _ sane => ⟨failsOnly_ok _, yields_ok.mpr sane⟩

theorem drop_sane : drop.IsSane :=
  fun _ sane => ⟨failsOnly_ok _, yields_ok.mpr fun token member => sane token (List.mem_of_mem_drop member)⟩

theorem add_sane (node : Node) : (add node).IsSane :=
  fun _ sane => ⟨failsOnly_ok _, yields_ok.mpr sane⟩

theorem fill_sane (id : NodeId) (content : Content) : (fill id content).IsSane :=
  Keeps.modify fun _ sane => sane

theorem missing_sane : missing.IsSane :=
  add_sane _

end Steps

theorem isNext_sane (tokens : List Token) : (isNext tokens).IsSane :=
  next?_sane.bind fun _ => Keeps.pure _

theorem accepts_sane (token : Token) : (accepts token).IsSane := by
  refine (isNext_sane _).bind fun comes => ?_
  split
  · exact drop_sane.bind fun _ => Keeps.pure _
  · exact Keeps.pure _

theorem expect_sane (token : Token) : (expect token).IsSane := by
  refine (accepts_sane token).bind fun accepted => ?_
  split
  · exact Keeps.pure _
  · exact unexpected_sane

theorem aliased_sane (name : Text) : (aliased name).IsSane := by
  refine Keeps.get.bind fun reading => ?_
  split
  · exact Keeps.pure _
  · exact malformed_sane

theorem checkAnchor_sane (name : Option Text) : (checkAnchor name).IsSane := by
  cases name with
  | none => exact Keeps.pure _
  | some name =>
    refine Keeps.get.bind fun reading => ?_
    split
    · exact malformed_sane
    · exact Keeps.pure _

theorem setAnchor_sane (name : Option Text) (id : NodeId) : (setAnchor name id).IsSane := by
  cases name with
  | none => exact Keeps.pure _
  | some name => exact Keeps.modify fun _ sane => sane

theorem tagName_sane (tag : WrittenTag) : (tagName tag).IsSane := by
  rw [tagName]
  split
  · exact Keeps.pure _
  · refine Keeps.get.bind fun reading => ?_
    split
    · exact Keeps.pure _
    · exact malformed_sane

theorem anchor?_sane : anchor?.IsSane := by
  refine next?_sane.bind fun token => ?_
  split
  · exact drop_sane.bind fun _ => Keeps.pure _
  · exact Keeps.pure _

theorem tag?_sane : tag?.IsSane := by
  refine next?_sane.bind fun token => ?_
  split
  · exact drop_sane.bind fun _ => Keeps.pure _
  · exact Keeps.pure _

theorem properties_sane : properties.IsSane := by
  refine anchor?_sane.bind fun before => tag?_sane.bind fun tag => ?_
  have named (after : Option Text) :
      IsSane (do
        let name ← tag.mapM tagName
        pure (⟨before.or after, name⟩ : Properties)) := by
    cases tag with
    | none => exact Keeps.pure _
    | some tag => exact ((tagName_sane tag).map some).bind fun _ => Keeps.pure _
  exact Keeps.ite (anchor?_sane.bind named) ((Keeps.pure none).bind named)

section Collections

variable {node : Reader NodeId} (sane : node.IsSane)

include sane

theorem nodeUnless_sane (enders : List Token) : (nodeUnless node enders).IsSane := by
  refine (isNext_sane enders).bind fun ends => ?_
  split
  · exact missing_sane
  · exact sane

theorem pairValue_sane (enders : List Token) : (pairValue node enders).IsSane := by
  refine (accepts_sane .value).bind fun accepted => ?_
  split
  · exact nodeUnless_sane sane enders
  · exact missing_sane

theorem blockItems_sane (fuel : Nat) (done : List NodeId) : (blockItems node fuel done).IsSane := by
  induction fuel generalizing done with
  | zero => exact unexpected_sane
  | succ fuel ih =>
    refine (accepts_sane .blockEntry).bind fun accepted => ?_
    split
    · exact (nodeUnless_sane sane _).bind fun item => ih _
    · exact (expect_sane .blockEnd).bind fun _ => Keeps.pure _

theorem flatItems_sane (fuel : Nat) (done : List NodeId) : (flatItems node fuel done).IsSane := by
  induction fuel generalizing done with
  | zero => exact unexpected_sane
  | succ fuel ih =>
    refine (accepts_sane .blockEntry).bind fun accepted => ?_
    split
    · exact (nodeUnless_sane sane _).bind fun item => ih _
    · exact Keeps.pure _

theorem blockPairs_sane (fuel : Nat) (done : List (NodeId × NodeId)) : (blockPairs node fuel done).IsSane := by
  induction fuel generalizing done with
  | zero => exact unexpected_sane
  | succ fuel ih =>
    refine (accepts_sane .key).bind fun accepted => ?_
    split
    · exact (nodeUnless_sane sane _).bind fun key => (pairValue_sane sane _).bind fun value => ih _
    · exact (expect_sane .blockEnd).bind fun _ => Keeps.pure _

theorem flowItem_sane {nested : Reader NodeId} (inner : nested.IsSane) : (flowItem node nested).IsSane := by
  refine (accepts_sane .key).bind fun accepted => ?_
  split
  · exact (add_sane _).bind fun id => (nodeUnless_sane inner _).bind fun key =>
      (pairValue_sane inner _).bind fun value => (fill_sane id _).bind fun _ => Keeps.pure _
  · exact sane

theorem flowPair_sane : (flowPair node).IsSane := by
  refine (accepts_sane .key).bind fun accepted => ?_
  split
  · exact (nodeUnless_sane sane _).bind fun key => (pairValue_sane sane _).bind fun value => Keeps.pure _
  · exact sane.bind fun key => missing_sane.bind fun value => Keeps.pure _

end Collections

theorem flowItems_sane {item : Reader NodeId} (sane : item.IsSane) (fuel : Nat) (done : List NodeId) :
    (flowItems item fuel done).IsSane := by
  induction fuel generalizing done with
  | zero => exact unexpected_sane
  | succ fuel ih =>
    have rest : IsSane (do
        if ← accepts .flowSequenceEnd then pure done.reverse
        else
          let found ← item
          flowItems item fuel (found :: done)) := by
      refine (accepts_sane .flowSequenceEnd).bind fun ended => ?_
      split
      · exact Keeps.pure _
      · exact sane.bind fun found => ih _
    refine (accepts_sane .flowSequenceEnd).bind fun ended => ?_
    split
    · exact Keeps.pure _
    split
    · exact (expect_sane .flowEntry).bind fun _ => rest
    · exact rest

theorem flowPairs_sane {node : Reader NodeId} (sane : node.IsSane) (fuel : Nat)
    (done : List (NodeId × NodeId)) : (flowPairs node fuel done).IsSane := by
  induction fuel generalizing done with
  | zero => exact unexpected_sane
  | succ fuel ih =>
    have rest : IsSane (do
        if ← accepts .flowMappingEnd then pure done.reverse
        else
          let pair ← flowPair node
          flowPairs node fuel (pair :: done)) := by
      refine (accepts_sane .flowMappingEnd).bind fun ended => ?_
      split
      · exact Keeps.pure _
      · exact (flowPair_sane sane).bind fun pair => ih _
    refine (accepts_sane .flowMappingEnd).bind fun ended => ?_
    split
    · exact Keeps.pure _
    split
    · exact (expect_sane .flowEntry).bind fun _ => rest
    · exact rest

theorem sequenceOf_sane (properties : Properties) {items : Reader (List NodeId)} (sane : items.IsSane) :
    (sequenceOf properties items).IsSane :=
  (add_sane _).bind fun id => (setAnchor_sane _ id).bind fun _ => sane.bind fun _ =>
    (fill_sane id _).bind fun _ => Keeps.pure _

theorem mappingOf_sane (properties : Properties) {pairs : Reader (List (NodeId × NodeId))}
    (sane : pairs.IsSane) : (mappingOf properties pairs).IsSane :=
  (add_sane _).bind fun id => (setAnchor_sane _ id).bind fun _ => sane.bind fun _ =>
    (fill_sane id _).bind fun _ => Keeps.pure _

theorem scalarOf_sane (properties : Properties) (text : Text) (isPlain : Bool) :
    (scalarOf properties text isPlain).IsSane :=
  (add_sane _).bind fun id => (setAnchor_sane _ id).bind fun _ => Keeps.pure _

theorem opened_sane {α : Type} {content : Reader α} (sane : content.IsSane) : (opened content).IsSane :=
  drop_sane.bind fun _ => sane

theorem node_sane (depth : Nat) (position : Position) : (node depth position).IsSane := by
  induction depth using Nat.strongRecOn generalizing position with
  | _ depth ih =>
    cases depth with
    | zero =>
      rw [node]
      exact .fail .tooDeep
    | succ depth =>
      have below := ih depth (Nat.lt_succ_self depth)
      have nested := ih (depth - 1) (by omega) .flow
      rw [node]
      refine Keeps.get.bind fun reading => next?_sane.bind fun first => ?_
      split
      · exact drop_sane.bind fun _ => aliased_sane _
      refine properties_sane.bind fun properties => next?_sane.bind fun token => ?_
      have checked {reader : Reader NodeId} (sane : reader.IsSane) :
          IsSane (do checkAnchor properties.anchor; reader) :=
        (checkAnchor_sane _).bind fun _ => sane
      split
      · exact drop_sane.bind fun _ => checked (scalarOf_sane _ _ _)
      · exact checked (sequenceOf_sane _ (opened_sane (flowItems_sane (flowItem_sane (below .flow) nested) _ _)))
      · exact checked (mappingOf_sane _ (opened_sane (flowPairs_sane (below .flow) _ _)))
      split
      · exact checked (sequenceOf_sane _ (flatItems_sane (below .block) _ _))
      split
      · exact checked (sequenceOf_sane _ (opened_sane (blockItems_sane (below .block) _ _)))
      split
      · exact checked (mappingOf_sane _ (opened_sane (blockPairs_sane (below .blockValue) _ _)))
      split
      · exact checked (scalarOf_sane _ _ _)
      · exact unexpected_sane

theorem directives_sane (fuel : Nat) (hasVersion : Bool) (handles : List (Text × Text)) :
    (directives fuel hasVersion handles).IsSane := by
  induction fuel generalizing hasVersion handles with
  | zero => exact unexpected_sane
  | succ fuel ih =>
    refine next?_sane.bind fun token => ?_
    split
    · refine drop_sane.bind fun _ => ?_
      split
      · split
        · exact malformed_sane
        · exact ih _ _
      · split
        · exact malformed_sane
        · exact ih _ _
      · exact ih _ _
    · exact Keeps.pure _

theorem isContentMissing_sane : isContentMissing.IsSane := by
  refine next?_sane.bind fun token => ?_
  split <;> exact Keeps.pure _

theorem content_sane : content.IsSane := by
  have whole : IsSane (some <$> node nestingLimit .block) := (node_sane _ _).map _
  refine next?_sane.bind fun token => ?_
  cases token with
  | none => exact Keeps.pure _
  | some token =>
    refine Keeps.ite (Keeps.get.bind fun reading => (directives_sane _ _ _).bind fun handles => ?_) whole
    refine (expect_sane .documentStart).bind fun _ => Keeps.bind (Keeps.modify fun _ sane => sane) fun _ => ?_
    exact isContentMissing_sane.bind fun missing => Keeps.ite (missing_sane.map _) whole

theorem document_sane : document.IsSane := by
  refine content_sane.bind fun found =>
    Keeps.bind (Keeps.modify fun _ sane token member => sane token ((List.dropWhile_suffix _).subset member)) fun _ =>
    next?_sane.bind fun token => ?_
  split
  · exact Keeps.pure _
  · exact unexpected_sane

end Reader

/-- Reading a document fails, if it does, because the text breaks a rule of the grammar, an escape names a
code point beyond the last one, or nodes are nested too deep. -/
theorem Document.ofText_fails (text : Text) : FailsOnly Fault.OfDocument (Document.ofText text) := by
  intro fault failed
  have read := (Reader.document_sane ⟨tokensOf text, [], Reader.standardHandles, ⟨#[]⟩⟩ (tokensOf_sane text)).1
  cases run : Reader.document ⟨tokensOf text, [], Reader.standardHandles, ⟨#[]⟩⟩ with
  | ok result =>
    rw [Document.ofText, StateT.run, run] at failed
    cases failed
  | error fault =>
    rw [Document.ofText, StateT.run, run] at failed
    cases failed
    exact read fault run

end ProjectSurvey.Yaml
