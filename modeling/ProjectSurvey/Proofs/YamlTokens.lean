import ProjectSurvey.Proofs.FaultKinds
import ProjectSurvey.Yaml.Token

/-! The faults that break off the tokens of a YAML text: it breaks a rule, or an escape in it names no code
point. -/

namespace ProjectSurvey.Yaml

/-- The faults of a text that cannot be cut into tokens. -/
inductive Fault.OfText : Fault → Prop
  | malformed : OfText .malformed
  | codePoint {number : Nat} (beyond : codePointLimit < number) : OfText (.codePoint number)

@[simp] theorem Fault.ofText_malformed : OfText .malformed := .malformed

namespace Cursor
@[simp] theorem endLine_fails (cursor : Cursor) : FailsOnly Fault.OfText cursor.endLine := by
  simp [endLine]

@[simp] theorem hexadecimal_fails (cursor : Cursor) (digits : Nat) :
    FailsOnly Fault.OfText (cursor.hexadecimal digits) := by
  simp only [hexadecimal]
  split
  · simp
  · split <;> simp
end Cursor

@[simp] theorem word_fails (cursor : Cursor) : FailsOnly Fault.OfText (word cursor) := by
  simp [word]

@[simp] theorem anchorName_fails (cursor : Cursor) : FailsOnly Fault.OfText (anchorName cursor) := by
  simp [anchorName]

@[simp] theorem escapedBytes_fails (fuel : Nat) (done : List UInt8) (cursor : Cursor) :
    FailsOnly Fault.OfText (escapedBytes fuel done cursor) := by
  induction fuel generalizing done cursor with
  | zero => simp [escapedBytes]
  | succ fuel ih => simp [escapedBytes, ih]

@[simp] theorem tagCharsOnto_fails (fuel : Nat) (done : Text) (cursor : Cursor) :
    FailsOnly Fault.OfText (tagCharsOnto fuel done cursor) := by
  induction fuel generalizing done cursor with
  | zero => simp [tagCharsOnto]
  | succ fuel ih =>
    simp [tagCharsOnto, ih]
    intro _ bytes after _
    cases Utf8.decode bytes <;> simp [ih]

@[simp] theorem tagChars_fails (cursor : Cursor) : FailsOnly Fault.OfText (tagChars cursor) := by
  simp [tagChars]

@[simp] theorem tagHandle_fails (cursor : Cursor) : FailsOnly Fault.OfText (tagHandle cursor) := by
  simp [tagHandle]

@[simp] theorem tagAt_fails (cursor : Cursor) : FailsOnly Fault.OfText (tagAt cursor) := by
  simp [tagAt]

@[simp] theorem writtenTag_fails (cursor : Cursor) : FailsOnly Fault.OfText (writtenTag cursor) := by
  simp [writtenTag]

@[simp] theorem versionNumber_fails (cursor : Cursor) : FailsOnly Fault.OfText (versionNumber cursor) := by
  simp [versionNumber]

@[simp] theorem versionDirective_fails (cursor : Cursor) : FailsOnly Fault.OfText (versionDirective cursor) := by
  simp [versionDirective]

@[simp] theorem handleDirective_fails (cursor : Cursor) : FailsOnly Fault.OfText (handleDirective cursor) := by
  simp [handleDirective]

@[simp] theorem directive_fails (cursor : Cursor) : FailsOnly Fault.OfText (directive cursor) := by
  simp [directive]

@[simp] theorem quotedBreaks_fails (fuel : Nat) (cursor : Cursor) (done : Text) :
    FailsOnly Fault.OfText (quotedBreaks fuel cursor done) := by
  induction fuel generalizing cursor done with
  | zero => simp [quotedBreaks]
  | succ fuel ih => simp [quotedBreaks, ih]

@[simp] theorem quotedGap_fails (cursor : Cursor) : FailsOnly Fault.OfText (quotedGap cursor) := by
  simp [quotedGap]

@[simp] theorem escapeSequence_fails (cursor : Cursor) : FailsOnly Fault.OfText (escapeSequence cursor) := by
  simp only [escapeSequence]
  split
  · simp
  · simp only [failsOnly_bind, failsOnly_ite, failsOnly_error, failsOnly_ok, Cursor.hexadecimal_fails]
    exact ⟨trivial, fun number _ => ⟨.codePoint, fun _ => trivial⟩⟩
  · simp

@[simp] theorem quotedOnto_fails (quote : Char) (fuel : Nat) (done : Text) (cursor : Cursor) :
    FailsOnly Fault.OfText (quotedOnto quote fuel done cursor) := by
  induction fuel generalizing done cursor with
  | zero => simp [quotedOnto]
  | succ fuel ih => simp [quotedOnto, ih]

@[simp] theorem quotedScalar_fails (cursor : Cursor) : FailsOnly Fault.OfText (quotedScalar cursor) := by
  simp [quotedScalar]

@[simp] theorem blockHeader_fails (cursor : Cursor) : FailsOnly Fault.OfText (blockHeader cursor) := by
  simp [blockHeader]

@[simp] theorem blockScalar_fails (margin : Nat) (cursor : Cursor) :
    FailsOnly Fault.OfText (blockScalar margin cursor) := by
  simp [blockScalar]

namespace Scan

variable (scan : Scan)

@[simp] theorem dropKey_fails : FailsOnly Fault.OfText scan.dropKey := by
  simp only [dropKey]
  split <;> simp

@[simp] theorem saveKey_fails : FailsOnly Fault.OfText scan.saveKey := by
  simp [saveKey]

@[simp] theorem dropStaleKeys_fails : FailsOnly Fault.OfText scan.dropStaleKeys := by
  simp [dropStaleKeys]

@[simp] theorem openBlock_fails (token : Token) : FailsOnly Fault.OfText (scan.openBlock token) := by
  simp only [openBlock]
  split
  · simp
  · split
    · simp
    · split <;> simp

@[simp] theorem valueToken_fails : FailsOnly Fault.OfText scan.valueToken := by
  simp only [valueToken]
  split <;> simp

@[simp] theorem token_fails : FailsOnly Fault.OfText scan.token := by
  simp [token, directiveToken, document, openFlow, closeFlow, flowEntry, blockEntry, keyToken, inKey,
    blockScalarToken, plainToken]

@[simp] theorem toToken_fails : FailsOnly Fault.OfText scan.toToken := by
  simp [toToken]

end Scan

/-- Whether a token, if it marks the place where a text breaks off, says why. -/
def Token.IsSane : Token → Prop
  | .broken fault => fault.OfText
  | _ => True

/-- Whether the tokens so far are sane. -/
def Scan.IsSane (scan : Scan) : Prop :=
  ∀ token ∈ scan.tokens, token.IsSane

namespace Scan

variable {scan : Scan}

theorem push_sane (sane : scan.IsSane) {token : Token} (fits : token.IsSane) : (scan.push token).IsSane :=
  List.forall_mem_cons.mpr ⟨fits, sane⟩

theorem insertAt_sane (sane : scan.IsSane) (number : Nat) {token : Token} (fits : token.IsSane) :
    (scan.insertAt number token).IsSane := by
  intro other member
  simp only [insertAt, List.mem_append, List.mem_cons] at member
  rcases member with before | rfl | after
  · exact sane other (List.mem_of_mem_take before)
  · exact fits
  · exact sane other (List.mem_of_mem_drop after)

theorem unwind_sane (sane : scan.IsSane) (closes : Nat → Bool) : (scan.unwind closes).IsSane := by
  rw [unwind]
  split
  · exact sane
  · refine List.forall_mem_append.mpr ⟨?_, sane⟩
    intro token member
    obtain ⟨-, -, rfl⟩ := List.mem_map.mp member
    exact trivial

theorem dropKey_sane (sane : scan.IsSane) : Yields IsSane scan.dropKey := by
  rw [dropKey]
  split
  · split
    · exact yields_error _
    · exact yields_ok.mpr sane
  · exact yields_ok.mpr sane

theorem saveKey_sane (sane : scan.IsSane) : Yields IsSane scan.saveKey := by
  rw [saveKey]
  split
  · exact (dropKey_sane sane).bind fun _ dropped => yields_ok.mpr dropped
  · exact yields_ok.mpr sane

theorem skipBlank_sane (sane : scan.IsSane) (fuel : Nat) : (scan.skipBlank fuel).IsSane := by
  induction fuel generalizing scan with
  | zero => exact sane
  | succ fuel ih =>
    rw [skipBlank]
    split
    all_goals
      split
      · exact ih sane
      · exact sane

theorem indentTo_sane (sane : scan.IsSane) {column : Nat} {opened : Scan}
    (opens : scan.indentTo column = some opened) : opened.IsSane := by
  rw [indentTo, Option.ite_none_right_eq_some, Option.some.injEq] at opens
  obtain ⟨-, rfl⟩ := opens
  exact sane

theorem openBlock_sane (sane : scan.IsSane) {token : Token} (fits : token.IsSane) :
    Yields IsSane (scan.openBlock token) := by
  rw [openBlock]
  split
  · exact yields_ok.mpr sane
  split
  · exact yields_error _
  split
  · next opened opens => exact yields_ok.mpr (push_sane (indentTo_sane sane opens) fits)
  · exact yields_ok.mpr sane

theorem valueToken_sane (sane : scan.IsSane) : Yields IsSane scan.valueToken := by
  have key : Token.IsSane .key := trivial
  have start : Token.IsSane .blockMappingStart := trivial
  rw [valueToken]
  split
  · next first outer _ =>
    have keyed : ({ scan with keys := none :: outer }.insertAt first.number .key).IsSane :=
      insertAt_sane sane first.number key
    dsimp only
    split
    · exact yields_ok.mpr (push_sane keyed trivial)
    split
    · next opened opens =>
      have shut := insertAt_sane (indentTo_sane keyed opens) first.number start
      exact yields_ok.mpr (push_sane shut trivial)
    · exact yields_ok.mpr (push_sane keyed trivial)
  · exact (openBlock_sane sane start).bind fun _ opened => yields_ok.mpr (push_sane opened trivial)

theorem document_sane (sane : scan.IsSane) {token : Token} (fits : token.IsSane) :
    Yields IsSane (scan.document token) :=
  (dropKey_sane (unwind_sane sane _)).bind fun _ dropped => yields_ok.mpr (push_sane dropped fits)

theorem directiveToken_sane (sane : scan.IsSane) : Yields IsSane scan.directiveToken :=
  (dropKey_sane (unwind_sane sane _)).bind fun _ dropped =>
    (yields_any _).bind fun ⟨_, _⟩ _ => yields_ok.mpr (push_sane dropped trivial)

theorem openFlow_sane (sane : scan.IsSane) {token : Token} (fits : token.IsSane) :
    Yields IsSane (scan.openFlow token) :=
  (saveKey_sane sane).bind fun _ saved => yields_ok.mpr (push_sane saved fits)

theorem closeFlow_sane (sane : scan.IsSane) {token : Token} (fits : token.IsSane) :
    Yields IsSane (scan.closeFlow token) :=
  (dropKey_sane sane).bind fun _ dropped => yields_ok.mpr (push_sane dropped fits)

theorem flowEntry_sane (sane : scan.IsSane) : Yields IsSane scan.flowEntry :=
  (dropKey_sane sane).bind fun _ dropped => yields_ok.mpr (push_sane dropped trivial)

theorem blockEntry_sane (sane : scan.IsSane) : Yields IsSane scan.blockEntry := by
  have start : Token.IsSane .blockSequenceStart := trivial
  exact (openBlock_sane sane start).bind fun _ opened =>
    (dropKey_sane opened).bind fun _ dropped => yields_ok.mpr (push_sane dropped trivial)

theorem keyToken_sane (sane : scan.IsSane) : Yields IsSane scan.keyToken := by
  have start : Token.IsSane .blockMappingStart := trivial
  exact (openBlock_sane sane start).bind fun _ opened =>
    (dropKey_sane opened).bind fun _ dropped => yields_ok.mpr (push_sane dropped trivial)

theorem inKey_sane {α : Type} (sane : scan.IsSane) (read : Cursor → Except Fault (α × Cursor)) {token : α → Token}
    (fits : ∀ found, (token found).IsSane) : Yields IsSane (scan.inKey read token) :=
  (saveKey_sane sane).bind fun _ saved =>
    (yields_any _).bind fun ⟨_, _⟩ _ => yields_ok.mpr (push_sane saved (fits _))

theorem blockScalarToken_sane (sane : scan.IsSane) : Yields IsSane scan.blockScalarToken :=
  (dropKey_sane sane).bind fun _ dropped =>
    (yields_any _).bind fun ⟨_, _⟩ _ => yields_ok.mpr (push_sane dropped trivial)

theorem plainToken_sane (sane : scan.IsSane) : Yields IsSane scan.plainToken :=
  (saveKey_sane sane).bind fun _ saved => yields_ok.mpr (push_sane saved trivial)

theorem token_sane (sane : scan.IsSane) : Yields IsSane scan.token := by
  rw [token]
  refine yields_ite.mpr ⟨fun _ => directiveToken_sane sane, fun _ => ?_⟩
  refine yields_ite.mpr ⟨fun _ => document_sane sane trivial, fun _ => ?_⟩
  refine yields_ite.mpr ⟨fun _ => document_sane sane trivial, fun _ => ?_⟩
  refine yields_ite.mpr ⟨fun _ => openFlow_sane sane trivial, fun _ => ?_⟩
  refine yields_ite.mpr ⟨fun _ => openFlow_sane sane trivial, fun _ => ?_⟩
  refine yields_ite.mpr ⟨fun _ => closeFlow_sane sane trivial, fun _ => ?_⟩
  refine yields_ite.mpr ⟨fun _ => closeFlow_sane sane trivial, fun _ => ?_⟩
  refine yields_ite.mpr ⟨fun _ => flowEntry_sane sane, fun _ => ?_⟩
  refine yields_ite.mpr ⟨fun _ => blockEntry_sane sane, fun _ => ?_⟩
  refine yields_ite.mpr ⟨fun _ => keyToken_sane sane, fun _ => ?_⟩
  refine yields_ite.mpr ⟨fun _ => valueToken_sane sane, fun _ => ?_⟩
  refine yields_ite.mpr ⟨fun _ => inKey_sane sane _ fun _ => trivial, fun _ => ?_⟩
  refine yields_ite.mpr ⟨fun _ => inKey_sane sane _ fun _ => trivial, fun _ => ?_⟩
  refine yields_ite.mpr ⟨fun _ => inKey_sane sane _ fun _ => trivial, fun _ => ?_⟩
  refine yields_ite.mpr ⟨fun _ => blockScalarToken_sane sane, fun _ => ?_⟩
  refine yields_ite.mpr ⟨fun _ => inKey_sane sane _ fun _ => trivial, fun _ => ?_⟩
  refine yields_ite.mpr ⟨fun _ => plainToken_sane sane, fun _ => ?_⟩
  exact yields_error _

theorem dropStaleKeys_sane (sane : scan.IsSane) : Yields IsSane scan.dropStaleKeys := by
  rw [dropStaleKeys]
  split
  · exact yields_error _
  · exact yields_ok.mpr sane

theorem toToken_sane (sane : scan.IsSane) : Yields IsSane scan.toToken := by
  rw [toToken]
  refine (dropStaleKeys_sane (skipBlank_sane sane _)).bind fun kept keptSane => ?_
  exact yields_ok.mpr (unwind_sane keptSane _)

attribute [local irreducible] toToken token unwind dropKey in
/-- One round of reading tokens up to the end. -/
theorem finish_succ (fuel : Nat) : scan.finish (fuel + 1) =
    match scan.toToken with
    | .error fault => (scan.push (.broken fault)).tokens.reverse
    | .ok scan =>
      if scan.cursor.peek = endMark then
        match (scan.unwind fun _ => true).dropKey with
        | .error fault => (scan.push (.broken fault)).tokens.reverse
        | .ok scan => scan.tokens.reverse
      else match scan.token with
        | .error fault => (scan.push (.broken fault)).tokens.reverse
        | .ok scan => scan.finish fuel := rfl

theorem finish_sane (sane : scan.IsSane) (fuel : Nat) : ∀ token ∈ scan.finish fuel, token.IsSane := by
  have ended {scan : Scan} (sane : scan.IsSane) : ∀ token ∈ scan.tokens.reverse, token.IsSane :=
    fun token member => sane token (List.mem_reverse.mp member)
  have broken {scan : Scan} (sane : scan.IsSane) {fault : Fault} (told : fault.OfText) :
      ∀ token ∈ (scan.push (.broken fault)).tokens.reverse, token.IsSane := by
    have fits : Token.IsSane (.broken fault) := told
    exact ended (push_sane sane fits)
  induction fuel generalizing scan with
  | zero => exact ended sane
  | succ fuel ih =>
    rw [finish_succ]
    split
    · next fault failed => exact broken sane (toToken_fails scan fault failed)
    · next reached given =>
      have next := toToken_sane sane reached given
      split
      · split
        · next fault failed => exact broken next (dropKey_fails _ fault failed)
        · next closed given => exact ended (dropKey_sane (unwind_sane next _) closed given)
      · split
        · next fault failed => exact broken next (token_fails reached fault failed)
        · next further given => exact ih (token_sane next further given)

end Scan

theorem tokensOf_sane (text : Text) : ∀ token ∈ tokensOf text, token.IsSane := by
  rw [tokensOf]
  split
  · apply Scan.finish_sane
    rw [Scan.skipMark]
    split <;> exact List.forall_mem_nil _
  · exact List.forall_mem_singleton.mpr Fault.OfText.malformed

end ProjectSurvey.Yaml
