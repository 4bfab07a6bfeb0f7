import Mathlib.Data.List.Nodup
import ProjectSurvey.Idiom
import ProjectSurvey.Proofs.PatternFits
import ProjectSurvey.Proofs.TextPieces

/-! The examples of idioms. The pattern for the declaration of a state variable and the one for a call leave no
choice: what they take from a position is settled by the first `]`, `;` or `)` that comes up. So an example begins
at the first position where there is one, and since the pattern holds a word that the rule looks for, none is lost. -/

namespace ProjectSurvey

/-- The declaration of a state variable as far as the call that makes it. -/
def stateHead (gap names before behind : Text) : Text :=
  "const".toList ++ (gap ++ ("[".toList ++ (names ++ ("]".toList ++ (before ++ ("=".toList ++
    (behind ++ "useState".toList)))))))

/-- The names of a state variable between brackets, with blanks where there must or may be some. -/
structure IsStateHead (gap names before behind : Text) : Prop where
  apart : gap ≠ []
  blank : ∀ c ∈ gap, isBlank c = true
  nonempty : names ≠ []
  within : ']' ∉ names
  blankBefore : ∀ c ∈ before, isBlank c = true
  blankBehind : ∀ c ∈ behind, isBlank c = true

/-- Whether a state variable is declared at the start of a text: behind `useState` comes another character than a
semicolon. -/
def BeginsState (text : Text) : Prop :=
  ∃ gap names before behind c rest, IsStateHead gap names before behind ∧ c ≠ ';' ∧
    text = stateHead gap names before behind ++ c :: rest

/-- Whether a text is the declaration of a state variable in front of a rest: through the next semicolon, or to the
end if there is none. -/
def DeclaresState (shown rest : Text) : Prop :=
  ∃ gap names before behind value, IsStateHead gap names before behind ∧ value ≠ [] ∧ ';' ∉ value ∧
    (shown = stateHead gap names before behind ++ (value ++ [';']) ∨
      shown = stateHead gap names before behind ++ value ∧ rest = [])

def callWords : List Text := ["fetch", "axios"]

/-- Whether a call stands at the start of a text: behind the bracket comes another character than the closing one,
which comes later. -/
def BeginsCall (text : Text) : Prop :=
  ∃ word ∈ callWords, ∃ c rest, c ≠ ')' ∧ ')' ∈ rest ∧ text = word ++ '(' :: c :: rest

/-- Whether a text is a call, through the first closing bracket. -/
def IsCall (shown : Text) : Prop :=
  ∃ word ∈ callWords, ∃ arguments, arguments ≠ [] ∧ ')' ∉ arguments ∧ shown = word ++ '(' :: (arguments ++ [')'])

/-- Whether a text is shown of another one: it stands at the first position where something begins, and `spans`
says so of it and of the rest behind it. -/
def IsFirst (begins : Text → Prop) (spans : Text → Text → Prop) (text shown : Text) : Prop :=
  ∃ passed rest, text = passed ++ (shown ++ rest) ∧ PassesOver begins passed (shown ++ rest) ∧ spans shown rest

variable {text shown rest : Text} {parts : List Text}

section

variable {pattern : Pattern} {begins : Text → Prop} {spans : Text → Text → Prop}
  (begins_iff : ∀ text, begins text ↔ Pattern.Fits pattern.pieces text)
  (spans_iff : ∀ shown rest, spans shown rest ↔
    ∃ parts, pattern.fit? (shown ++ rest) = some parts ∧ parts.flatten = shown)

include begins_iff spans_iff

/-- What a pattern finds first stands at the first position where it fits. -/
theorem first?_shows :
    (pattern.first? text).map List.flatten = some shown ↔ IsFirst begins spans text shown := by
  have passes_iff (passed rest : Text) :
      PassesOver begins passed rest ↔ PassesOver (Pattern.Fits pattern.pieces) passed rest := by
    simp only [PassesOver, begins_iff]
  rw [Option.map_eq_some_iff]
  constructor
  · rintro ⟨parts, found, rfl⟩
    obtain ⟨passed, here, rfl, passes, fits⟩ := Pattern.first?_eq_some.mp found
    obtain ⟨rest, rfl⟩ := Pattern.isPrefix_of_fitPieces? fits
    exact ⟨passed, rest, rfl, (passes_iff _ _).mpr passes, (spans_iff _ _).mpr ⟨parts, fits, rfl⟩⟩
  · rintro ⟨passed, rest, rfl, passes, spans⟩
    obtain ⟨parts, fits, rfl⟩ := (spans_iff _ _).mp spans
    exact ⟨parts, Pattern.first?_eq_some.mpr ⟨passed, _, rfl, (passes_iff _ _).mp passes, fits⟩, rfl⟩

/-- Something is shown exactly if there is a position where it begins. -/
theorem exists_isFirst :
    (∃ shown, IsFirst begins spans text shown) ↔ ∃ before after, text = before ++ after ∧ begins after := by
  constructor
  · rintro ⟨shown, passed, rest, rfl, -, spans⟩
    obtain ⟨parts, fits, -⟩ := (spans_iff _ _).mp spans
    exact ⟨passed, shown ++ rest, rfl, (begins_iff _).mpr (Pattern.fits_iff.mpr ⟨parts, fits⟩)⟩
  · rintro ⟨before, after, cut, here⟩
    rcases exists_first_position begins text with nowhere | ⟨passed, there, rfl, passes, first⟩
    · exact absurd here (nowhere before after cut)
    · obtain ⟨parts, fits⟩ := Pattern.fits_iff.mp ((begins_iff _).mp first)
      obtain ⟨rest, rfl⟩ := Pattern.isPrefix_of_fitPieces? fits
      exact ⟨parts.flatten, passed, rest, rfl, passes, (spans_iff _ _).mpr ⟨parts, fits, rfl⟩⟩

end

theorem notOne_holds {c stop : Char} : (CharClass.notOne stop).holds c = true ↔ c ≠ stop := by
  simp [CharClass.notOne]

theorem run_free {run : Text} {stop : Char} : (∀ c ∈ run, (CharClass.notOne stop).holds c = true) ↔ stop ∉ run := by
  simp only [notOne_holds]
  exact ⟨fun inside member => inside stop member rfl, fun free c member same => free (same ▸ member)⟩

/-- The pieces of the pattern for a state variable that take its value. -/
theorem fitPieces?_value :
    Pattern.fitPieces? text [.most 1 (.notOne ';'), .perhaps ';'] = some parts ↔ ∃ value rest,
      text = value ++ rest ∧ value ≠ [] ∧ ';' ∉ value ∧ (∀ c, rest.head? = some c → c = ';') ∧
        parts = [value, if rest.head? = some ';' then [';'] else []] := by
  have always (c : Char) (rest : Text) (_ : (CharClass.notOne ';').holds c = true)
      (fails : Pattern.fitPieces? rest [.perhaps ';'] = none) :
      Pattern.fitPieces? (c :: rest) [.perhaps ';'] = none := by
    rw [Pattern.fitPieces?_perhaps_last] at fails
    cases fails
  have stops_iff (rest : Text) : (∀ c, rest.head? = some c → (CharClass.notOne ';').holds c = false) ↔
      ∀ c, rest.head? = some c → c = ';' := by
    simp only [← Bool.not_eq_true, notOne_holds, not_not]
  rw [Pattern.fitPieces?_most_iff always]
  constructor
  · rintro ⟨value, rest, _, rfl, free, stops, some, onEnd, rfl⟩
    rw [Pattern.fitPieces?_perhaps_last] at onEnd
    cases onEnd
    exact ⟨value, rest, rfl, List.length_pos_iff.mp some, run_free.mp free, (stops_iff rest).mp stops, rfl⟩
  · rintro ⟨value, rest, rfl, some, free, stops, rfl⟩
    exact ⟨value, rest, _, rfl, run_free.mpr free, (stops_iff rest).mpr stops, List.length_pos_iff.mpr some,
      Pattern.fitPieces?_perhaps_last _ _, rfl⟩

theorem stateHead_append (gap names before behind rest : Text) : stateHead gap names before behind ++ rest =
    "const".toList ++ (gap ++ ("[".toList ++ (names ++ ("]".toList ++ (before ++ ("=".toList ++ (behind ++
      ("useState".toList ++ rest)))))))) := by
  simp only [stateHead, List.append_assoc]

theorem fit?_statePattern : statePattern.fit? text = some parts ↔
    ∃ gap names before behind value rest, IsStateHead gap names before behind ∧ value ≠ [] ∧ ';' ∉ value ∧
      (∀ c, rest.head? = some c → c = ';') ∧ text = stateHead gap names before behind ++ (value ++ rest) ∧
      parts = ["const".toList, gap, "[".toList, names, "]".toList, before, "=".toList, behind, "useState".toList,
        value, if rest.head? = some ';' then [';'] else []] := by
  have notBracket : CharClass.blank.holds '[' = false := by decide
  have notClosing : (CharClass.notOne ']').holds ']' = false := by decide
  have notEqual : CharClass.blank.holds '=' = false := by decide
  have notLetter : CharClass.blank.holds 'u' = false := by decide
  rw [Pattern.fit?, statePattern, Pattern.fitPieces?_word_alone]
  constructor
  · rintro ⟨_, _, rfl, onGap, rfl⟩
    obtain ⟨gap, _, _, rfl, blank, apart, onNames, rfl⟩ :=
      (Pattern.fitPieces?_most_word (by decide) notBracket).mp onGap
    obtain ⟨names, _, _, rfl, within, nonempty, onBefore, rfl⟩ :=
      (Pattern.fitPieces?_most_word (by decide) notClosing).mp onNames
    obtain ⟨before, _, _, rfl, blankBefore, -, onBehind, rfl⟩ :=
      (Pattern.fitPieces?_most_word (by decide) notEqual).mp onBefore
    obtain ⟨behind, _, _, rfl, blankBehind, -, onValue, rfl⟩ :=
      (Pattern.fitPieces?_most_word (by decide) notLetter).mp onBehind
    obtain ⟨value, rest, rfl, some, free, stops, rfl⟩ := fitPieces?_value.mp onValue
    have head : IsStateHead gap names before behind :=
      ⟨List.length_pos_iff.mp apart, blank, List.length_pos_iff.mp nonempty, run_free.mp within, blankBefore,
        blankBehind⟩
    exact ⟨gap, names, before, behind, value, rest, head, some, free, stops, (stateHead_append ..).symm, rfl⟩
  · rintro ⟨gap, names, before, behind, value, rest, head, some, free, stops, rfl, rfl⟩
    refine ⟨_, _, stateHead_append .., (Pattern.fitPieces?_most_word (by decide) notBracket).mpr
      ⟨gap, _, _, rfl, head.blank, List.length_pos_iff.mpr head.apart, ?_, rfl⟩, rfl⟩
    refine (Pattern.fitPieces?_most_word (by decide) notClosing).mpr
      ⟨names, _, _, rfl, run_free.mpr head.within, List.length_pos_iff.mpr head.nonempty, ?_, rfl⟩
    refine (Pattern.fitPieces?_most_word (by decide) notEqual).mpr
      ⟨before, _, _, rfl, head.blankBefore, Nat.zero_le _, ?_, rfl⟩
    refine (Pattern.fitPieces?_most_word (by decide) notLetter).mpr
      ⟨behind, _, _, rfl, head.blankBehind, Nat.zero_le _, ?_, rfl⟩
    exact fitPieces?_value.mpr ⟨value, rest, rfl, some, free, stops, rfl⟩

/-- What comes before the first character that stops a run, and what is left. -/
theorem exists_run {c stop : Char} (other : c ≠ stop) (rest : Text) : ∃ run behind, c :: rest = run ++ behind ∧
    run ≠ [] ∧ stop ∉ run ∧ ∀ d, behind.head? = some d → d = stop := by
  refine ⟨(c :: rest).takeWhile (· != stop), (c :: rest).dropWhile (· != stop),
    List.takeWhile_append_dropWhile.symm, ?_, ?_, ?_⟩
  · rw [List.takeWhile_cons_of_pos (by simpa using other)]
    exact List.cons_ne_nil _ _
  · intro member
    simpa using List.mem_takeWhile_imp member
  · intro d first
    simpa using head?_dropWhile first

theorem beginsState_iff (text : Text) : BeginsState text ↔ Pattern.Fits statePattern.pieces text := by
  rw [Pattern.fits_iff]
  constructor
  · rintro ⟨gap, names, before, behind, c, rest, head, other, rfl⟩
    obtain ⟨value, left, whole, some, free, stops⟩ := exists_run other rest
    rw [whole]
    exact ⟨_, fit?_statePattern.mpr ⟨gap, names, before, behind, value, left, head, some, free, stops, rfl, rfl⟩⟩
  · rintro ⟨parts, fits⟩
    obtain ⟨gap, names, before, behind, value, left, head, some, free, -, rfl, -⟩ := fit?_statePattern.mp fits
    obtain ⟨c, more, rfl⟩ := List.exists_cons_of_ne_nil some
    exact ⟨gap, names, before, behind, c, more ++ left, head, fun same => free (same ▸ List.mem_cons_self), rfl⟩

theorem flatten_stateParts (gap names before behind value ending : Text) :
    ["const".toList, gap, "[".toList, names, "]".toList, before, "=".toList, behind, "useState".toList, value,
      ending].flatten = stateHead gap names before behind ++ (value ++ ending) := by
  rw [stateHead_append]
  simp only [List.flatten_cons, List.flatten_nil, List.append_nil]

theorem declaresState_iff (shown rest : Text) : DeclaresState shown rest ↔
    ∃ parts, statePattern.fit? (shown ++ rest) = some parts ∧ parts.flatten = shown := by
  constructor
  · rintro ⟨gap, names, before, behind, value, head, some, free, rfl | ⟨rfl, rfl⟩⟩
    · refine ⟨_, fit?_statePattern.mpr
        ⟨gap, names, before, behind, value, ';' :: rest, head, some, free, ?_, ?_, rfl⟩, ?_⟩
      · rintro _ ⟨⟩
        rfl
      · simp only [List.append_assoc, List.singleton_append]
      · exact flatten_stateParts ..
    · refine ⟨_, fit?_statePattern.mpr ⟨gap, names, before, behind, value, [], head, some, free, ?_, ?_, rfl⟩, ?_⟩
      · rintro _ ⟨⟩
      · simp only [List.append_assoc]
      · rw [flatten_stateParts]
        simp
  · rintro ⟨parts, fits, rfl⟩
    obtain ⟨gap, names, before, behind, value, left, head, some, free, stops, whole, rfl⟩ := fit?_statePattern.mp fits
    refine ⟨gap, names, before, behind, value, head, some, free, ?_⟩
    rw [flatten_stateParts] at whole ⊢
    cases left with
    | nil =>
      refine .inr ⟨by simp, ?_⟩
      simpa using whole
    | cons c left =>
      obtain rfl := stops c rfl
      exact .inl rfl

theorem fit?_callPattern : callPattern.fit? text = some parts ↔ ∃ word ∈ callWords, ∃ arguments rest,
    arguments ≠ [] ∧ ')' ∉ arguments ∧ text = word ++ ("(".toList ++ (arguments ++ (")".toList ++ rest))) ∧
      parts = [word, "(".toList, arguments, ")".toList] := by
  have apart : ∀ word ∈ callWords, ∀ other ∈ callWords, word <+: other → word = other := by decide
  have notClosing : (CharClass.notOne ')').holds ')' = false := by decide
  rw [Pattern.fit?, callPattern, ← callWords, Pattern.fitPieces?_word apart]
  constructor
  · rintro ⟨word, member, _, _, rfl, onBracket, rfl⟩
    obtain ⟨_, _, rfl, onArguments, rfl⟩ := Pattern.fitPieces?_word_alone.mp onBracket
    obtain ⟨arguments, rest, _, rfl, free, some, onEnd, rfl⟩ :=
      (Pattern.fitPieces?_most_word (by decide) notClosing).mp onArguments
    cases onEnd
    exact ⟨word, member, arguments, rest, List.length_pos_iff.mp some, run_free.mp free, rfl, rfl⟩
  · rintro ⟨word, member, arguments, rest, some, free, rfl, rfl⟩
    refine ⟨word, member, _, _, rfl, Pattern.fitPieces?_word_alone.mpr ⟨_, _, rfl, ?_, rfl⟩, rfl⟩
    exact (Pattern.fitPieces?_most_word (by decide) notClosing).mpr
      ⟨arguments, rest, [], rfl, run_free.mpr free, List.length_pos_iff.mpr some, rfl, rfl⟩

theorem beginsCall_iff (text : Text) : BeginsCall text ↔ Pattern.Fits callPattern.pieces text := by
  rw [Pattern.fits_iff]
  constructor
  · rintro ⟨word, member, c, rest, other, closed, rfl⟩
    obtain ⟨arguments, left, whole, some, free, stops⟩ := exists_run other rest
    have inside : ')' ∈ left := by
      have all : ')' ∈ arguments ++ left := whole ▸ List.mem_cons_of_mem c closed
      exact (List.mem_append.mp all).resolve_left free
    obtain ⟨d, more, rfl⟩ := List.exists_cons_of_ne_nil (List.ne_nil_of_mem inside)
    obtain rfl := stops d rfl
    rw [whole]
    exact ⟨_, fit?_callPattern.mpr ⟨word, member, arguments, more, some, free, rfl, rfl⟩⟩
  · rintro ⟨parts, fits⟩
    obtain ⟨word, member, arguments, rest, some, free, rfl, -⟩ := fit?_callPattern.mp fits
    obtain ⟨c, more, rfl⟩ := List.exists_cons_of_ne_nil some
    exact ⟨word, member, c, more ++ ')' :: rest, fun same => free (same ▸ List.mem_cons_self), by simp, rfl⟩

theorem isCall_iff (shown rest : Text) :
    IsCall shown ↔ ∃ parts, callPattern.fit? (shown ++ rest) = some parts ∧ parts.flatten = shown := by
  constructor
  · rintro ⟨word, member, arguments, some, free, rfl⟩
    refine ⟨_, fit?_callPattern.mpr ⟨word, member, arguments, rest, some, free, ?_, rfl⟩, ?_⟩
    · simp
    · simp
  · rintro ⟨parts, fits, rfl⟩
    obtain ⟨word, member, arguments, left, some, free, whole, rfl⟩ := fit?_callPattern.mp fits
    exact ⟨word, member, arguments, some, free, by simp⟩

theorem kinds_nodup : (projectRules.map (·.kind)).Nodup := by
  decide

/-- The idiom of a rule for whole projects is there exactly if the rule fires. -/
theorem exists_idiom_iff {rule : IdiomRule} (member : rule ∈ projectRules) (text file : Text)
    (holds : Option Text → Prop) :
    (∃ idiom ∈ idiomsOf text file none, idiom.kind = rule.kind ∧ holds idiom.example?) ↔
      rule.fires text = true ∧ holds (rule.exampleFrom text) := by
  constructor
  · rintro ⟨idiom, among, same, shown⟩
    obtain ⟨other, fired, rfl⟩ := List.mem_map.mp among
    obtain ⟨known, fires⟩ := List.mem_filter.mp fired
    obtain rfl := List.inj_on_of_nodup_map kinds_nodup known member same
    exact ⟨fires, shown⟩
  · rintro ⟨fires, shown⟩
    exact ⟨_, List.mem_map_of_mem (List.mem_filter.mpr ⟨member, fires⟩), rfl, shown⟩

section

variable {rule : IdiomRule} {pattern : Pattern} {begins : Text → Prop} {spans : Text → Text → Prop}
  (member : rule ∈ projectRules) (looks : rule.examplePattern = some pattern) (any : rule.allOf = [])
  (begins_iff : ∀ text, begins text ↔ Pattern.Fits pattern.pieces text)
  (spans_iff : ∀ shown rest, spans shown rest ↔
    ∃ parts, pattern.fit? (shown ++ rest) = some parts ∧ parts.flatten = shown)
  (needle : ∀ shown rest, spans shown rest → ∃ word ∈ rule.anyOf, word <:+: shown)

include member looks any begins_iff spans_iff needle

/-- A rule whose examples hold one of its words has the first of them as its example. -/
theorem example_iff (text file shown : Text) :
    (∃ idiom ∈ idiomsOf text file none, idiom.kind = rule.kind ∧ idiom.example? = some shown) ↔
      IsFirst begins spans text shown := by
  rw [exists_idiom_iff member text file (· = some shown), IdiomRule.exampleFrom, looks, Option.bind_some,
    first?_shows begins_iff spans_iff, and_iff_right_iff_imp]
  rintro ⟨passed, rest, rfl, -, spanned⟩
  obtain ⟨word, known, inside⟩ := needle shown rest spanned
  have found : Text.anyOccursIn rule.anyOf (passed ++ (shown ++ rest)) = true := by
    rw [Text.anyOccursIn, List.any_eq_true]
    refine ⟨word, known, Text.occursIn_iff.mpr (inside.trans ?_)⟩
    rw [← List.append_assoc]
    exact List.infix_append passed shown rest
  rw [IdiomRule.fires, any, found]
  simp

theorem exists_example_iff (text file : Text) :
    (∃ idiom ∈ idiomsOf text file none, idiom.kind = rule.kind ∧ idiom.example? ≠ none) ↔
      ∃ before after, text = before ++ after ∧ begins after := by
  rw [← exists_isFirst begins_iff spans_iff]
  simp only [← example_iff member looks any begins_iff spans_iff needle text file, Option.ne_none_iff_exists']
  constructor
  · rintro ⟨idiom, among, kind, shown, some⟩
    exact ⟨shown, idiom, among, kind, some⟩
  · rintro ⟨shown, idiom, among, kind, some⟩
    exact ⟨idiom, among, kind, shown, some⟩

end

theorem needle_of_declaresState (shown rest : Text) (declares : DeclaresState shown rest) :
    ∃ word ∈ (["useState", "setState"] : List Text), word <:+: shown := by
  have inside (gap names before behind : Text) : "useState".toList <:+: stateHead gap names before behind := by
    refine List.IsSuffix.isInfix ⟨"const".toList ++ (gap ++ ("[".toList ++ (names ++ ("]".toList ++ (before ++
      ("=".toList ++ behind)))))), ?_⟩
    simp only [stateHead, List.append_assoc]
  obtain ⟨gap, names, before, behind, value, -, -, -, rfl | ⟨rfl, -⟩⟩ := declares
  all_goals exact ⟨_, List.mem_cons_self, (inside ..).trans (List.prefix_append _ _).isInfix⟩

theorem needle_of_isCall (shown : Text) (call : IsCall shown) :
    ∃ word ∈ (["fetch", "axios", "api"] : List Text), word <:+: shown := by
  obtain ⟨word, member, arguments, -, -, rfl⟩ := call
  exact ⟨word, List.mem_append_left ["api".toList] member, (List.prefix_append word _).isInfix⟩

/-- In the survey of a project a text has one record for each kind of idiom at most. That of state variables shows a
declaration exactly if one begins somewhere in the text, and then the first of them, through the next semicolon
behind `useState` or to the end. That of calls shows one exactly if a call with arguments begins somewhere in the
text, and then the first of them, through the next closing bracket. -/
theorem idiomsOf_examples (text file : Text) :
    ((idiomsOf text file none).map (·.kind)).Nodup ∧
    ((∃ idiom ∈ idiomsOf text file none, idiom.kind = "state-management" ∧ idiom.example? ≠ none) ↔
      ∃ before after, text = before ++ after ∧ BeginsState after) ∧
    (∀ shown, (∃ idiom ∈ idiomsOf text file none, idiom.kind = "state-management" ∧ idiom.example? = some shown) ↔
      IsFirst BeginsState DeclaresState text shown) ∧
    ((∃ idiom ∈ idiomsOf text file none, idiom.kind = "api-call" ∧ idiom.example? ≠ none) ↔
      ∃ before after, text = before ++ after ∧ BeginsCall after) ∧
    ∀ shown, (∃ idiom ∈ idiomsOf text file none, idiom.kind = "api-call" ∧ idiom.example? = some shown) ↔
      IsFirst BeginsCall (fun shown _ => IsCall shown) text shown := by
  have state : ⟨"state-management", "React State", ["useState", "setState"], [], some statePattern, []⟩ ∈
      projectRules := List.mem_cons_self
  have call : ⟨"api-call", "API Integration", ["fetch", "axios", "api"], [], some callPattern, []⟩ ∈ projectRules :=
    List.mem_cons_of_mem _ List.mem_cons_self
  have calls (shown rest : Text) : IsCall shown → _ := fun call => needle_of_isCall shown call
  refine ⟨?_, ?_, ?_, ?_, ?_⟩
  · rw [idiomsOf, List.map_map]
    exact kinds_nodup.sublist (List.filter_sublist.map _)
  · exact exists_example_iff state rfl rfl beginsState_iff declaresState_iff needle_of_declaresState text file
  · exact example_iff state rfl rfl beginsState_iff declaresState_iff needle_of_declaresState text file
  · exact exists_example_iff call rfl rfl beginsCall_iff isCall_iff calls text file
  · exact example_iff call rfl rfl beginsCall_iff isCall_iff calls text file

end ProjectSurvey
