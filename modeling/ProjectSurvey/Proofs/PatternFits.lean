import Mathlib.Data.List.TakeWhile
import ProjectSurvey.Pattern

/-! How the pieces of a pattern fit a text, and what its finds are. A run that is to be as long as possible is
never cut short where what follows it would fit after the whole run as well. -/

namespace ProjectSurvey

/-- Whether a text in front of a rest is passed over: none of its positions has the property. -/
def PassesOver (holds : Text → Prop) (passed rest : Text) : Prop :=
  ∀ before after, passed = before ++ after → after ≠ [] → ¬ holds (after ++ rest)

section

variable {holds : Text → Prop} {passed rest otherPassed otherRest text : Text}

theorem passesOver_nil (holds : Text → Prop) (rest : Text) : PassesOver holds [] rest := by
  intro before after cut some
  exact absurd (List.append_eq_nil_iff.mp cut.symm).2 some

theorem PassesOver.cons {c : Char} (passes : PassesOver holds passed rest) (not : ¬ holds (c :: (passed ++ rest))) :
    PassesOver holds (c :: passed) rest := by
  intro before after cut some
  cases before with
  | nil =>
    obtain rfl : c :: passed = after := cut
    exact not
  | cons d before => exact passes before after (List.cons.inj cut).2 some

theorem PassesOver.of_cons {c : Char} (passes : PassesOver holds (c :: passed) rest) :
    ¬ holds (c :: (passed ++ rest)) ∧ PassesOver holds passed rest :=
  ⟨passes [] (c :: passed) rfl (List.cons_ne_nil c passed),
    fun before after cut some => passes (c :: before) after (by rw [cut]; rfl) some⟩

theorem PassesOver.unique (same : passed ++ rest = otherPassed ++ otherRest) (passes : PassesOver holds passed rest)
    (here : holds rest) (otherOver : PassesOver holds otherPassed otherRest) (there : holds otherRest) :
    passed = otherPassed ∧ rest = otherRest := by
  rcases List.append_eq_append_iff.mp same with ⟨more, rfl, rfl⟩ | ⟨more, rfl, rfl⟩
  · by_cases none : more = []
    · simp [none]
    · exact absurd here (otherOver passed more rfl none)
  · by_cases none : more = []
    · simp [none]
    · exact absurd there (passes otherPassed more rfl none)

theorem exists_first_position (holds : Text → Prop) (text : Text) :
    (∀ before after, text = before ++ after → ¬ holds after) ∨
      ∃ passed rest, text = passed ++ rest ∧ PassesOver holds passed rest ∧ holds rest := by
  induction text with
  | nil =>
    by_cases here : holds []
    · exact .inr ⟨[], [], rfl, passesOver_nil holds [], here⟩
    · refine .inl fun before after cut => ?_
      rwa [(List.append_eq_nil_iff.mp cut.symm).2]
  | cons c text ih =>
    by_cases here : holds (c :: text)
    · exact .inr ⟨[], c :: text, rfl, passesOver_nil holds _, here⟩
    · rcases ih with nowhere | ⟨passed, rest, rfl, passes, there⟩
      · refine .inl fun before after cut => ?_
        cases before with
        | nil =>
          obtain rfl : c :: text = after := cut
          exact here
        | cons d before => exact nowhere before after (List.cons.inj cut).2
      · exact .inr ⟨c :: passed, rest, rfl, passes.cons here, there⟩

end

theorem takeWhile_append_stop {holds : Char → Bool} {run rest : Text} (inside : ∀ c ∈ run, holds c = true)
    (stop : ∀ c, rest.head? = some c → holds c = false) : (run ++ rest).takeWhile holds = run := by
  rw [List.takeWhile_append_of_pos inside]
  cases rest with
  | nil => exact List.append_nil run
  | cons c rest => rw [List.takeWhile_cons, stop c rfl, if_neg Bool.false_ne_true, List.append_nil]

theorem dropWhile_append_stop {holds : Char → Bool} {run rest : Text} (inside : ∀ c ∈ run, holds c = true)
    (stop : ∀ c, rest.head? = some c → holds c = false) : (run ++ rest).dropWhile holds = rest := by
  rw [List.dropWhile_append_of_pos inside]
  cases rest with
  | nil => rfl
  | cons c rest => rw [List.dropWhile_cons, stop c rfl, if_neg Bool.false_ne_true]

theorem run_unique {holds : Char → Bool} {run rest otherRun otherRest : Text}
    (same : run ++ rest = otherRun ++ otherRest) (inside : ∀ c ∈ run, holds c = true)
    (stop : ∀ c, rest.head? = some c → holds c = false) (otherInside : ∀ c ∈ otherRun, holds c = true)
    (otherStop : ∀ c, otherRest.head? = some c → holds c = false) : run = otherRun ∧ rest = otherRest := by
  constructor
  · rw [← takeWhile_append_stop inside stop, same, takeWhile_append_stop otherInside otherStop]
  · rw [← dropWhile_append_stop inside stop, same, dropWhile_append_stop otherInside otherStop]

theorem head?_dropWhile {holds : Char → Bool} {text : Text} {c : Char}
    (first : (text.dropWhile holds).head? = some c) : holds c = false := by
  have stop := List.head?_dropWhile_not holds text
  rw [first] at stop
  simpa using stop

namespace CharClass

variable (characters : CharClass)

theorem cutsAfter_succ (taken : Nat) (text : Text) : characters.cutsAfter (taken + 1) text =
    (characters.cutsAfter taken text).map fun cut => ⟨cut.taken + 1, cut.rest⟩ := by
  induction text generalizing taken with
  | nil => rfl
  | cons c rest ih =>
    rw [cutsAfter, cutsAfter, List.map_cons]
    split
    · rw [ih]
    · rfl

theorem cuts_cons (c : Char) (rest : Text) : characters.cuts (c :: rest) = ⟨0, c :: rest⟩ ::
    if characters.holds c then (characters.cuts rest).map fun cut => ⟨cut.taken + 1, cut.rest⟩ else [] := by
  rw [cuts, cutsAfter, cutsAfter_succ, cuts]

/-- The last of the cuts takes the whole run; in front of its rest the others leave some of the run. -/
theorem cuts_eq_concat (text : Text) : ∃ shorter, characters.cuts text =
      shorter ++ [⟨(text.takeWhile characters.holds).length, text.dropWhile characters.holds⟩] ∧
    ∀ cut ∈ shorter, cut.taken ≤ (text.takeWhile characters.holds).length ∧
      ∃ left, (∀ c ∈ left, characters.holds c = true) ∧ cut.rest = left ++ text.dropWhile characters.holds := by
  induction text with
  | nil => exact ⟨[], rfl, by simp⟩
  | cons c rest ih =>
    rw [cuts_cons]
    by_cases held : characters.holds c
    · obtain ⟨shorter, cuts, others⟩ := ih
      rw [if_pos held, cuts, List.takeWhile_cons_of_pos held, List.dropWhile_cons_of_pos held]
      refine ⟨⟨0, c :: rest⟩ :: shorter.map fun cut => ⟨cut.taken + 1, cut.rest⟩, by simp, ?_⟩
      intro cut member
      rcases List.mem_cons.mp member with rfl | later
      · refine ⟨Nat.zero_le _, c :: rest.takeWhile characters.holds, ?_, by simp⟩
        intro d inside
        rcases List.mem_cons.mp inside with rfl | onward
        · exact held
        · exact List.mem_takeWhile_imp onward
      · obtain ⟨other, among, rfl⟩ := List.mem_map.mp later
        obtain ⟨short, left⟩ := others other among
        exact ⟨Nat.succ_le_succ short, left⟩
    · rw [if_neg held, List.takeWhile_cons_of_neg held, List.dropWhile_cons_of_neg held]
      exact ⟨[], rfl, by simp⟩

end CharClass

namespace Pattern

variable {characters : CharClass} {pieces : List Piece} {text : Text} {parts : List Text}

/-- Where no word begins with another, the word that is taken is the one that is there. -/
theorem fitPieces?_word {choices : List Text}
    (apart : ∀ word ∈ choices, ∀ other ∈ choices, word <+: other → word = other) :
    fitPieces? text (.word choices :: pieces) = some parts ↔ ∃ word ∈ choices, ∃ rest others,
      text = word ++ rest ∧ fitPieces? rest pieces = some others ∧ parts = word :: others := by
  rw [fitPieces?_cons]
  constructor
  · intro fits
    obtain ⟨cut, member, fitted⟩ := List.exists_of_findSome?_eq_some fits
    simp only [Piece.cuts, List.mem_map, List.mem_filter, List.isPrefixOf_iff_prefix] at member
    obtain ⟨word, ⟨among, rest, rfl⟩, rfl⟩ := member
    rw [List.drop_left, List.take_left] at fitted
    obtain ⟨others, onward, rfl⟩ := Option.map_eq_some_iff.mp fitted
    exact ⟨word, among, rest, others, rfl, onward, rfl⟩
  · rintro ⟨word, among, rest, others, rfl, onward, rfl⟩
    have here : (⟨word.length, rest⟩ : Cut) ∈ (Piece.word choices).cuts (word ++ rest) := by
      simp only [Piece.cuts, List.mem_map, List.mem_filter, List.isPrefixOf_iff_prefix]
      exact ⟨word, ⟨among, List.prefix_append word rest⟩, by rw [List.drop_left]⟩
    have only : ∀ cut ∈ (Piece.word choices).cuts (word ++ rest), cut = ⟨word.length, rest⟩ := by
      simp only [Piece.cuts, List.mem_map, List.mem_filter, List.isPrefixOf_iff_prefix]
      rintro _ ⟨other, ⟨member, there⟩, rfl⟩
      have same : other = word := by
        rcases List.prefix_or_prefix_of_prefix there (List.prefix_append word rest) with shorter | longer
        · exact apart other member word among shorter
        · exact (apart word among other member longer).symm
      rw [same, List.drop_left]
    cases cuts : (Piece.word choices).cuts (word ++ rest) with
    | nil => rw [cuts] at here; cases here
    | cons cut later =>
      rw [cuts] at only
      rw [List.findSome?_cons, only cut List.mem_cons_self]
      simp only [onward, List.take_left, Option.map_some]

theorem fitPieces?_word_alone {word : Text} : fitPieces? text (.word [word] :: pieces) = some parts ↔
    ∃ rest others, text = word ++ rest ∧ fitPieces? rest pieces = some others ∧ parts = word :: others := by
  have apart : ∀ one ∈ [word], ∀ other ∈ [word], one <+: other → one = other := by
    intro one memberOne other memberOther _
    rw [List.mem_singleton.mp memberOne, List.mem_singleton.mp memberOther]
  rw [fitPieces?_word apart]
  simp only [List.mem_singleton, exists_eq_left]

/-- A word is not found behind a character that it does not begin with. -/
theorem fitPieces?_word_of_ne {word : Text} {c d : Char} (first : word.head? = some d) (other : c ≠ d) (rest : Text) :
    fitPieces? (c :: rest) (.word [word] :: pieces) = none := by
  rw [Option.eq_none_iff_forall_ne_some]
  intro parts fits
  obtain ⟨later, others, same, -⟩ := fitPieces?_word_alone.mp fits
  obtain ⟨more, rfl⟩ := List.head?_eq_some_iff.mp first
  exact other (List.cons.inj same).1

theorem fitPieces?_one : fitPieces? text (.one characters :: pieces) = some parts ↔ ∃ c rest others,
    text = c :: rest ∧ characters.holds c = true ∧ fitPieces? rest pieces = some others ∧ parts = [c] :: others := by
  rw [fitPieces?_cons]
  constructor
  · intro fits
    cases text with
    | nil => cases fits
    | cons c rest =>
      by_cases held : characters.holds c
      · simp only [Piece.cuts, if_pos held, List.findSome?_singleton] at fits
        obtain ⟨others, onward, rfl⟩ := Option.map_eq_some_iff.mp fits
        exact ⟨c, rest, others, rfl, held, onward, rfl⟩
      · simp only [Piece.cuts, if_neg held, List.findSome?_nil] at fits
        cases fits
  · rintro ⟨c, rest, others, rfl, held, onward, rfl⟩
    simp [Piece.cuts, held, onward]

/-- A piece for one character takes nothing of another class, such as what the run before it has left. -/
theorem fitPieces?_one_of_not_holds {c : Char} (not : characters.holds c = false) (rest : Text) :
    fitPieces? (c :: rest) (.one characters :: pieces) = none := by
  rw [Option.eq_none_iff_forall_ne_some]
  intro parts fits
  obtain ⟨d, later, others, same, held, -⟩ := fitPieces?_one.mp fits
  obtain ⟨rfl, -⟩ := List.cons.inj same
  rw [not] at held
  cases held

/-- The run is taken as a whole if what follows it never needs a character of the class in front. -/
theorem fitPieces?_most (drops : ∀ c rest, characters.holds c = true → fitPieces? rest pieces = none →
      fitPieces? (c :: rest) pieces = none) (least : Nat) (text : Text) :
    fitPieces? text (.most least characters :: pieces) =
      if least ≤ (text.takeWhile characters.holds).length then
        (fitPieces? (text.dropWhile characters.holds) pieces).map (text.takeWhile characters.holds :: ·)
      else none := by
  obtain ⟨shorter, cuts, others⟩ := characters.cuts_eq_concat text
  have run : text.take (text.takeWhile characters.holds).length = text.takeWhile characters.holds :=
    (List.prefix_iff_eq_take.mp (List.takeWhile_prefix _)).symm
  rw [fitPieces?_cons, Piece.cuts, cuts, List.filter_append, List.reverse_append]
  by_cases long : least ≤ (text.takeWhile characters.holds).length
  · rw [if_pos long, List.filter_cons_of_pos (by simpa using long), List.filter_nil, List.reverse_singleton,
      List.singleton_append, List.findSome?_cons, run]
    cases last : fitPieces? (text.dropWhile characters.holds) pieces with
    | some fitted => rfl
    | none =>
      have fails (left : Text) (inside : ∀ c ∈ left, characters.holds c = true) :
          fitPieces? (left ++ text.dropWhile characters.holds) pieces = none := by
        induction left with
        | nil => exact last
        | cons c left ih =>
          obtain ⟨held, onward⟩ := List.forall_mem_cons.mp inside
          exact drops c _ held (ih onward)
      refine List.findSome?_eq_none_iff.mpr fun cut member => ?_
      obtain ⟨-, left, inside, rest⟩ := others cut (List.mem_filter.mp (List.mem_reverse.mp member)).1
      rw [rest, fails left inside, Option.map_none]
  · rw [if_neg long, List.filter_cons_of_neg (by simpa using long), List.filter_nil, List.reverse_nil,
      List.nil_append, List.findSome?_eq_none_iff]
    intro cut member
    obtain ⟨among, enough⟩ := List.mem_filter.mp (List.mem_reverse.mp member)
    exact absurd ((decide_eq_true_iff.mp enough).trans (others cut among).1) long

/-- The run that is taken goes as far as the class does. -/
theorem fitPieces?_most_iff {least : Nat} (drops : ∀ c rest, characters.holds c = true →
      fitPieces? rest pieces = none → fitPieces? (c :: rest) pieces = none) :
    fitPieces? text (.most least characters :: pieces) = some parts ↔ ∃ run rest others, text = run ++ rest ∧
      (∀ c ∈ run, characters.holds c = true) ∧ (∀ c, rest.head? = some c → characters.holds c = false) ∧
      least ≤ run.length ∧ fitPieces? rest pieces = some others ∧ parts = run :: others := by
  rw [fitPieces?_most drops]
  constructor
  · intro fits
    split at fits
    · next long =>
      obtain ⟨others, onward, rfl⟩ := Option.map_eq_some_iff.mp fits
      exact ⟨_, _, others, (List.takeWhile_append_dropWhile).symm, fun c => List.mem_takeWhile_imp,
        fun c => head?_dropWhile, long, onward, rfl⟩
    · cases fits
  · rintro ⟨run, rest, others, rfl, inside, stop, long, onward, rfl⟩
    rw [takeWhile_append_stop inside stop, dropWhile_append_stop inside stop, if_pos long, onward, Option.map_some]

/-- A character that may be left out is taken at the end of a pattern if it is there. -/
theorem fitPieces?_perhaps_last (character : Char) (text : Text) :
    fitPieces? text [.perhaps character] = some [if text.head? = some character then [character] else []] := by
  rw [fitPieces?_cons]
  cases text with
  | nil => rfl
  | cons c rest =>
    by_cases same : c = character
    · simp [Piece.cuts, same, fitPieces?]
    · simp [Piece.cuts, same, fitPieces?]

/-- A run in front of a word that does not begin with a character of the class goes as far as the word. -/
theorem fitPieces?_most_word {least : Nat} {word : Text} {d : Char} (first : word.head? = some d)
    (apart : characters.holds d = false) :
    fitPieces? text (.most least characters :: .word [word] :: pieces) = some parts ↔ ∃ run rest others,
      text = run ++ (word ++ rest) ∧ (∀ c ∈ run, characters.holds c = true) ∧ least ≤ run.length ∧
        fitPieces? rest pieces = some others ∧ parts = run :: word :: others := by
  have drops (c : Char) (rest : Text) (held : characters.holds c = true)
      (_ : fitPieces? rest (.word [word] :: pieces) = none) :
      fitPieces? (c :: rest) (.word [word] :: pieces) = none := by
    refine fitPieces?_word_of_ne first ?_ rest
    rintro rfl
    cases apart.symm.trans held
  rw [fitPieces?_most_iff drops]
  constructor
  · rintro ⟨run, _, _, rfl, inside, -, long, onWord, rfl⟩
    obtain ⟨rest, others, rfl, onward, rfl⟩ := fitPieces?_word_alone.mp onWord
    exact ⟨run, rest, others, rfl, inside, long, onward, rfl⟩
  · rintro ⟨run, rest, others, rfl, inside, long, onward, rfl⟩
    refine ⟨run, _, _, rfl, inside, ?_, long, fitPieces?_word_alone.mpr ⟨rest, others, rfl, onward, rfl⟩, rfl⟩
    obtain ⟨more, rfl⟩ := List.head?_eq_some_iff.mp first
    rintro _ ⟨⟩
    exact apart

theorem fitPieces?_fewest_of_fits {others : List Text} (fits : fitPieces? text pieces = some others) :
    fitPieces? text (.fewest characters :: pieces) = some ([] :: others) := by
  rw [fitPieces?_cons, Piece.cuts]
  cases text with
  | nil => simp [CharClass.cuts, CharClass.cutsAfter, fits]
  | cons c rest => rw [CharClass.cuts_cons, List.findSome?_cons, fits]; rfl

theorem fitPieces?_fewest_nil (fails : fitPieces? [] pieces = none) :
    fitPieces? [] (.fewest characters :: pieces) = none := by
  rw [fitPieces?_cons, Piece.cuts]
  simp [CharClass.cuts, CharClass.cutsAfter, fails]

theorem fitPieces?_fewest_cons {c : Char} {rest : Text} (fails : fitPieces? (c :: rest) pieces = none) :
    fitPieces? (c :: rest) (.fewest characters :: pieces) =
      if characters.holds c then
        (fitPieces? rest (.fewest characters :: pieces)).map fun parts => parts.modifyHead (c :: ·)
      else none := by
  rw [fitPieces?_cons, Piece.cuts, CharClass.cuts_cons, List.findSome?_cons, fails]
  simp only [Option.map_none]
  by_cases held : characters.holds c
  · rw [if_pos held, if_pos held, fitPieces?_cons, Piece.cuts, List.findSome?_map, List.map_findSome?]
    simp [Function.comp_def]
  · rw [if_neg held, if_neg held]
    rfl

/-- Whether pieces fit a text. -/
def Fits (pieces : List Piece) (text : Text) : Prop :=
  fitPieces? text pieces ≠ none

theorem fits_iff : Fits pieces text ↔ ∃ parts, fitPieces? text pieces = some parts :=
  Option.ne_none_iff_exists'

theorem not_fits : ¬ Fits pieces text ↔ fitPieces? text pieces = none :=
  not_not

/-- A run that is to be as short as possible ends where what follows fits for the first time. -/
theorem fitPieces?_fewest : fitPieces? text (.fewest characters :: pieces) = some parts ↔ ∃ run rest others,
    text = run ++ rest ∧ (∀ c ∈ run, characters.holds c = true) ∧ PassesOver (Fits pieces) run rest ∧
      fitPieces? rest pieces = some others ∧ parts = run :: others := by
  constructor
  · intro found
    induction text generalizing parts with
    | nil =>
      cases here : fitPieces? [] pieces with
      | some others =>
        rw [fitPieces?_fewest_of_fits here] at found
        cases found
        exact ⟨[], [], others, rfl, by simp, passesOver_nil _ _, here, rfl⟩
      | none =>
        rw [fitPieces?_fewest_nil here] at found
        cases found
    | cons c text ih =>
      cases here : fitPieces? (c :: text) pieces with
      | some others =>
        rw [fitPieces?_fewest_of_fits here] at found
        cases found
        exact ⟨[], c :: text, others, rfl, by simp, passesOver_nil _ _, here, rfl⟩
      | none =>
        rw [fitPieces?_fewest_cons here] at found
        split at found
        · next held =>
          obtain ⟨onward, later, rfl⟩ := Option.map_eq_some_iff.mp found
          obtain ⟨run, rest, others, rfl, inside, passes, fits, rfl⟩ := ih later
          exact ⟨c :: run, rest, others, rfl, List.forall_mem_cons.mpr ⟨held, inside⟩,
            passes.cons (not_fits.mpr here), fits, rfl⟩
        · cases found
  · rintro ⟨run, rest, others, rfl, inside, passes, fits, rfl⟩
    induction run with
    | nil => exact fitPieces?_fewest_of_fits fits
    | cons c run ih =>
      obtain ⟨held, inside⟩ := List.forall_mem_cons.mp inside
      obtain ⟨fails, passes⟩ := passes.of_cons
      rw [List.cons_append, fitPieces?_fewest_cons (not_fits.mp fails), if_pos held, ih inside passes]
      rfl

/-- Where a run of any length makes what follows fit, the shortest such run is found. -/
theorem fits_fewest {run rest : Text} (inside : ∀ c ∈ run, characters.holds c = true) (fits : Fits pieces rest) :
    Fits (.fewest characters :: pieces) (run ++ rest) := by
  rcases exists_first_position (Fits pieces) (run ++ rest) with nowhere | ⟨passed, later, cut, passes, here⟩
  · exact absurd fits (nowhere run rest rfl)
  · obtain ⟨others, found⟩ := fits_iff.mp here
    have within : ∀ c ∈ passed, characters.holds c = true := by
      rcases List.append_eq_append_iff.mp cut with ⟨more, rfl, rfl⟩ | ⟨more, rfl, rfl⟩
      · by_cases none : more = []
        · rwa [none, List.append_nil]
        · exact absurd fits (passes run more rfl none)
      · exact fun c member => inside c (List.mem_append_left more member)
    rw [cut]
    exact fits_iff.mpr ⟨_, fitPieces?_fewest.mpr ⟨passed, later, others, rfl, within, passes, found, rfl⟩⟩

variable {pattern : Pattern}

/-- The leftmost find stands at the first position where the pattern fits. -/
theorem first?_eq_some : pattern.first? text = some parts ↔ ∃ passed rest, text = passed ++ rest ∧
    PassesOver (Fits pattern.pieces) passed rest ∧ pattern.fit? rest = some parts := by
  have ofNil {passed rest : Text} (cut : [] = passed ++ rest) : passed = [] ∧ rest = [] :=
    List.append_eq_nil_iff.mp cut.symm
  induction text with
  | nil =>
    rw [first?]
    constructor
    · exact fun fits => ⟨[], [], rfl, passesOver_nil _ _, fits⟩
    · rintro ⟨passed, rest, cut, -, fits⟩
      rwa [(ofNil cut).2] at fits
  | cons c text ih =>
    rw [first?]
    constructor
    · intro found
      split at found
      · next here =>
        cases found
        exact ⟨[], c :: text, rfl, passesOver_nil _ _, here⟩
      · next fails =>
        obtain ⟨passed, rest, rfl, passes, fits⟩ := ih.mp found
        exact ⟨c :: passed, rest, rfl, passes.cons (not_fits.mpr fails), fits⟩
    · rintro ⟨passed, rest, cut, passes, fits⟩
      cases passed with
      | nil =>
        obtain rfl : c :: text = rest := cut
        rw [fits]
      | cons d passed =>
        rw [List.cons_append] at cut
        obtain ⟨rfl, rfl⟩ := List.cons.inj cut
        obtain ⟨fails, passes⟩ := passes.of_cons
        rw [show pattern.fit? (c :: (passed ++ rest)) = none from not_fits.mp fails]
        exact ih.mpr ⟨passed, rest, rfl, passes, fits⟩

theorem findsAfter_eq (pattern : Pattern) (skipped : Nat) (text : Text) :
    pattern.findsAfter skipped text = pattern.finds (text.drop skipped) := by
  induction skipped generalizing text with
  | zero => rfl
  | succ skipped ih =>
    cases text with
    | nil => rfl
    | cons c rest => exact ih rest

@[simp] theorem finds_nil (pattern : Pattern) : pattern.finds [] = [] := rfl

theorem finds_cons_of_fails {c : Char} {rest : Text} (fails : pattern.fit? (c :: rest) = none) :
    pattern.finds (c :: rest) = pattern.finds rest := by
  rw [finds, findsAfter, fails, finds]

theorem finds_of_fits {rest : Text} (fits : pattern.fit? (parts.flatten ++ rest) = some parts)
    (some : parts.flatten ≠ []) : pattern.finds (parts.flatten ++ rest) = parts :: pattern.finds rest := by
  obtain ⟨c, taken, whole⟩ := List.exists_cons_of_ne_nil some
  rw [whole, List.cons_append] at fits ⊢
  rw [finds, findsAfter, fits]
  simp only [whole, List.length_cons, Nat.add_sub_cancel, findsAfter_eq, List.drop_left]

/-- A scan passes over characters where nothing fits. -/
theorem finds_append_of_passesOver {passed rest : Text} (passes : PassesOver (Fits pattern.pieces) passed rest) :
    pattern.finds (passed ++ rest) = pattern.finds rest := by
  induction passed with
  | nil => rfl
  | cons c passed ih =>
    obtain ⟨fails, passes⟩ := passes.of_cons
    rw [List.cons_append, finds_cons_of_fails (not_fits.mp fails), ih passes]

theorem finds_of_nowhere (nowhere : ∀ before after, text = before ++ after → ¬ Fits pattern.pieces after) :
    pattern.finds text = [] := by
  have passes : PassesOver (Fits pattern.pieces) text [] := by
    intro before after cut _
    rw [List.append_nil]
    exact nowhere before after cut
  rw [← List.append_nil text, finds_append_of_passesOver passes, finds_nil]

theorem rest_of_mem_cuts {cut : Cut} (member : cut ∈ characters.cuts text) : cut.rest = text.drop cut.taken := by
  induction text generalizing cut with
  | nil => rw [List.mem_singleton.mp member, List.drop_nil]
  | cons c rest ih =>
    rw [CharClass.cuts_cons] at member
    rcases List.mem_cons.mp member with rfl | longer
    · rfl
    · split at longer
      · obtain ⟨shorter, among, rfl⟩ := List.mem_map.mp longer
        exact ih among
      · cases longer

theorem rest_of_mem_piece_cuts {piece : Piece} {cut : Cut} (member : cut ∈ piece.cuts text) :
    cut.rest = text.drop cut.taken := by
  cases piece with
  | word choices =>
    obtain ⟨word, -, rfl⟩ := List.mem_map.mp member
    rfl
  | one characters =>
    simp only [Piece.cuts] at member
    split at member
    · split at member
      · rw [List.mem_singleton.mp member, List.drop_one, List.tail_cons]
      · cases member
    · cases member
  | most least characters => exact rest_of_mem_cuts (List.mem_filter.mp (List.mem_reverse.mp member)).1
  | fewest characters => exact rest_of_mem_cuts member
  | perhaps character =>
    simp only [Piece.cuts] at member
    split at member
    · split at member
      · rcases List.mem_cons.mp member with rfl | none
        · rfl
        · rw [List.mem_singleton.mp none, List.drop_zero]
      · rw [List.mem_singleton.mp member, List.drop_zero]
    · rw [List.mem_singleton.mp member, List.drop_zero]

/-- What pieces take one after another is the start of the text. -/
theorem isPrefix_of_fitPieces? (fits : fitPieces? text pieces = some parts) : parts.flatten <+: text := by
  induction pieces generalizing text parts with
  | nil =>
    cases fits
    exact List.nil_prefix
  | cons piece pieces ih =>
    rw [fitPieces?_cons] at fits
    obtain ⟨cut, member, fitted⟩ := List.exists_of_findSome?_eq_some fits
    obtain ⟨others, onward, rfl⟩ := Option.map_eq_some_iff.mp fitted
    rw [rest_of_mem_piece_cuts member] at onward
    have joined := (List.prefix_append_right_inj (text.take cut.taken)).mpr (ih onward)
    rwa [List.take_append_drop] at joined

theorem isInfix_of_first? (found : pattern.first? text = some parts) : parts.flatten <:+: text := by
  induction text with
  | nil => exact (isPrefix_of_fitPieces? found).isInfix
  | cons c rest ih =>
    rw [first?] at found
    split at found
    · next fits =>
      cases found
      exact (isPrefix_of_fitPieces? fits).isInfix
    · exact List.infix_cons (ih found)

theorem isInfix_of_mem_finds (pattern : Pattern) (text : Text) :
    ∀ parts ∈ pattern.finds text, parts.flatten <:+: text := by
  have after (skipped : Nat) : ∀ parts ∈ pattern.findsAfter skipped text, parts.flatten <:+: text := by
    induction text generalizing skipped with
    | nil => exact List.forall_mem_nil _
    | cons c rest ih =>
      cases skipped with
      | succ skipped => exact fun parts member => List.infix_cons (ih skipped parts member)
      | zero =>
        rw [findsAfter]
        split
        · next found fits =>
          exact List.forall_mem_cons.mpr ⟨(isPrefix_of_fitPieces? fits).isInfix,
            fun parts member => List.infix_cons (ih _ parts member)⟩
        · exact fun parts member => List.infix_cons (ih 0 parts member)
  exact after 0

end Pattern

end ProjectSurvey
