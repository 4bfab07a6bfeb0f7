import ProjectSurvey.Inventory.Extraction
import ProjectSurvey.Proofs.PatternFits

/-! The components that a text declares, by its runs of letters and digits. Nothing but a whole gap of blanks can
stand between a keyword and a name, so that the pattern for components sees no more of a text than which runs end
with a keyword and what lies between them. -/

namespace ProjectSurvey

/-- A run of letters and digits with the text between it and the next one, or the end. -/
structure WordRun where
  word : Text
  gap : Text

/-- The maximal runs of a text that begins with one, unless it is empty. -/
inductive SplitsInto : Text → List WordRun → Prop
  | nil : SplitsInto [] []
  | cons {text word gap rest : Text} {runs : List WordRun} (whole : text = word ++ (gap ++ rest))
    (nonempty : word ≠ []) (inside : ∀ c ∈ word, isAlphanumeric c = true)
    (outside : ∀ c ∈ gap, isAlphanumeric c = false) (apart : gap = [] → rest = []) (onward : SplitsInto rest runs) :
    SplitsInto text (⟨word, gap⟩ :: runs)

def componentKeywords : List Text := ["class", "function", "const"]

/-- Whether a run declares the next one: it ends with a keyword, blanks and nothing else lie between them, and the
next one begins with a capital. -/
def WordRun.declares (run next : WordRun) : Bool :=
  componentKeywords.any (·.isSuffixOf run.word) && !run.gap.isEmpty && run.gap.all isBlank &&
    next.word.head?.any fun c => 'A' ≤ c && c ≤ 'Z'

/-- The runs that are declared, from left to right. One that has just been declared does not declare another. -/
def declaredRuns (declared : Bool) : List WordRun → List Text
  | run :: next :: runs =>
    if !declared && run.declares next then next.word :: declaredRuns true (next :: runs)
    else declaredRuns false (next :: runs)
  | _ => []

variable {text word gap rest : Text} {runs : List WordRun} {parts : List Text}

theorem capital_holds {c : Char} : CharClass.capital.holds c = true ↔ 'A' ≤ c ∧ c ≤ 'Z' := by
  change (decide ('A' ≤ c) && decide (c ≤ 'Z')) = true ↔ 'A' ≤ c ∧ c ≤ 'Z'
  simp

theorem WordRun.declares_iff {run next : WordRun} : run.declares next = true ↔
    (∃ keyword ∈ componentKeywords, keyword <:+ run.word) ∧ run.gap ≠ [] ∧ (∀ c ∈ run.gap, isBlank c = true) ∧
      ∃ c more, next.word = c :: more ∧ CharClass.capital.holds c = true := by
  cases next with
  | mk name after => cases name <;> simp [WordRun.declares, capital_holds, and_assoc]

theorem declaredRuns_true (run : WordRun) (runs : List WordRun) :
    declaredRuns true (run :: runs) = declaredRuns false runs := by
  cases runs <;> simp [declaredRuns]

theorem declaredRuns_of_declares {run next : WordRun} (declares : run.declares next = true) (runs : List WordRun) :
    declaredRuns false (run :: next :: runs) = next.word :: declaredRuns true (next :: runs) := by
  simp [declaredRuns, declares]

theorem declaredRuns_of_not {run : WordRun} (not : ∀ next ∈ runs.head?, run.declares next = false) :
    declaredRuns false (run :: runs) = declaredRuns false runs := by
  cases runs with
  | nil => rfl
  | cons next runs => simp [declaredRuns, not next rfl]

theorem declaredRuns_congr {run other : WordRun}
    (same : ∀ next ∈ runs.head?, run.declares next = other.declares next) :
    declaredRuns false (run :: runs) = declaredRuns false (other :: runs) := by
  cases runs with
  | nil => rfl
  | cons next runs => simp [declaredRuns, same next rfl]

theorem SplitsInto.starts (splits : SplitsInto text runs) (c : Char) (first : text.head? = some c) :
    isAlphanumeric c = true := by
  cases splits with
  | nil => cases first
  | @cons _ word _ _ _ whole nonempty inside _ _ _ =>
    obtain ⟨d, more, rfl⟩ := List.exists_cons_of_ne_nil nonempty
    rw [whole] at first
    obtain rfl := Option.some.inj first
    exact inside d List.mem_cons_self

theorem stop_behind (outside : ∀ c ∈ gap, isAlphanumeric c = false) (apart : gap = [] → rest = []) :
    ∀ c, (gap ++ rest).head? = some c → isAlphanumeric c = false := by
  intro c first
  cases gap with
  | nil => rw [apart rfl] at first; cases first
  | cons d gap =>
    obtain rfl := Option.some.inj first
    exact outside d List.mem_cons_self

theorem gap_unique {otherGap otherRest : Text} (same : gap ++ rest = otherGap ++ otherRest)
    (outside : ∀ c ∈ gap, isAlphanumeric c = false) (starts : ∀ c, rest.head? = some c → isAlphanumeric c = true)
    (otherOutside : ∀ c ∈ otherGap, isAlphanumeric c = false)
    (otherStarts : ∀ c, otherRest.head? = some c → isAlphanumeric c = true) : gap = otherGap ∧ rest = otherRest := by
  refine @run_unique (fun c => !isAlphanumeric c) gap rest otherGap otherRest same ?_ ?_ ?_ ?_
  · exact fun c member => by rw [outside c member]; rfl
  · exact fun c first => by rw [starts c first]; rfl
  · exact fun c member => by rw [otherOutside c member]; rfl
  · exact fun c first => by rw [otherStarts c first]; rfl

theorem exists_splits (text : Text) : ∃ lead rest runs, text = lead ++ rest ∧
    (∀ c ∈ lead, isAlphanumeric c = false) ∧ SplitsInto rest runs := by
  induction text with
  | nil => exact ⟨[], [], [], rfl, List.forall_mem_nil _, .nil⟩
  | cons c text ih =>
    obtain ⟨lead, rest, runs, rfl, outside, splits⟩ := ih
    cases held : isAlphanumeric c with
    | false => exact ⟨c :: lead, rest, runs, rfl, List.forall_mem_cons.mpr ⟨held, outside⟩, splits⟩
    | true =>
      have alone (apart : lead = [] → rest = []) : SplitsInto (c :: (lead ++ rest)) (⟨[c], lead⟩ :: runs) :=
        .cons rfl (List.cons_ne_nil c []) (List.forall_mem_singleton.mpr held) outside apart splits
      cases lead with
      | cons d lead => exact ⟨[], _, _, rfl, List.forall_mem_nil _, alone (absurd · (List.cons_ne_nil d lead))⟩
      | nil =>
        cases splits with
        | nil => exact ⟨[], _, _, rfl, List.forall_mem_nil _, alone fun _ => rfl⟩
        | @cons _ word gap rest runs whole nonempty inside outside apart onward =>
          refine ⟨[], _, ⟨c :: word, gap⟩ :: runs, rfl, List.forall_mem_nil _, ?_⟩
          refine @SplitsInto.cons _ (c :: word) gap rest runs ?_ (List.cons_ne_nil c word)
            (List.forall_mem_cons.mpr ⟨held, inside⟩) outside apart onward
          rw [whole]
          rfl

/-- A text has its runs in one way only. -/
theorem SplitsInto.unique {otherRuns : List WordRun} (splits : SplitsInto text runs)
    (others : SplitsInto text otherRuns) : otherRuns = runs := by
  induction splits generalizing otherRuns with
  | nil =>
    cases others with
    | nil => rfl
    | cons whole nonempty => exact absurd (List.append_eq_nil_iff.mp whole.symm).1 nonempty
  | cons whole nonempty inside outside apart onward ih =>
    cases others with
    | nil => exact absurd (List.append_eq_nil_iff.mp whole.symm).1 nonempty
    | cons otherWhole otherNonempty otherInside otherOutside otherApart otherOnward =>
      obtain ⟨rfl, behind⟩ := run_unique (whole.symm.trans otherWhole) inside (stop_behind outside apart) otherInside
        (stop_behind otherOutside otherApart)
      obtain ⟨rfl, rfl⟩ := gap_unique behind outside onward.starts otherOutside otherOnward.starts
      rw [ih otherOnward]

theorem isAlphanumeric_of_capital {c : Char} (capital : CharClass.capital.holds c = true) :
    isAlphanumeric c = true := by
  have letter : ('A' ≤ c && c ≤ 'Z') = true := capital
  rw [isAlphanumeric, letter, Bool.or_true]

theorem not_isAlphanumeric_of_blank {c : Char} (blank : isBlank c = true) : isAlphanumeric c = false := by
  have code : c.val.toNat = c.toNat := rfl
  simp only [isBlank, Bool.or_eq_true, Bool.and_eq_true, decide_eq_true_eq, beq_iff_eq] at blank
  simp [isAlphanumeric, isDecimalDigit, Char.le_def, UInt32.le_iff_toNat_le, code]
  omega

theorem alphanumeric_of_all {words : List Text} (checked : (words.all (·.all isAlphanumeric)) = true) :
    ∀ word ∈ words, ∀ c ∈ word, isAlphanumeric c = true := by
  simpa only [List.all_eq_true] using checked

theorem keyword_inside : ∀ keyword ∈ componentKeywords, ∀ c ∈ keyword, isAlphanumeric c = true :=
  alphanumeric_of_all (by decide)

theorem fitPieces?_capital_of_blank (pieces : List Piece) (c : Char) (rest : Text)
    (blank : CharClass.blank.holds c = true) (_ : Pattern.fitPieces? rest (.one .capital :: pieces) = none) :
    Pattern.fitPieces? (c :: rest) (.one .capital :: pieces) = none := by
  refine Pattern.fitPieces?_one_of_not_holds (Bool.eq_false_iff.mpr fun capital => ?_) rest
  have inside := isAlphanumeric_of_capital capital
  rw [not_isAlphanumeric_of_blank blank] at inside
  cases inside

theorem fitPieces?_end (c : Char) (rest : Text) (_ : CharClass.alphanumeric.holds c = true)
    (fails : Pattern.fitPieces? rest [] = none) : Pattern.fitPieces? (c :: rest) [] = none := by
  cases fails

theorem fit?_componentPattern : componentPattern.fit? text = some parts ↔ ∃ keyword ∈ componentKeywords,
    ∃ blanks c more rest, text = keyword ++ (blanks ++ (c :: more ++ rest)) ∧ blanks ≠ [] ∧
      (∀ d ∈ blanks, isBlank d = true) ∧ CharClass.capital.holds c = true ∧ (∀ d ∈ more, isAlphanumeric d = true) ∧
      (∀ d, rest.head? = some d → isAlphanumeric d = false) ∧ parts = [keyword, blanks, [c], more] := by
  have apart : ∀ word ∈ componentKeywords, ∀ other ∈ componentKeywords, word <+: other → word = other := by decide
  rw [Pattern.fit?, componentPattern, ← componentKeywords]
  constructor
  · intro fits
    obtain ⟨keyword, member, _, _, rfl, onBlanks, rfl⟩ := (Pattern.fitPieces?_word apart).mp fits
    obtain ⟨blanks, _, _, rfl, blank, -, long, onCapital, rfl⟩ :=
      (Pattern.fitPieces?_most_iff (fitPieces?_capital_of_blank _)).mp onBlanks
    obtain ⟨c, _, _, rfl, capital, onMore, rfl⟩ := Pattern.fitPieces?_one.mp onCapital
    obtain ⟨more, rest, _, rfl, inside, stop, -, onEnd, rfl⟩ := (Pattern.fitPieces?_most_iff fitPieces?_end).mp onMore
    cases onEnd
    exact ⟨keyword, member, blanks, c, more, rest, rfl, List.length_pos_iff.mp long, blank, capital, inside, stop, rfl⟩
  · rintro ⟨keyword, member, blanks, c, more, rest, rfl, some, blank, capital, inside, stop, rfl⟩
    refine (Pattern.fitPieces?_word apart).mpr ⟨keyword, member, _, _, rfl, ?_, rfl⟩
    refine (Pattern.fitPieces?_most_iff (fitPieces?_capital_of_blank _)).mpr
      ⟨blanks, _, _, rfl, blank, ?_, List.length_pos_iff.mpr some, ?_, rfl⟩
    · rintro _ ⟨⟩
      refine Bool.eq_false_iff.mpr fun blank => ?_
      have inside := isAlphanumeric_of_capital capital
      rw [not_isAlphanumeric_of_blank blank] at inside
      cases inside
    refine Pattern.fitPieces?_one.mpr ⟨c, _, _, rfl, capital, ?_, rfl⟩
    exact (Pattern.fitPieces?_most_iff fitPieces?_end).mpr
      ⟨more, rest, [], rfl, inside, stop, Nat.zero_le _, rfl, rfl⟩

/-- Within a text that begins with a run, the pattern takes the whole run, the whole gap and the whole next run. -/
theorem fit?_run (inside : ∀ c ∈ word, isAlphanumeric c = true) (outside : ∀ c ∈ gap, isAlphanumeric c = false)
    (apart : gap = [] → rest = []) (splits : SplitsInto rest runs) :
    componentPattern.fit? (word ++ (gap ++ rest)) = some parts ↔ word ∈ componentKeywords ∧ gap ≠ [] ∧
      (∀ c ∈ gap, isBlank c = true) ∧ ∃ next later c more, runs = next :: later ∧ next.word = c :: more ∧
        CharClass.capital.holds c = true ∧ parts = [word, gap, [c], more] := by
  rw [fit?_componentPattern]
  constructor
  · rintro ⟨keyword, member, blanks, c, more, behind, whole, some, blank, capital, letters, stop, rfl⟩
    have between : ∀ d ∈ blanks, isAlphanumeric d = false :=
      fun d among => not_isAlphanumeric_of_blank (blank d among)
    have named : ∀ d ∈ c :: more, isAlphanumeric d = true :=
      List.forall_mem_cons.mpr ⟨isAlphanumeric_of_capital capital, letters⟩
    obtain ⟨rfl, behindWord⟩ := run_unique whole inside (stop_behind outside apart) (keyword_inside keyword member)
      (stop_behind between (absurd · some))
    obtain ⟨rfl, behindGap⟩ := gap_unique behindWord outside splits.starts between fun d first => by
      obtain rfl := Option.some.inj first
      exact isAlphanumeric_of_capital capital
    cases splits with
    | nil => cases behindGap
    | @cons _ name after _ later nextWhole _ nextInside nextOutside nextApart _ =>
      obtain ⟨rfl, -⟩ := run_unique (nextWhole.symm.trans behindGap) nextInside (stop_behind nextOutside nextApart)
        named stop
      exact ⟨member, some, blank, _, later, c, more, rfl, rfl, capital, rfl⟩
  · rintro ⟨member, some, blank, next, later, c, more, rfl, name, capital, rfl⟩
    cases splits with
    | @cons _ _ after behind _ nextWhole _ nextInside nextOutside nextApart _ =>
      obtain rfl : _ = c :: more := name
      obtain ⟨-, letters⟩ := List.forall_mem_cons.mp nextInside
      exact ⟨word, member, gap, c, more, after ++ behind, by rw [nextWhole], some, blank, capital, letters,
        stop_behind nextOutside nextApart, rfl⟩

theorem componentNames_gap (outside : ∀ c ∈ gap, isAlphanumeric c = false) (rest : Text) :
    componentNames (gap ++ rest) = componentNames rest := by
  rw [componentNames, componentNames, Pattern.finds_append_of_passesOver]
  rintro before after rfl some fits
  obtain ⟨parts, found⟩ := Pattern.fits_iff.mp fits
  obtain ⟨keyword, member, blanks, c, more, behind, whole, -⟩ := fit?_componentPattern.mp found
  have letters := keyword_inside keyword member
  have filled : ∀ keyword ∈ componentKeywords, keyword ≠ [] := by decide
  obtain ⟨d, rest', rfl⟩ := List.exists_cons_of_ne_nil some
  obtain ⟨e, letters', rfl⟩ := List.exists_cons_of_ne_nil (filled keyword member)
  obtain ⟨rfl, -⟩ := List.cons.inj whole
  have letter := letters d List.mem_cons_self
  rw [outside d (List.mem_append_right before List.mem_cons_self)] at letter
  cases letter

/-- The names within a run and behind it, if those behind the next run are known. -/
theorem componentNames_run (inside : ∀ c ∈ word, isAlphanumeric c = true)
    (outside : ∀ c ∈ gap, isAlphanumeric c = false) (apart : gap = [] → rest = []) (splits : SplitsInto rest runs)
    (onward : componentNames rest = declaredRuns false runs)
    (behind : ∀ next later after, runs = next :: later → rest = next.word ++ after →
      componentNames after = declaredRuns true runs) :
    componentNames (word ++ (gap ++ rest)) = declaredRuns false (⟨word, gap⟩ :: runs) := by
  induction word with
  | nil =>
    rw [List.nil_append, componentNames_gap outside, onward, declaredRuns_of_not]
    intro next _
    refine Bool.eq_false_iff.mpr fun declares => ?_
    obtain ⟨⟨keyword, member, ends⟩, -⟩ := WordRun.declares_iff.mp declares
    obtain rfl := List.suffix_nil.mp ends
    exact absurd member (by decide)
  | cons c word ih =>
    cases fits : componentPattern.fit? (c :: word ++ (gap ++ rest)) with
    | some parts =>
      obtain ⟨keyword, some, blank, next, later, d, more, rfl, name, capital, rfl⟩ :=
        (fit?_run inside outside apart splits).mp fits
      obtain ⟨after, same⟩ : ∃ after, rest = next.word ++ after := by
        cases splits with
        | cons whole => exact ⟨_, whole⟩
      have whole : c :: word ++ (gap ++ rest) = [c :: word, gap, [d], more].flatten ++ after := by
        rw [same, name]
        simp
      have declares : WordRun.declares ⟨c :: word, gap⟩ next = true :=
        WordRun.declares_iff.mpr ⟨⟨c :: word, keyword, List.suffix_rfl⟩, some, blank, d, more, name, capital⟩
      rw [whole] at fits ⊢
      rw [componentNames, Pattern.finds_of_fits fits (by simp), List.map_cons, ← componentNames,
        behind next later after rfl same, declaredRuns_of_declares declares, name]
      simp
    | none =>
      rw [List.cons_append] at fits ⊢
      rw [componentNames, Pattern.finds_cons_of_fails fits, ← componentNames, ih (List.forall_mem_cons.mp inside).2]
      refine declaredRuns_congr fun next first => ?_
      rw [Bool.eq_iff_iff, WordRun.declares_iff, WordRun.declares_iff]
      constructor
      · rintro ⟨⟨keyword, member, ends⟩, others⟩
        exact ⟨⟨keyword, member, ends.trans (List.suffix_cons c word)⟩, others⟩
      · rintro ⟨⟨keyword, member, ends⟩, some, blank, d, more, name, capital⟩
        rcases List.suffix_cons_iff.mp ends with rfl | ends
        · obtain ⟨later, rfl⟩ := List.head?_eq_some_iff.mp first
          have found := (fit?_run inside outside apart splits).mpr
            ⟨member, some, blank, next, later, d, more, rfl, name, capital, rfl⟩
          rw [List.cons_append, fits] at found
          cases found
        · exact ⟨⟨keyword, member, ends⟩, some, blank, d, more, name, capital⟩

theorem componentNames_splits (splits : SplitsInto text runs) : componentNames text = declaredRuns false runs ∧
    ∀ run later behind, runs = run :: later → text = run.word ++ behind →
      componentNames behind = declaredRuns true runs := by
  induction splits with
  | nil => exact ⟨rfl, fun _ _ _ none => by cases none⟩
  | @cons text word gap rest runs whole nonempty inside outside apart onward ih =>
    refine ⟨?_, ?_⟩
    · rw [whole]
      exact componentNames_run inside outside apart onward ih.1 ih.2
    · rintro _ _ behind ⟨⟩ same
      obtain rfl := List.append_cancel_left (whole.symm.trans same)
      rw [componentNames_gap outside, ih.1, declaredRuns_true]

/-- The components of a file are the runs of its text that are declared, each with the role that its name and the
whole text tell. -/
theorem components_declared (text file : Text) : ∃ lead rest runs, text = lead ++ rest ∧
    (∀ c ∈ lead, isAlphanumeric c = false) ∧ SplitsInto rest runs ∧
    (∀ otherLead otherRest otherRuns, text = otherLead ++ otherRest → (∀ c ∈ otherLead, isAlphanumeric c = false) →
      SplitsInto otherRest otherRuns → otherRuns = runs) ∧
    (Inventory.ofText text file).components =
      (declaredRuns false runs).map fun name => ⟨name, file, roleOf name text⟩ := by
  obtain ⟨lead, rest, runs, rfl, outside, splits⟩ := exists_splits text
  refine ⟨lead, rest, runs, rfl, outside, splits, ?_, ?_⟩
  · intro otherLead otherRest otherRuns same otherOutside others
    obtain ⟨-, rfl⟩ := gap_unique same outside splits.starts otherOutside others.starts
    exact splits.unique others
  · have names : componentNames (lead ++ rest) = declaredRuns false runs := by
      rw [componentNames_gap outside, (componentNames_splits splits).1]
    rw [← names]
    rfl

/-- A name that ends with a keyword does not declare the one after it. -/
example : componentNames "const Superclass Other" = ["Superclass".toList] := by decide

end ProjectSurvey
