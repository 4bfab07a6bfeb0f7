import Mathlib.Data.List.Infix
import ProjectSurvey.Proofs.ComponentNames

/-! The hooks that a text uses, by its runs of letters and digits. A hook goes on to the end of its run and a scan
goes on behind it, so that a run has one hook at most and nothing outside of the run tells which. -/

namespace ProjectSurvey

def hookWords : List Text := ["use", "on"]

/-- Whether a text begins with one of the words for hooks and a capital right behind it. -/
def startsHook (text : Text) : Bool :=
  hookWords.any fun word => word.isPrefixOf text && CharClass.capital.begins (text.drop word.length)

/-- The hook within a run of letters and digits: the run from the first position on where a hook starts. -/
def hookOf? (run : Text) : Option Text :=
  run.tails.find? startsHook

/-- Whether a text has the given maximal runs of letters and digits, from left to right. -/
def HasRuns (text : Text) (words : List Text) : Prop :=
  ∃ lead rest runs, text = lead ++ rest ∧ (∀ c ∈ lead, isAlphanumeric c = false) ∧ SplitsInto rest runs ∧
    words = runs.map (·.word)

variable {text run gap rest : Text} {runs : List WordRun} {parts words : List Text}

theorem HasRuns.exists (text : Text) : ∃ words, HasRuns text words := by
  obtain ⟨lead, rest, runs, whole, outside, splits⟩ := exists_splits text
  exact ⟨_, lead, rest, runs, whole, outside, splits, rfl⟩

theorem HasRuns.unique {others : List Text} (has : HasRuns text words) (other : HasRuns text others) :
    others = words := by
  obtain ⟨lead, rest, runs, rfl, outside, splits, rfl⟩ := has
  obtain ⟨otherLead, otherRest, otherRuns, same, otherOutside, otherSplits, rfl⟩ := other
  obtain ⟨-, rfl⟩ := gap_unique same outside splits.starts otherOutside otherSplits.starts
  rw [splits.unique otherSplits]

theorem startsHook_iff : startsHook text = true ↔ ∃ word ∈ hookWords, ∃ c more,
    text = word ++ c :: more ∧ CharClass.capital.holds c = true := by
  simp only [startsHook, List.any_eq_true, Bool.and_eq_true, List.isPrefixOf_iff_prefix]
  refine exists_congr fun word => and_congr_right fun _ => ?_
  constructor
  · rintro ⟨⟨behind, rfl⟩, capital⟩
    rw [List.drop_left] at capital
    cases behind with
    | nil => cases capital
    | cons c more => exact ⟨c, more, rfl, capital⟩
  · rintro ⟨c, more, rfl, capital⟩
    rw [List.drop_left]
    exact ⟨List.prefix_append _ _, capital⟩

theorem hookWord_inside : ∀ word ∈ hookWords, ∀ c ∈ word, isAlphanumeric c = true :=
  alphanumeric_of_all (by decide)

/-- What starts a hook lies within one run. -/
theorem startsHook_append (run : Text) (stop : ∀ c, rest.head? = some c → isAlphanumeric c = false) :
    startsHook (run ++ rest) = startsHook run := by
  rw [Bool.eq_iff_iff, startsHook_iff, startsHook_iff]
  refine exists_congr fun word => and_congr_right fun member => ?_
  constructor
  · rintro ⟨c, more, same, capital⟩
    have inside : ∀ d ∈ word ++ [c], isAlphanumeric d = true :=
      List.forall_mem_append.mpr ⟨hookWord_inside word member,
        List.forall_mem_singleton.mpr (isAlphanumeric_of_capital capital)⟩
    rw [List.append_cons] at same
    rcases List.append_eq_append_iff.mp same with ⟨beyond, reaching, rfl⟩ | ⟨more, rfl, -⟩
    · cases beyond with
      | nil =>
        rw [List.append_nil] at reaching
        exact ⟨c, [], reaching.symm, capital⟩
      | cons d beyond =>
        have letter := inside d (by rw [reaching]; exact List.mem_append_right _ List.mem_cons_self)
        cases letter.symm.trans (stop d rfl)
    · exact ⟨c, more, (List.append_cons word c more).symm, capital⟩
  · rintro ⟨c, more, rfl, capital⟩
    exact ⟨c, more ++ rest, by rw [List.append_assoc, List.cons_append], capital⟩

theorem not_startsHook_of_outside {c : Char} (outside : isAlphanumeric c = false) (rest : Text) :
    startsHook (c :: rest) = false := by
  have stop : ∀ d, (c :: rest).head? = some d → isAlphanumeric d = false := by
    rintro _ ⟨⟩
    exact outside
  exact startsHook_append [] stop

theorem fit?_hookPattern : hookPattern.fit? text = some parts ↔ ∃ word ∈ hookWords, ∃ c more rest,
    text = word ++ c :: (more ++ rest) ∧ CharClass.capital.holds c = true ∧
      (∀ d ∈ more, isAlphanumeric d = true) ∧ (∀ d, rest.head? = some d → isAlphanumeric d = false) ∧
      parts = [word, [c], more] := by
  have apart : ∀ word ∈ hookWords, ∀ other ∈ hookWords, word <+: other → word = other := by decide
  rw [Pattern.fit?, hookPattern, ← hookWords]
  constructor
  · intro fits
    obtain ⟨word, member, _, _, rfl, onCapital, rfl⟩ := (Pattern.fitPieces?_word apart).mp fits
    obtain ⟨c, _, _, rfl, capital, onMore, rfl⟩ := Pattern.fitPieces?_one.mp onCapital
    obtain ⟨more, rest, _, rfl, inside, stop, -, onEnd, rfl⟩ := (Pattern.fitPieces?_most_iff fitPieces?_end).mp onMore
    cases onEnd
    exact ⟨word, member, c, more, rest, rfl, capital, inside, stop, rfl⟩
  · rintro ⟨word, member, c, more, rest, rfl, capital, inside, stop, rfl⟩
    refine (Pattern.fitPieces?_word apart).mpr ⟨word, member, _, _, rfl, ?_, rfl⟩
    refine Pattern.fitPieces?_one.mpr ⟨c, _, _, rfl, capital, ?_, rfl⟩
    exact (Pattern.fitPieces?_most_iff fitPieces?_end).mpr
      ⟨more, rest, [], rfl, inside, stop, Nat.zero_le _, rfl, rfl⟩

/-- Where a hook starts the pattern takes the whole run. -/
theorem fit?_of_startsHook (inside : ∀ c ∈ run, isAlphanumeric c = true)
    (stop : ∀ c, rest.head? = some c → isAlphanumeric c = false) (starts : startsHook run = true) :
    ∃ parts, hookPattern.fit? (run ++ rest) = some parts ∧ parts.flatten = run := by
  obtain ⟨word, member, c, more, rfl, capital⟩ := startsHook_iff.mp starts
  have behind : ∀ d ∈ more, isAlphanumeric d = true :=
    fun d among => inside d (List.mem_append_right _ (List.mem_cons_of_mem _ among))
  refine ⟨[word, [c], more], fit?_hookPattern.mpr ⟨word, member, c, more, rest, ?_, capital, behind, stop, rfl⟩, ?_⟩
  · rw [List.append_assoc, List.cons_append]
  · simp

theorem fit?_of_not_startsHook (not : startsHook text = false) : hookPattern.fit? text = none := by
  rw [Option.eq_none_iff_forall_ne_some]
  intro parts fits
  obtain ⟨word, member, c, more, rest, whole, capital, -⟩ := fit?_hookPattern.mp fits
  have starts := startsHook_iff.mpr ⟨word, member, c, more ++ rest, whole, capital⟩
  cases starts.symm.trans not

@[simp] theorem hookNames_nil : hookNames [] = [] := rfl

theorem hookNames_cons {c : Char} (not : startsHook (c :: text) = false) : hookNames (c :: text) = hookNames text := by
  rw [hookNames, Pattern.finds_cons_of_fails (fit?_of_not_startsHook not), hookNames]

theorem hookNames_gap (outside : ∀ c ∈ gap, isAlphanumeric c = false) (rest : Text) :
    hookNames (gap ++ rest) = hookNames rest := by
  induction gap with
  | nil => rfl
  | cons c gap ih =>
    obtain ⟨first, others⟩ := List.forall_mem_cons.mp outside
    rw [List.cons_append, hookNames_cons (not_startsHook_of_outside first _), ih others]

/-- A scan sees a run as a whole. -/
theorem hookNames_run (inside : ∀ c ∈ run, isAlphanumeric c = true)
    (stop : ∀ c, rest.head? = some c → isAlphanumeric c = false) :
    hookNames (run ++ rest) = (hookOf? run).toList ++ hookNames rest := by
  induction run with
  | nil => rfl
  | cons c run ih =>
    rw [hookOf?, List.tails_cons]
    cases starts : startsHook (c :: run) with
    | true =>
      obtain ⟨parts, fits, taken⟩ := fit?_of_startsHook inside stop starts
      rw [← taken] at fits
      have found := Pattern.finds_of_fits fits (by rw [taken]; exact List.cons_ne_nil c run)
      rw [taken] at found
      rw [List.find?_cons_of_pos starts, hookNames, found, List.map_cons, taken]
      rfl
    | false =>
      have passed : startsHook (c :: (run ++ rest)) = false := (startsHook_append (c :: run) stop).trans starts
      rw [List.find?_cons_of_neg (by rw [starts]; exact Bool.false_ne_true), List.cons_append, hookNames_cons passed,
        ih (List.forall_mem_cons.mp inside).2, hookOf?]

/-- The hooks of runs come before those of what lies behind. -/
theorem hookNames_splits (splits : SplitsInto text runs) {behind : Text}
    (stop : ∀ c, behind.head? = some c → isAlphanumeric c = false) :
    hookNames (text ++ behind) = (runs.map (·.word)).filterMap hookOf? ++ hookNames behind := by
  induction splits with
  | nil => rfl
  | @cons text word gap rest runs whole nonempty inside outside apart onward ih =>
    have stopped : ∀ c, (gap ++ (rest ++ behind)).head? = some c → isAlphanumeric c = false := by
      cases gap with
      | nil =>
        rw [apart rfl]
        exact stop
      | cons d gap =>
        rintro _ ⟨⟩
        exact outside d List.mem_cons_self
    rw [whole, List.append_assoc, List.append_assoc, hookNames_run inside stopped, hookNames_gap outside, ih,
      List.map_cons]
    cases found : hookOf? word <;> simp [found]

theorem hookNames_runs (has : HasRuns text words) {behind : Text}
    (stop : ∀ c, behind.head? = some c → isAlphanumeric c = false) :
    hookNames (text ++ behind) = words.filterMap hookOf? ++ hookNames behind := by
  obtain ⟨lead, rest, runs, rfl, outside, splits, rfl⟩ := has
  rw [List.append_assoc, hookNames_gap outside, hookNames_splits splits stop]

theorem hooks_eq (text file : Text) :
    (Inventory.ofText text file).hooks = (hookNames text).map fun name => ⟨name, file⟩ := rfl

/-- The hooks of a file are those of the runs of its text, each run having one at most. A character that belongs to
no run keeps the hooks before it apart from those behind it. -/
theorem hooks_by_runs (file : Text) :
    (∀ text, ∃ words, HasRuns text words ∧ (∀ others, HasRuns text others → others = words) ∧
      (Inventory.ofText text file).hooks = (words.filterMap hookOf?).map fun name => ⟨name, file⟩) ∧
    (∀ run, (∀ c ∈ run, isAlphanumeric c = true) →
      (Inventory.ofText run file).hooks = ((hookOf? run).map fun name => ⟨name, file⟩).toList) ∧
    ∀ before after c, isAlphanumeric c = false →
      (Inventory.ofText (before ++ c :: after) file).hooks =
        (Inventory.ofText before file).hooks ++ (Inventory.ofText after file).hooks := by
  have atEnd : ∀ c, ([] : Text).head? = some c → isAlphanumeric c = false := fun _ impossible => by cases impossible
  have alone {text : Text} {words : List Text} (has : HasRuns text words) :
      hookNames text = words.filterMap hookOf? := by
    have whole := hookNames_runs has atEnd
    rwa [List.append_nil, hookNames_nil, List.append_nil] at whole
  refine ⟨fun text => ?_, fun run inside => ?_, fun before after c outside => ?_⟩
  · obtain ⟨words, has⟩ := HasRuns.exists text
    exact ⟨words, has, fun others other => has.unique other, by rw [hooks_eq, alone has]⟩
  · have whole := hookNames_run inside atEnd
    rw [List.append_nil, hookNames_nil, List.append_nil] at whole
    rw [hooks_eq, whole]
    cases hookOf? run <;> rfl
  · obtain ⟨words, has⟩ := HasRuns.exists before
    have stop : ∀ d, (c :: after).head? = some d → isAlphanumeric d = false := by
      rintro _ ⟨⟩
      exact outside
    rw [hooks_eq, hooks_eq, hooks_eq, hookNames_runs has stop, ← alone has,
      hookNames_cons (not_startsHook_of_outside outside after), List.map_append]

/-- A second beginning within a run is part of the hook, and an underscore ends one. -/
theorem hooks_by_runs_underscore :
    (∀ c ∈ "reuseStateonClick".toList, isAlphanumeric c = true) ∧ isAlphanumeric '_' = false ∧
      (Inventory.ofText "reuseStateonClick" "a.ts").hooks = [⟨"useStateonClick", "a.ts"⟩] ∧
      (Inventory.ofText "reuseStateonClick_onUse" "a.ts").hooks =
        [⟨"useStateonClick", "a.ts"⟩, ⟨"onUse", "a.ts"⟩] := by
  have inside : ∀ c ∈ "reuseStateonClick".toList, isAlphanumeric c = true :=
    List.all_eq_true.mp (by decide)
  have outside : isAlphanumeric '_' = false := by decide
  have first := (hooks_by_runs "a.ts").2.1 "reuseStateonClick" inside
  have second := (hooks_by_runs "a.ts").2.2 "reuseStateonClick" "onUse" '_' outside
  refine ⟨inside, outside, first.trans (by decide), second.trans ?_⟩
  rw [first]
  decide

end ProjectSurvey
