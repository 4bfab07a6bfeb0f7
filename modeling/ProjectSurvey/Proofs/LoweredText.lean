import ProjectSurvey.Proofs.TextPieces
import ProjectSurvey.Text.Case

/-! Lowering a text line by line. The form of a sigma depends on the characters around it, but never on
those of another line: a line feed has no case and is not looked past. -/

namespace ProjectSurvey.Text

/-- The small form of a character in front of `rest`. -/
def lowerAt (afterCased : Bool) (c : Char) (rest : Text) : Text :=
  if c = 'Σ' then (if afterCased && !casedAhead rest then ['ς'] else ['σ']) else lowerChar c

/-- Whether the last character that is not looked past has case, once `c` has been read. -/
def casedBehind (afterCased : Bool) (c : Char) : Bool :=
  if isCaseIgnorable c then afterCased else isCased c

theorem lowerOnto_eq (done : Text) (afterCased : Bool) (text : Text) :
    lowerOnto done afterCased text = done.reverse ++ lowerOnto [] afterCased text := by
  induction text generalizing done afterCased with
  | nil => simp [lowerOnto]
  | cons c rest ih =>
    rw [lowerOnto, ih, lowerOnto, ih (_ ++ [])]
    simp

theorem lowerOnto_cons (afterCased : Bool) (c : Char) (rest : Text) :
    lowerOnto [] afterCased (c :: rest) =
      lowerAt afterCased c rest ++ lowerOnto [] (casedBehind afterCased c) rest := by
  rw [lowerOnto, lowerOnto_eq]
  simp [lowerAt, casedBehind]

/-- The small form of a text that `after` follows. -/
def lowerBefore (after : Text) (afterCased : Bool) : Text → Text
  | [] => []
  | c :: rest => lowerAt afterCased c (rest ++ after) ++ lowerBefore after (casedBehind afterCased c) rest

/-- Whether the last character that is not looked past has case, once a text has been read. -/
def casedAfter (afterCased : Bool) (text : Text) : Bool :=
  text.foldl casedBehind afterCased

theorem lowerOnto_append (afterCased : Bool) (text after : Text) :
    lowerOnto [] afterCased (text ++ after) =
      lowerBefore after afterCased text ++ lowerOnto [] (casedAfter afterCased text) after := by
  induction text generalizing afterCased with
  | nil => rfl
  | cons c text ih =>
    rw [List.cons_append, lowerOnto_cons, ih, lowerBefore, List.append_assoc]
    rfl

theorem lowerBefore_nil (afterCased : Bool) (text : Text) :
    lowerBefore [] afterCased text = lowerOnto [] afterCased text := by
  have whole := lowerOnto_append afterCased text []
  rw [List.append_nil, lowerOnto, List.reverse_nil, List.append_nil] at whole
  exact whole.symm

theorem casedAhead_append_of_ignorable {text : Text} (passed : text.all isCaseIgnorable = true) (after : Text) :
    casedAhead (text ++ after) = casedAhead after := by
  have none : text.find? (fun c => !isCaseIgnorable c) = none := by
    rw [List.find?_eq_none]
    intro c member
    rw [List.all_eq_true.mp passed c member]
    exact Bool.false_ne_true
  rw [casedAhead, List.find?_append, none, Option.none_or, casedAhead]

theorem casedAhead_append_of_not_ignorable {text : Text} (stops : text.all isCaseIgnorable ≠ true) (after : Text) :
    casedAhead (text ++ after) = casedAhead text := by
  cases found : text.find? fun c => !isCaseIgnorable c with
  | none =>
    refine absurd (List.all_eq_true.mpr fun c member => ?_) stops
    have passed := List.find?_eq_none.mp found c member
    rwa [Bool.not_eq_true', Bool.not_eq_false] at passed
  | some c => rw [casedAhead, casedAhead, List.find?_append, found, Option.some_or]

theorem casedAhead_append_congr {after other : Text} (same : casedAhead after = casedAhead other) (text : Text) :
    casedAhead (text ++ after) = casedAhead (text ++ other) := by
  by_cases passed : text.all isCaseIgnorable = true
  · rw [casedAhead_append_of_ignorable passed, casedAhead_append_of_ignorable passed, same]
  · rw [casedAhead_append_of_not_ignorable passed, casedAhead_append_of_not_ignorable passed]

theorem lowerBefore_congr {after other : Text} (same : casedAhead after = casedAhead other) (afterCased : Bool)
    (text : Text) : lowerBefore after afterCased text = lowerBefore other afterCased text := by
  induction text generalizing afterCased with
  | nil => rfl
  | cons c text ih => rw [lowerBefore, lowerBefore, ih, lowerAt, lowerAt, casedAhead_append_congr same]

theorem lower_append (text rest : Text) : (text ++ '\n' :: rest).lower = text.lower ++ '\n' :: rest.lower := by
  have feed : casedAhead ('\n' :: rest) = casedAhead [] := rfl
  rw [lower, lowerOnto_append, lowerBefore_congr feed, lowerBefore_nil, lowerOnto_cons]
  rfl

private theorem toNat_ofNat_cases (n : Nat) : (Char.ofNat n).toNat = n ∨ (Char.ofNat n).toNat = 0 := by
  by_cases valid : n.isValidChar
  · rw [Char.ofNat, dif_pos valid]
    exact .inl rfl
  · rw [Char.ofNat, dif_neg valid]
    exact .inr rfl

private theorem feed_of_toLower {c : Char} (same : '\n' = c.toLower) : c = '\n' := by
  delta Char.toLower at same
  split at same
  · next capital =>
    have small : ('\n').toNat = (c.val + ('a'.val - 'A'.val)).toNat := congrArg Char.toNat same
    have first : 65 ≤ c.val.toNat := capital.1
    have last : c.val.toNat ≤ 90 := capital.2
    have distance : ('a'.val - 'A'.val).toNat = 32 := by decide
    rw [UInt32.toNat_add, distance] at small
    have feed : ('\n').toNat = 10 := rfl
    omega
  · exact same.symm

private theorem image_above {range : CaseRange} (member : range ∈ loweringRanges) {n image : Nat}
    (found : range.image? n = some image) : 10 < image := by
  have bound : ∀ range ∈ loweringRanges, 10 < range.first + range.shift := by decide +kernel
  have above := bound range member
  simp only [CaseRange.image?, Option.ite_none_right_eq_some, Bool.and_eq_true, decide_eq_true_eq,
    Option.some.injEq] at found
  omega

theorem feed_mem_lowerChar {c : Char} : '\n' ∈ lowerChar c ↔ c = '\n' := by
  constructor
  · intro member
    simp only [lowerChar] at member
    split at member
    · exact feed_of_toLower (List.mem_singleton.mp member)
    · split at member
      · next dotted =>
        have absent : '\n' ∉ ['i', Char.ofNat 0x307] := by decide
        exact absurd member absent
      · split at member
        · next n found =>
          obtain ⟨range, inside, image⟩ := List.exists_of_findSome?_eq_some found
          have above := image_above inside image
          have feed : 10 = (Char.ofNat n).toNat := congrArg Char.toNat (List.mem_singleton.mp member)
          rcases toNat_ofNat_cases n with same | same <;> omega
        · exact (List.mem_singleton.mp member).symm
  · rintro rfl
    decide

theorem feed_mem_lower {text : Text} : '\n' ∈ text.lower ↔ '\n' ∈ text := by
  have onto (afterCased : Bool) : '\n' ∈ lowerOnto [] afterCased text ↔ '\n' ∈ text := by
    induction text generalizing afterCased with
    | nil => rfl
    | cons c rest ih =>
      rw [lowerOnto_cons, List.mem_append, ih, List.mem_cons]
      refine or_congr_left ?_
      by_cases sigma : c = 'Σ'
      · subst sigma
        simp only [lowerAt, ite_true]
        split <;> decide
      · rw [lowerAt, if_neg sigma, feed_mem_lowerChar, eq_comm]
  exact onto false

theorem lines_lower (text : Text) : text.lower.lines = text.lines.map lower := by
  induction text using piecesInduction '\n' with
  | last text single =>
    rw [lines, lines, pieces_of_not_mem single, pieces_of_not_mem (mt feed_mem_lower.mp single)]
    rfl
  | next first rest single ih =>
    rw [lines] at ih ⊢
    rw [lower_append, pieces_append (mt feed_mem_lower.mp single), ih, lines, lines,
      pieces_append single]
    rfl

theorem lowerChar_ne_nil (c : Char) : lowerChar c ≠ [] := by
  simp only [lowerChar]
  split
  · exact List.cons_ne_nil _ _
  · split
    · exact List.cons_ne_nil _ _
    · split <;> exact List.cons_ne_nil _ _

theorem lower_eq_nil {text : Text} : text.lower = [] ↔ text = [] := by
  constructor
  · intro empty
    cases text with
    | nil => rfl
    | cons c rest =>
      rw [lower, lowerOnto_cons, List.append_eq_nil_iff, lowerAt] at empty
      split at empty
      · split at empty <;> cases empty.1
      · exact absurd empty.1 (lowerChar_ne_nil c)
  · rintro rfl
    rfl

/-- A small needle within a line is in the small text exactly if it is in one of the small lines. -/
theorem occursIn_lower_iff {needle : Text} (single : '\n' ∉ needle) (text : Text) :
    needle.lower.occursIn text.lower = true ↔
      ∃ line ∈ text.lines, needle.lower.occursIn line.lower = true := by
  have singleLower : '\n' ∉ needle.lower := mt feed_mem_lower.mp single
  simp only [occursIn_iff]
  rw [infix_iff_pieces singleLower, ← lines, lines_lower]
  simp only [List.mem_map, exists_exists_and_eq_and]

end ProjectSurvey.Text
