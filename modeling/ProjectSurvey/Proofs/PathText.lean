import ProjectSurvey.FileTree.Resolve
import ProjectSurvey.Proofs.TextPieces

/-! What the text of a path is refused for: a character that no name can hold, or else its length.
A path that goes on is refused for everything that it was refused for before. -/

namespace ProjectSurvey

namespace Text

theorem unencodable?_eq_none {isRefused : Nat → Bool} {text : Text} :
    unencodable? isRefused text = none ↔ ∀ c ∈ text, (surrogate? c).any isRefused = false := by
  simp only [unencodable?]
  rw [← List.findIdx_eq_length]
  constructor
  · intro refused
    split at refused
    · next left =>
      exact Nat.le_antisymm List.findIdx_le_length (List.drop_eq_nil_iff.mp left)
    · cases refused
  · intro last
    rw [last, List.drop_length]

end Text

/-- Whether a name can hold a character. -/
def isNameable (c : Char) : Bool :=
  !(Text.surrogate? c).any isRefused && c != Char.ofNat 0

theorem isNameable_of_lt {c : Char} (low : c.toNat < Text.standInDistance) (visible : c ≠ Char.ofNat 0) :
    isNameable c = true := by
  have none : Text.surrogate? c = none := by
    simp [Text.surrogate?, Nat.not_le.mpr low]
  simp [isNameable, none, visible]

namespace Fault

theorem ofText?_eq_none {text : Text} :
    Fault.ofText? text = none ↔ ∀ c ∈ text, isNameable c = true := by
  simp only [ofText?, isNameable, Bool.and_eq_true, Bool.not_eq_true', bne_iff_ne]
  cases refused : Text.unencodable? isRefused text with
  | some cause =>
    simp only [reduceCtorEq, false_iff]
    intro named
    rw [Text.unencodable?_eq_none.mpr fun c member => (named c member).1] at refused
    cases refused
  | none =>
    have held := Text.unencodable?_eq_none.mp refused
    simp only [ite_eq_right_iff, reduceCtorEq, imp_false, List.contains_iff_mem]
    constructor
    · intro absent c member
      exact ⟨held c member, fun same => absent (same ▸ member)⟩
    · intro named member
      exact (named _ member).2 rfl

theorem ofText?_eq_some {text : Text} :
    (∃ fault, Fault.ofText? text = some fault) ↔ ∃ c ∈ text, isNameable c = false := by
  rw [← Option.isSome_iff_exists, ← Option.ne_none_iff_isSome, ne_eq, ofText?_eq_none]
  simp

theorem isOfText_of_ofText? {text : Text} {fault : Fault}
    (found : Fault.ofText? text = some fault) : fault.isOfText = true := by
  simp only [Fault.ofText?] at found
  split at found
  · cases found; rfl
  · split at found <;> cases found
    rfl

end Fault

theorem systemLength_append (first second : Text) :
    systemLength (first ++ second) = systemLength first + systemLength second := by
  simp only [systemLength, List.flatMap_append, List.length_append]

theorem Path.toText_descend {path : Path} (named : path.parts ≠ []) (name : Text) :
    (path.descend [name]).toText = path.toText ++ '/' :: name := by
  obtain ⟨anchor, parts⟩ := path
  have joined := Text.join_append "/" named (List.cons_ne_nil name [])
  cases parts with
  | nil => exact False.elim (named rfl)
  | cons part parts =>
    cases anchor <;>
      simp only [toText, descend, List.cons_append] at joined ⊢ <;>
      rw [joined] <;> simp [Text.join]

private theorem Text.mem_join {separator : Text} {texts : List Text} {c : Char}
    (member : c ∈ Text.join separator texts) : c ∈ separator ∨ ∃ text ∈ texts, c ∈ text := by
  induction texts with
  | nil => cases member
  | cons text texts ih =>
    cases texts with
    | nil => exact .inr ⟨text, List.mem_cons_self, by simpa [join] using member⟩
    | cons next texts =>
      simp only [join, List.intercalate_cons_cons, List.mem_append] at member
      rcases member with (inside | between) | later
      · exact .inr ⟨text, List.mem_cons_self, inside⟩
      · exact .inl between
      · rcases ih later with between | ⟨other, member, inside⟩
        · exact .inl between
        · exact .inr ⟨other, List.mem_cons_of_mem _ member, inside⟩

private theorem Text.mem_join_of_mem {separator text : Text} {texts : List Text}
    (member : text ∈ texts) {c : Char} (inside : c ∈ text) : c ∈ Text.join separator texts := by
  induction texts with
  | nil => cases member
  | cons first texts ih =>
    cases texts with
    | nil =>
      cases List.mem_singleton.mp member
      simpa [join] using inside
    | cons next texts =>
      simp only [join, List.intercalate_cons_cons, List.mem_append]
      rcases List.mem_cons.mp member with rfl | later
      · exact .inl (.inl inside)
      · exact .inr (ih later)

/-- Whether a path can be that of a file: what counts are the names in it. -/
def Path.IsNameable (path : Path) : Prop :=
  ∀ part ∈ path.parts, ∀ c ∈ part, isNameable c = true

theorem Path.isNameable_iff {path : Path} :
    path.IsNameable ↔ ∀ c ∈ path.toText, isNameable c = true := by
  have slash : isNameable '/' = true := by decide
  have dot : isNameable '.' = true := by decide
  obtain ⟨anchor, parts⟩ := path
  have joined : (∀ part ∈ parts, ∀ c ∈ part, isNameable c = true) ↔
      ∀ c ∈ Text.join "/" parts, isNameable c = true := by
    constructor
    · intro named c member
      rcases Text.mem_join member with between | ⟨part, inside, within⟩
      · cases List.mem_singleton.mp between
        exact slash
      · exact named part inside c within
    · intro named part inside c within
      exact named c (Text.mem_join_of_mem inside within)
  simp only [IsNameable, joined]
  cases anchor with
  | here => cases parts with
    | nil => simp [toText, Text.join, dot]
    | cons part parts => rfl
  | root => simp [toText, slash]
  | doubleRoot => simp [toText, slash]

namespace Place

/-- The text of a path is refused for a character in it, or else for its length. -/
theorem textFault?_cases {path : Path} {fault : Fault} (found : textFault? path = some fault) :
    (Fault.ofText? path.toText = some fault ∧ fault.isOfText = true) ∨
      (Fault.ofText? path.toText = none ∧ fault = .nameTooLong) := by
  simp only [textFault?, Option.or_eq_some_iff] at found
  rcases found with found | ⟨none, found⟩
  · exact .inl ⟨found, Fault.isOfText_of_ofText? found⟩
  · split at found <;> cases found
    exact .inr ⟨none, rfl⟩

theorem textFault?_of_ofText? {path : Path} {fault : Fault}
    (found : Fault.ofText? path.toText = some fault) : textFault? path = some fault := by
  simp [textFault?, found]

theorem textFault?_eq_none {path : Path} :
    textFault? path = none ↔
      (∀ c ∈ path.toText, isNameable c = true) ∧ systemLength path.toText < pathLimit := by
  simp only [textFault?, Option.or_eq_none_iff, Fault.ofText?_eq_none, ite_eq_right_iff,
    reduceCtorEq, imp_false, Nat.not_le]

theorem textFault?_of_descend {path : Path} (named : path.parts ≠ []) {name : Text}
    (accepted : textFault? (path.descend [name]) = none) : textFault? path = none := by
  rw [textFault?_eq_none, Path.toText_descend named] at accepted
  obtain ⟨nameable, short⟩ := accepted
  rw [systemLength_append] at short
  exact textFault?_eq_none.mpr
    ⟨fun c member => nameable c (List.mem_append_left _ member), by omega⟩

end Place

end ProjectSurvey
