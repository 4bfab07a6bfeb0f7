import ProjectSurvey.Text.Basic
import ProjectSurvey.Text.CaseTable

/-! Small and capital forms of a text by the full mappings of Unicode 14. A capital sigma becomes
the final small sigma at the end of a word, so lowering a text is not lowering its characters. -/

namespace ProjectSurvey.Text

def inRanges (ranges : List (Nat × Nat)) (n : Nat) : Bool :=
  ranges.any fun range => range.1 ≤ n && n ≤ range.2

/-- The code point that a range sends `n` to, when it covers `n`. -/
def CaseRange.image? (range : CaseRange) (n : Nat) : Option Nat :=
  if range.first ≤ n && n ≤ range.last && (n - range.first) % range.step == 0 then
    some (n + range.shift).toNat
  else
    none

/-- Whether a character has case and is not looked past. -/
def isCased (c : Char) : Bool :=
  if c.toNat < 0x80 then c.isAlpha else inRanges casedRanges c.toNat

/-- Whether a character is looked past when case depends on its neighbours. -/
def isCaseIgnorable (c : Char) : Bool :=
  if c.toNat < 0x80 then ['\'', '.', ':', '^', Char.ofNat 0x60].contains c
  else inRanges caseIgnorableRanges c.toNat

/-- The small form of a character wherever it stands. -/
def lowerChar (c : Char) : Text :=
  if c.toNat < 0x80 then [c.toLower]
  else if c = 'İ' then ['i', Char.ofNat 0x307]
  else match loweringRanges.findSome? (·.image? c.toNat) with
    | some n => [Char.ofNat n]
    | none => [c]

/-- Whether the first character that is not looked past has case. -/
def casedAhead (text : Text) : Bool :=
  (text.find? fun c => !isCaseIgnorable c).any isCased

/-- The small form of a text; `afterCased` says whether the last character before it that is not
looked past has case, and `done` holds the result so far backwards. -/
def lowerOnto (done : Text) (afterCased : Bool) : Text → Text
  | [] => done.reverse
  | c :: rest =>
    let small :=
      if c = 'Σ' then (if afterCased && !casedAhead rest then ['ς'] else ['σ']) else lowerChar c
    lowerOnto (small.reverse ++ done) (if isCaseIgnorable c then afterCased else isCased c) rest

def lower (text : Text) : Text :=
  lowerOnto [] false text

def upperChar (c : Char) : Text :=
  if c.toNat < 0x80 then [c.toUpper]
  else match raisingExpansions.find? (·.1 == c.toNat) with
    | some (_, ns) => ns.map Char.ofNat
    | none =>
      match raisingRanges.findSome? (·.image? c.toNat) with
      | some n => [Char.ofNat n]
      | none => [c]

def upper (text : Text) : Text :=
  text.flatMap upperChar

end ProjectSurvey.Text
