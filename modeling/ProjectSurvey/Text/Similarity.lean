import ProjectSurvey.Text.Order

/-! How alike two texts are: the characters that they have in common block by block, the longest
block first and then what lies on either side of it. -/

namespace ProjectSurvey.Text

/-- The length of the longest common start of two texts. -/
def commonStart : Text → Text → Nat
  | a :: as, b :: bs => if a = b then commonStart as bs + 1 else 0
  | _, _ => 0

/-- A block that two texts have in common: where it starts in each of them, and its length. -/
structure Block where
  first : Nat
  second : Nat
  size : Nat

/-- The longest block that two texts have in common, the earliest one if there are several. -/
def longestBlock (a b : Text) : Block :=
  (List.range a.length).foldl
    (fun best i =>
      (List.range b.length).foldl
        (fun best j =>
          let size := commonStart (a.drop i) (b.drop j)
          if best.size < size then ⟨i, j, size⟩ else best)
        best)
    ⟨0, 0, 0⟩

/-- The number of characters in common blocks; `depth` bounds how often the texts are divided. -/
def commonChars : (depth : Nat) → Text → Text → Nat
  | 0, _, _ => 0
  | depth + 1, a, b =>
    let block := longestBlock a b
    if block.size = 0 then 0
    else
      commonChars depth (a.take block.first) (b.take block.second) + block.size
        + commonChars depth (a.drop (block.first + block.size)) (b.drop (block.second + block.size))

/-- A text with its likeness to another one: the characters in common out of those of both. -/
structure Likeness where
  text : Text
  common : Nat
  total : Nat

def likeness (word text : Text) : Likeness :=
  ⟨text, 2 * commonChars (text.length + 1) text word, text.length + word.length⟩

/-- Whether three fifths of the characters are in common. -/
def Likeness.isClose (likeness : Likeness) : Bool :=
  3 * likeness.total ≤ 5 * likeness.common

/-- The order from the most alike down, the greater text first among equals. -/
def Likeness.precedes (a b : Likeness) : Bool :=
  let left := a.common * b.total
  let right := b.common * a.total
  right < left || (left == right && inOrder b.text a.text)

/-- At most three of the texts that are most like a word, in the order of texts. -/
def closeTo (word : Text) (texts : List Text) : List Text :=
  let close := (texts.map (likeness word)).filter (·.isClose)
  (((close.mergeSort Likeness.precedes).take 3).map (·.text)).mergeSort inOrder

end ProjectSurvey.Text
