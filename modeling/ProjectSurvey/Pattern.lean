import ProjectSurvey.Text.Blank

/-! Patterns that a text is searched for: a sequence of words and runs of characters. A pattern is
tried at each position from left to right; where a run may be longer or shorter its lengths are
tried in order of preference, and the first way to fit the whole pattern counts. -/

namespace ProjectSurvey

/-- A class of characters together with the way it is written in a pattern. -/
structure CharClass where
  written : Text
  holds : Char → Bool

namespace CharClass

def blank : CharClass := ⟨"\\s", isBlank⟩

def capital : CharClass := ⟨"[A-Z]", fun c => 'A' ≤ c && c ≤ 'Z'⟩

def alphanumeric : CharClass := ⟨"[a-zA-Z0-9]", isAlphanumeric⟩

def withinLine : CharClass := ⟨".", (· != '\n')⟩

def quote : CharClass := ⟨"['\"]", fun c => c = '\'' || c = '"'⟩

def notQuote : CharClass := ⟨"[^'\"]", fun c => c != '\'' && c != '"'⟩

def notOne (c : Char) : CharClass :=
  ⟨"[^" ++ (if c = ']' then ['\\', c] else [c]) ++ "]", (· != c)⟩

end CharClass

/-- A way to cut a text in two: how many characters are taken, and what remains. -/
structure Cut where
  taken : Nat
  rest : Text

/-- The cuts of a text after each run of the class at its start, the shortest run first. In front of
the text `taken` characters are already gone. -/
def CharClass.cutsAfter (characters : CharClass) (taken : Nat) : Text → List Cut
  | [] => [⟨taken, []⟩]
  | c :: rest =>
    ⟨taken, c :: rest⟩ ::
      if characters.holds c then characters.cutsAfter (taken + 1) rest else []

/-- The cuts of a text after each run of the class at its start, the shortest run first. -/
def CharClass.cuts (characters : CharClass) (text : Text) : List Cut :=
  characters.cutsAfter 0 text

/-- The first of the cuts with a wanted rest, the shortest run first, that `accept` makes something
of. It looks no further than that cut. -/
def CharClass.shortest? {α : Type} (characters : CharClass) (wanted : Text → Bool)
    (accept : Cut → Option α) (taken : Nat) : Text → Option α
  | [] => if wanted [] then accept ⟨taken, []⟩ else none
  | c :: rest =>
    match if wanted (c :: rest) then accept ⟨taken, c :: rest⟩ else none with
    | some found => some found
    | none =>
      if characters.holds c then characters.shortest? wanted accept (taken + 1) rest else none

/-- The cuts with a wanted rest, the longest run first, in front of the cuts after shorter runs. -/
def CharClass.wantedOnto (characters : CharClass) (wanted : Text → Bool) (shorter : List Cut)
    (taken : Nat) : Text → List Cut
  | [] => if wanted [] then ⟨taken, []⟩ :: shorter else shorter
  | c :: rest =>
    if characters.holds c then
      characters.wantedOnto wanted
        (if wanted (c :: rest) then ⟨taken, c :: rest⟩ :: shorter else shorter) (taken + 1) rest
    else if wanted (c :: rest) then ⟨taken, c :: rest⟩ :: shorter else shorter

/-- Whether the text begins with a character of the class. -/
def CharClass.begins (characters : CharClass) : Text → Bool
  | [] => false
  | c :: _ => characters.holds c

/-- Looking no further than the first cut that is accepted gives what all cuts in order would. -/
theorem CharClass.shortest?_eq {α : Type} (characters : CharClass) (wanted : Text → Bool)
    (accept : Cut → Option α) (taken : Nat) (text : Text) :
    characters.shortest? wanted accept taken text =
      ((characters.cutsAfter taken text).filter (wanted ·.rest)).findSome? accept := by
  induction text generalizing taken with
  | nil => by_cases h : wanted [] <;> simp [shortest?, cutsAfter, h]
  | cons c rest ih =>
    by_cases h : wanted (c :: rest) <;> by_cases held : characters.holds c <;>
      simp [shortest?, cutsAfter, h, held, ih, List.findSome?_cons] <;>
      cases accept ⟨taken, c :: rest⟩ <;> rfl

/-- The wanted cuts are among all cuts, in the opposite order. -/
theorem CharClass.wantedOnto_eq (characters : CharClass) (wanted : Text → Bool)
    (shorter : List Cut) (taken : Nat) (text : Text) :
    characters.wantedOnto wanted shorter taken text =
      ((characters.cutsAfter taken text).filter (wanted ·.rest)).reverse ++ shorter := by
  induction text generalizing taken shorter with
  | nil => by_cases h : wanted [] <;> simp [wantedOnto, cutsAfter, h]
  | cons c rest ih =>
    by_cases h : wanted (c :: rest) <;> by_cases held : characters.holds c <;>
      simp [wantedOnto, cutsAfter, h, held, ih]

/-- Only the empty run of the class stands where no character of the class does. -/
theorem CharClass.cutsAfter_of_not_begins {characters : CharClass} {text : Text}
    (fails : characters.begins text = false) (taken : Nat) :
    characters.cutsAfter taken text = [⟨taken, text⟩] := by
  cases text with
  | nil => rfl
  | cons c rest => simp [cutsAfter, show characters.holds c = false from fails]

/-- One step of a pattern. -/
inductive Piece where
  /-- One of the words, the first of them that fits. -/
  | word (choices : List Text)
  /-- One character of the class. -/
  | one (characters : CharClass)
  /-- As many characters of the class as possible, but at least `least`. -/
  | most (least : Nat) (characters : CharClass)
  /-- As few characters of the class as possible. -/
  | fewest (characters : CharClass)
  /-- The character if it is there. -/
  | perhaps (character : Char)

/-- What a piece may take from the start of a text, in order of preference. -/
def Piece.cuts (text : Text) : Piece → List Cut
  | .word choices =>
    (choices.filter (·.isPrefixOf text)).map fun word => ⟨word.length, text.drop word.length⟩
  | .one characters =>
    match text with
    | c :: rest => if characters.holds c then [⟨1, rest⟩] else []
    | [] => []
  | .most least characters =>
    ((characters.cuts text).filter (least ≤ ·.taken)).reverse
  | .fewest characters => characters.cuts text
  | .perhaps character =>
    match text with
    | c :: rest => if c = character then [⟨1, rest⟩, ⟨0, text⟩] else [⟨0, text⟩]
    | [] => [⟨0, text⟩]

/-- Whether the piece can take anything from the start of a text: no cut of the text exists where
this fails. -/
def Piece.begins (text : Text) : Piece → Bool
  | .word choices => choices.any (·.isPrefixOf text)
  | .one characters => characters.begins text
  | .most least characters => least = 0 || characters.begins text
  | .fewest _ => true
  | .perhaps _ => true

/-- The first way to cut a text that `accept` makes something of, among those with a wanted rest. -/
def Piece.firstCut? {α : Type} (wanted : Text → Bool) (accept : Cut → Option α) (text : Text) :
    Piece → Option α
  | .most least characters => (characters.wantedOnto wanted [] 0 text).findSome? fun cut =>
      if least ≤ cut.taken then accept cut else none
  | .fewest characters => characters.shortest? wanted accept 0 text
  | piece => (piece.cuts text).findSome? accept

/-- Items that are never accepted may be left out of a search. -/
theorem findSome?_filter_of_wanted {α β : Type} {accept : α → Option β} {wanted : α → Bool}
    (unwanted : ∀ a, wanted a = false → accept a = none) (items : List α) :
    (items.filter wanted).findSome? accept = items.findSome? accept := by
  induction items with
  | nil => rfl
  | cons a items ih =>
    by_cases h : wanted a
    · simp [h, List.findSome?_cons, ih]
    · simp [h, ih, unwanted a (by simpa using h)]

/-- Passing over unwanted cuts changes nothing where they would not be accepted anyway. -/
theorem Piece.firstCut?_eq {α : Type} {wanted : Text → Bool} {accept : Cut → Option α}
    (unwanted : ∀ cut, wanted cut.rest = false → accept cut = none) (text : Text) (piece : Piece) :
    piece.firstCut? wanted accept text = (piece.cuts text).findSome? accept := by
  cases piece with
  | word choices => rfl
  | one characters => rfl
  | perhaps character => rfl
  | fewest characters =>
    simp only [firstCut?, cuts, CharClass.cuts, CharClass.shortest?_eq]
    exact findSome?_filter_of_wanted unwanted _
  | most least characters =>
    have long : ∀ items : List Cut,
        items.findSome? (fun cut => if least ≤ cut.taken then accept cut else none) =
          (items.filter (least ≤ ·.taken)).findSome? accept := by
      intro items
      induction items with
      | nil => rfl
      | cons cut items ih => by_cases h : least ≤ cut.taken <;> simp [h, ih, List.findSome?_cons]
    simp only [firstCut?, cuts, CharClass.cuts, CharClass.wantedOnto_eq, List.append_nil, long,
      ← List.filter_reverse]
    rw [List.filter_filter]
    simp only [Bool.and_comm]
    rw [← List.filter_filter]
    exact findSome?_filter_of_wanted unwanted _

/-- A piece that cannot begin takes nothing. -/
theorem Piece.cuts_of_not_begins {piece : Piece} {text : Text}
    (fails : piece.begins text = false) : piece.cuts text = [] := by
  cases piece with
  | word choices =>
    simp only [begins, List.any_eq_false] at fails
    simp only [cuts, List.map_eq_nil_iff, List.filter_eq_nil_iff]
    exact fails
  | one characters =>
    cases text with
    | nil => rfl
    | cons c rest => simp [cuts, show characters.holds c = false from fails]
  | most least characters =>
    simp only [begins, Bool.or_eq_false_iff, decide_eq_false_iff_not] at fails
    simp [cuts, CharClass.cuts, CharClass.cutsAfter_of_not_begins fails.2, fails.1]
  | fewest characters => simp [begins] at fails
  | perhaps character => simp [begins] at fails

/-- A character with a backslash in front where it would otherwise have a meaning in a pattern. -/
def writtenChar (c : Char) : Text :=
  if ['(', ')', '[', ']'].contains c then ['\\', c] else [c]

/-- A piece in the customary notation. -/
def Piece.written : Piece → Text
  | .word [choice] => choice.flatMap writtenChar
  | .word choices => "(" ++ Text.join "|" (choices.map fun choice => choice.flatMap writtenChar) ++ ")"
  | .one characters => characters.written
  | .most least characters => characters.written ++ (if least = 0 then "*" else "+")
  | .fewest characters => characters.written ++ "*?"
  | .perhaps character => writtenChar character ++ "?"

/-- Pieces that follow one another. -/
structure Pattern where
  pieces : List Piece

namespace Pattern

def written (pattern : Pattern) : Text :=
  pattern.pieces.flatMap Piece.written

/-- Whether the first of the pieces can take anything from the start of a text. -/
def beginsWith (pieces : List Piece) (text : Text) : Bool :=
  match pieces with
  | [] => true
  | piece :: _ => piece.begins text

/-- What each piece takes when the pieces are fitted one after another to the start of a text. A cut
is tried only where the piece after it can begin. -/
def fitPieces? (text : Text) : List Piece → Option (List Text)
  | [] => some []
  | piece :: pieces => piece.firstCut? (beginsWith pieces)
      (fun cut => (fitPieces? cut.rest pieces).map (text.take cut.taken :: ·)) text

/-- The first cut of the first piece after which the other pieces fit is the one that counts. -/
theorem fitPieces?_cons (text : Text) (piece : Piece) (pieces : List Piece) :
    fitPieces? text (piece :: pieces) = (piece.cuts text).findSome? fun cut =>
      (fitPieces? cut.rest pieces).map (text.take cut.taken :: ·) := by
  rw [fitPieces?]
  refine Piece.firstCut?_eq (fun cut fails => ?_) text piece
  cases pieces with
  | nil => simp [beginsWith] at fails
  | cons next pieces =>
    rw [fitPieces?_cons cut.rest next pieces, Piece.cuts_of_not_begins fails]
    rfl
termination_by pieces.length

/-- What each piece of the pattern takes when it is fitted to the start of a text. -/
def fit? (pattern : Pattern) (text : Text) : Option (List Text) :=
  fitPieces? text pattern.pieces

/-- The leftmost find of the pattern. -/
def first? (pattern : Pattern) : Text → Option (List Text)
  | [] => pattern.fit? []
  | c :: rest =>
    match pattern.fit? (c :: rest) with
    | some parts => some parts
    | none => pattern.first? rest

/-- The finds of the pattern after `skipped` characters, from left to right, each beginning where
the one before it ends or later. -/
def findsAfter (pattern : Pattern) (skipped : Nat) : Text → List (List Text)
  | [] => []
  | c :: rest =>
    match skipped with
    | more + 1 => pattern.findsAfter more rest
    | 0 =>
      match pattern.fit? (c :: rest) with
      | some parts => parts :: pattern.findsAfter (parts.flatten.length - 1) rest
      | none => pattern.findsAfter 0 rest

def finds (pattern : Pattern) (text : Text) : List (List Text) :=
  pattern.findsAfter 0 text

end Pattern

end ProjectSurvey
