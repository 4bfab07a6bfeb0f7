import ProjectSurvey.Text.Utf8

/-! Literal values: numbers, texts and the names of constants, alone or together in tuples, sets and
tables. What is decided here is whether a text is such a value. -/

namespace ProjectSurvey.Terminal

inductive LiteralToken where
  | number (imaginary : Bool)
  | string (ofBytes : Bool)
  | name (word : Text)
  | ellipsis
  /-- A sign or a bracket. -/
  | mark (c : Char)
  /-- The end of a line outside of brackets. -/
  | lineEnd
  deriving DecidableEq, Repr

namespace LiteralToken

/-! Numbers -/

def continuesName (c : Char) : Bool :=
  isAlphanumeric c || c = '_' || 0x80 ≤ c.toNat

/-- The number of characters at the start of a text that are digits, with single underscores
between them; none where an underscore is followed by none. -/
def digitRun? (isDigit : Char → Bool) (text : Text) : Option Nat :=
  let run := text.takeWhile fun c => isDigit c || c = '_'
  if run.isEmpty then some 0
  else if (Text.pieces '_' run).all fun digits => !digits.isEmpty then some run.length
  else none

/-- The number of characters of an exponent at the start of a text. -/
def exponentLength? (text : Text) : Option Nat :=
  match text with
  | e :: rest =>
    if e = 'e' || e = 'E' then do
      let sign := if rest.head? = some '+' || rest.head? = some '-' then 1 else 0
      let digits ← digitRun? isDecimalDigit (rest.drop sign)
      if digits = 0 then none else some (1 + sign + digits)
    else some 0
  | [] => some 0

/-- The number of characters of a point and a fraction at the start of a text. -/
def fractionLength? (text : Text) : Option Nat :=
  match text with
  | '.' :: rest =>
    if rest.head? = some '_' then none else (digitRun? isDecimalDigit rest).map (· + 1)
  | _ => some 0

def literalDigitLimit : Nat := 4300

/-- The decimal number at the start of a text, and how many characters it takes. A whole number has
no zero before its first digit and not too many digits. -/
def decimalNumber? (text : Text) : Option (LiteralToken × Nat) := do
  if text.head? = some '_' then none
  let whole ← digitRun? isDecimalDigit text
  let fraction ← fractionLength? (text.drop whole)
  let exponent ← exponentLength? (text.drop (whole + fraction))
  let size := whole + fraction + exponent
  let imaginary := match (text.drop size).head? with
    | some c => c = 'j' || c = 'J'
    | none => false
  let digits := (text.take whole).filter (· != '_')
  let isWhole := fraction = 0 && exponent = 0 && !imaginary
  if isWhole && ((digits.head? = some '0' && digits.any (· != '0'))
      || literalDigitLimit < digits.length) then none
  else some (.number imaginary, if imaginary then size + 1 else size)

/-- The digits of the base that a letter after a zero asks for. -/
def baseDigits? (letter : Char) : Option (Char → Bool) :=
  match letter.toLower with
  | 'x' => some fun c => (hexadecimalDigit? c).isSome
  | 'o' => some fun c => '0' ≤ c && c ≤ '7'
  | 'b' => some fun c => c = '0' || c = '1'
  | _ => none

/-- The number at the start of a text; a name may not follow it at once. -/
def number? (text : Text) : Option (LiteralToken × Nat) := do
  let based : Option (Char → Bool) :=
    match text with
    | '0' :: letter :: _ => baseDigits? letter
    | _ => none
  let (token, size) ← match based with
    | some isDigit => do
      let digits := text.drop 2
      let mark := if digits.head? = some '_' then 1 else 0
      let run ← digitRun? isDigit (digits.drop mark)
      if run = 0 then none else some (LiteralToken.number false, 2 + mark + run)
    | none => decimalNumber? text
  if (text.drop size).head?.any continuesName then none else some (token, size)

/-! Strings -/

/-- What stands before the quote of a string and what it says: whether the string is of bytes, and
whether backslashes stand for themselves. -/
def stringPrefixes : List (Text × Bool × Bool) := [("", false, false), ("u", false, false),
  ("b", true, false), ("r", false, true), ("br", true, true), ("rb", true, true)]

/-- The number of characters between the quotes of a string that ends with `ending`, and of lines
only where the quotes are three. -/
def bodyLength? (ending : Text) : (taken : Nat) → (skip : Bool) → Text → Option Nat
  | _, _, [] => none
  | taken, true, _ :: rest => bodyLength? ending (taken + 1) false rest
  | taken, false, c :: rest =>
    if ending.isPrefixOf (c :: rest) then some taken
    else if c = '\n' && ending.length = 1 then none
    else bodyLength? ending (taken + 1) (c = '\\') rest

/-- The number of hexadecimal digits that an escape of this letter has. -/
def escapeDigits? (ofBytes : Bool) (letter : Char) : Option Nat :=
  if letter = 'x' then some 2
  else if ofBytes then none
  else if letter = 'u' then some 4
  else if letter = 'U' then some 8
  else none

/-- Whether every backslash in a string begins an escape that is complete. Characters by their names
are not known. -/
def escapesAreComplete (ofBytes : Bool) : (skip : Bool) → Text → Bool
  | _, [] => true
  | true, _ :: rest => escapesAreComplete ofBytes false rest
  | false, c :: rest =>
    if c != '\\' then escapesAreComplete ofBytes false rest
    else match rest with
      | [] => false
      | letter :: after =>
        let isComplete := match escapeDigits? ofBytes letter with
          | some count =>
            let digits := after.take count
            digits.length = count && (hexadecimalValue? digits).any (· ≤ 0x10FFFF)
          | none => ofBytes || letter != 'N'
        isComplete && escapesAreComplete ofBytes true rest

/-- The string after a prefix that has been read, and how many characters it takes. -/
def stringAfter? (word text : Text) : Option (LiteralToken × Nat) := do
  let (_, ofBytes, isRaw) ← stringPrefixes.find? (·.1 == word.map Char.toLower)
  let quote ← text.head?
  let ending := if (List.replicate 3 quote).isPrefixOf text then List.replicate 3 quote else [quote]
  let size ← bodyLength? ending 0 false (text.drop ending.length)
  let body := (text.drop ending.length).take size
  if ofBytes && body.any fun c => 0x80 ≤ c.toNat then none
  else if !isRaw && !escapesAreComplete ofBytes false body then none
  else some (.string ofBytes, 2 * ending.length + size)

/-! Texts -/

/-- The token at the start of a text that begins with none of blank, comment or end of line, and how
many characters it takes. -/
def next? (text : Text) : Option (LiteralToken × Nat) :=
  match text with
  | [] => none
  | '.' :: '.' :: '.' :: _ => some (.ellipsis, 3)
  | c :: rest =>
    if isDecimalDigit c || (c = '.' && rest.head?.any isDecimalDigit) then number? text
    else if "()\x7b\x7d:,+-".toList.contains c then some (.mark c, 1)
    else
      let word := text.takeWhile continuesName
      let after := text.drop word.length
      if after.head? = some '"' || after.head? = some '\'' then
        (stringAfter? word after).map fun (token, size) => (token, word.length + size)
      else if word.isEmpty then none
      else some (.name word, word.length)

/-- How deep brackets may be nested. -/
def nestingLimit : Nat := 200

def openAfter (depth : Nat) : LiteralToken → Nat
  | .mark c =>
    if c = '(' || c = '\x7b' then depth + 1
    else if c = ')' || c = '\x7d' then depth - 1
    else depth
  | _ => depth

/-- The tokens of a text, where `depth` brackets are open and `skipped` characters belong to a token
that has been read. -/
def tokensAfter? (depth skipped : Nat) (inComment : Bool) : Text → Option (List LiteralToken)
  | [] => some []
  | c :: rest =>
    match skipped with
    | more + 1 => tokensAfter? depth more inComment rest
    | 0 =>
      if c = '\n' then
        let tokens := tokensAfter? depth 0 false rest
        if depth = 0 then tokens.map (.lineEnd :: ·) else tokens
      else if inComment then tokensAfter? depth 0 true rest
      else if c = '#' then tokensAfter? depth 0 true rest
      else if c = ' ' || c = '\t' || c = '\x0c' then tokensAfter? depth 0 false rest
      else if c = '\\' then
        if rest.head? = some '\n' then tokensAfter? depth 1 false rest else none
      else do
        let (token, size) ← next? (c :: rest)
        let depth := openAfter depth token
        if nestingLimit < depth then none
        let tokens ← tokensAfter? depth (size - 1) false rest
        some (token :: tokens)

end LiteralToken

/-- What matters about a literal for where it may stand. -/
inductive LiteralKind where
  /-- A number without a sign. -/
  | number (imaginary : Bool)
  | signedReal
  /-- Another value, which may stand in a set or as the key of a table if it is `fixed`. -/
  | other (fixed : Bool)
  deriving DecidableEq, Repr

namespace LiteralKind

open LiteralToken

/-- Whether a value may stand in a set or as a key. -/
def isFixed : LiteralKind → Bool
  | .other fixed => fixed
  | _ => true

/-- A value that has been read, and the tokens after it. -/
abbrev Found := Option (LiteralKind × List LiteralToken)

mutual

/-- A value without a sign or a sum outside of brackets. -/
def atom? : (fuel : Nat) → List LiteralToken → Found
  | 0, _ => none
  | fuel + 1, tokens =>
    match tokens with
    | .number imaginary :: rest => some (.number imaginary, rest)
    | .string ofBytes :: rest =>
      let rest := rest.dropWhile (· = .string ofBytes)
      if rest.head? = some (.string !ofBytes) then none else some (.other true, rest)
    | .ellipsis :: rest => some (.other true, rest)
    | .name word :: rest =>
      if ["None".toList, "True".toList, "False".toList].contains word then some (.other true, rest)
      else if word = "set".toList then
        match rest with
        | .mark '(' :: .mark ')' :: rest => some (.other false, rest)
        | _ => none
      else none
    | .mark '(' :: .mark ')' :: rest => some (.other true, rest)
    | .mark '(' :: rest => do
      let (kind, rest) ← value? fuel rest
      match rest with
      | .mark ')' :: rest => some (kind, rest)
      | _ =>
        let (fixed, rest) ← othersOf? fuel ')' kind.isFixed rest
        some (.other fixed, rest)
    | .mark '\x7b' :: .mark '\x7d' :: rest => some (.other false, rest)
    | .mark '\x7b' :: rest => do
      let (key, rest) ← value? fuel rest
      match rest with
      | .mark ':' :: _ =>
        let rest ← entriesOf? fuel key rest
        some (.other false, rest)
      | _ =>
        let (fixed, rest) ← othersOf? fuel '\x7d' key.isFixed rest
        if fixed then some (.other false, rest) else none
    | _ => none

/-- A value: an atom, a number with a sign, or the sum of a real and an imaginary number. -/
def value? : (fuel : Nat) → List LiteralToken → Found
  | 0, _ => none
  | fuel + 1, tokens => do
    let (kind, rest) ←
      match tokens with
      | .mark '+' :: rest => signed? fuel rest
      | .mark '-' :: rest => signed? fuel rest
      | _ => atom? fuel tokens
    let isSum := rest.head? = some (.mark '+') || rest.head? = some (.mark '-')
    if !isSum then some (kind, rest)
    else if kind = .number false || kind = .signedReal then
      match atom? fuel (rest.drop 1) with
      | some (.number true, rest) => some (.other true, rest)
      | _ => none
    else none

def signed? : (fuel : Nat) → List LiteralToken → Found
  | 0, _ => none
  | fuel + 1, tokens =>
    match atom? fuel tokens with
    | some (.number imaginary, rest) =>
      some (if imaginary then .other true else .signedReal, rest)
    | _ => none

/-- The values after the first one up to a closing bracket, and whether all are fixed. -/
def othersOf? : (fuel : Nat) → (closing : Char) → (fixed : Bool) → List LiteralToken →
    Option (Bool × List LiteralToken)
  | 0, _, _, _ => none
  | fuel + 1, closing, fixed, tokens =>
    match tokens with
    | .mark ',' :: rest =>
      if rest.head? = some (.mark closing) then some (fixed, rest.drop 1)
      else do
        let (kind, rest) ← value? fuel rest
        othersOf? fuel closing (fixed && kind.isFixed) rest
    | .mark c :: rest => if c = closing then some (fixed, rest) else none
    | _ => none

/-- The entries of a table up to its closing bracket, after the key of the first of them. -/
def entriesOf? : (fuel : Nat) → (key : LiteralKind) → List LiteralToken →
    Option (List LiteralToken)
  | 0, _, _ => none
  | fuel + 1, key, tokens =>
    match tokens with
    | .mark ':' :: rest =>
      if !key.isFixed then none
      else do
        let (_, rest) ← value? fuel rest
        match rest with
        | .mark '\x7d' :: rest => some rest
        | .mark ',' :: .mark '\x7d' :: rest => some rest
        | .mark ',' :: rest =>
          let (key, rest) ← value? fuel rest
          entriesOf? fuel key rest
        | _ => none
    | _ => none

end

/-- Whether tokens are one value, or values with commas after them. -/
def isWhole (tokens : List LiteralToken) : Bool :=
  let fuel := 4 * tokens.length + 4
  match value? fuel tokens with
  | none => false
  | some (_, rest) =>
    (othersOf? fuel ')' true (rest ++ [.mark ')'])).any fun (_, rest) => rest.isEmpty

end LiteralKind

def isLiteral (text : Text) : Bool :=
  match if text.contains '\x00' then none
    else LiteralToken.tokensAfter? 0 0 false text.unifyNewlines with
  | none => false
  | some tokens =>
    let tokens := tokens.dropWhile (· = .lineEnd)
    let ends := (tokens.reverse.takeWhile (· = .lineEnd)).length
    LiteralKind.isWhole (tokens.take (tokens.length - ends))

end ProjectSurvey.Terminal
