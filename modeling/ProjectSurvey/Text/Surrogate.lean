import ProjectSurvey.Text.Basic

/-! Halves of surrogate pairs. Two of them stand for one character. One alone is no character, yet a
text may hold it: a private character of the last plane then stands in its place. Such a text can be
written with escapes, but not in UTF-8. -/

namespace ProjectSurvey.Text

def isHighSurrogate (n : Nat) : Bool :=
  0xD800 ≤ n && n < 0xDC00

def isLowSurrogate (n : Nat) : Bool :=
  0xDC00 ≤ n && n < 0xE000

def isSurrogate (n : Nat) : Bool :=
  isHighSurrogate n || isLowSurrogate n

/-- The code point that a pair stands for. -/
def joinSurrogates (high low : Nat) : Nat :=
  0x10000 + (high - 0xD800) * 0x400 + (low - 0xDC00)

/-- How far the character that stands for a lone surrogate lies above it. -/
def standInDistance : Nat := 0x100000

/-- The character of a code point, or the one that stands for a lone surrogate. -/
def charOf (n : Nat) : Char :=
  Char.ofNat (if isSurrogate n then n + standInDistance else n)

def surrogate? (c : Char) : Option Nat :=
  let n := c.toNat - standInDistance
  if standInDistance ≤ c.toNat && isSurrogate n then some n else none

/-- The number of a character, or of the lone surrogate that it stands for. -/
def codePoint (c : Char) : Nat :=
  (surrogate? c).getD c.toNat

/-- A text with escapes in place of lone surrogates. -/
def withEscapedSurrogates (text : Text) : Text :=
  text.flatMap fun c =>
    match surrogate? c with
    | some n => "\\u" ++ padded 16 4 n
    | none => [c]

/-- Lone surrogates for which a text cannot be encoded: they run from `start` up to but not including
`stop`, and `first` is the one at `start`. -/
structure Unencodable where
  start : Nat
  stop : Nat
  first : Nat
  deriving DecidableEq, Repr

/-- The first lone surrogate that is refused, with those that follow it at once. -/
def unencodable? (isRefused : Nat → Bool) (text : Text) : Option Unencodable :=
  let start := text.findIdx fun c => (surrogate? c).any isRefused
  match text.drop start with
  | [] => none
  | c :: rest =>
    let more := rest.takeWhile fun d => (surrogate? d).isSome
    some ⟨start, start + 1 + more.length, codePoint c⟩

def Unencodable.message (fault : Unencodable) : Text :=
  let reason : Text := ": surrogates not allowed"
  if fault.stop = fault.start + 1 then
    "'utf-8' codec can't encode character '\\u" ++ padded 16 4 fault.first ++ "' in position "
      ++ ofNat fault.start ++ reason
  else
    "'utf-8' codec can't encode characters in position " ++ ofNat fault.start ++ "-"
      ++ ofNat (fault.stop - 1) ++ reason

end ProjectSurvey.Text
