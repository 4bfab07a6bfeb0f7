/-! Text is a sequence of Unicode scalar values. What it means for a text to contain another, and
how a text falls into lines, is settled here once for the whole survey. -/

namespace ProjectSurvey

/-- A sequence of characters, so that lengths and cuts count characters. -/
abbrev Text := List Char

instance : Coe String Text := ⟨String.toList⟩

namespace Text

/-- Whether `needle` stands somewhere in a text. -/
def occursIn (needle : Text) : Text → Bool
  | [] => needle.isEmpty
  | c :: rest => needle.isPrefixOf (c :: rest) || needle.occursIn rest

def anyOccursIn (needles : List Text) (text : Text) : Bool :=
  needles.any fun needle => needle.occursIn text

/-- The pieces between the characters that separate: one more than there are such characters. -/
def splitWhere (separates : Char → Bool) (text : Text) : List Text :=
  text.foldr
    (fun c found =>
      if separates c then [] :: found
      else match found with
        | [] => [[c]]
        | piece :: others => (c :: piece) :: others)
    [[]]

/-- The pieces between the separators: one more than there are separators. -/
def pieces (separator : Char) (text : Text) : List Text :=
  splitWhere (· = separator) text

/-- The lines of a text; a text that ends in a line feed has an empty last line. -/
def lines (text : Text) : List Text :=
  text.pieces '\n'

/-- The texts one after another with `separator` between them. -/
def join (separator : Text) (texts : List Text) : Text :=
  separator.intercalate texts

/-- The lines with a line feed between them. -/
def unlines (lines : List Text) : Text :=
  join "\n" lines

/-- A text cut at the first separator, which is dropped; nothing after it when there is none. -/
def cutAt (separator : Char) (text : Text) : Text × Option Text :=
  match text.dropWhile (· != separator) with
  | [] => (text, none)
  | _ :: after => (text.takeWhile (· != separator), some after)

/-- A text without the characters at its end for which `drop` holds. -/
def trimEnd (drop : Char → Bool) (text : Text) : Text :=
  (text.reverse.dropWhile drop).reverse

/-- A text without the characters at either end for which `drop` holds. -/
def trim (drop : Char → Bool) (text : Text) : Text :=
  trimEnd drop (text.dropWhile drop)

def ofNat (n : Nat) : Text :=
  Nat.toDigits 10 n

/-- The decimal digits of a number, after a minus sign when it is negative. -/
def ofInt (n : Int) : Text :=
  if n < 0 then '-' :: ofNat n.natAbs else ofNat n.natAbs

/-- A number of at least `width` digits of a base up to sixteen, filled with zeros in front. -/
def padded (base width : Nat) (n : Nat) : Text :=
  let digits := Nat.toDigits base n
  List.replicate (width - digits.length) '0' ++ digits

end Text

def isDecimalDigit (c : Char) : Bool :=
  '0' ≤ c && c ≤ '9'

def isAlphanumeric (c : Char) : Bool :=
  isDecimalDigit c || ('a' ≤ c && c ≤ 'z') || ('A' ≤ c && c ≤ 'Z')

def decimalValue (digits : Text) : Nat :=
  digits.foldl (fun value c => 10 * value + (c.toNat - '0'.toNat)) 0

/-- The value of a hexadecimal digit of either case. -/
def hexadecimalDigit? (c : Char) : Option Nat :=
  if isDecimalDigit c then some (c.toNat - '0'.toNat)
  else if 'a' ≤ c && c ≤ 'f' then some (c.toNat - 'a'.toNat + 10)
  else if 'A' ≤ c && c ≤ 'F' then some (c.toNat - 'A'.toNat + 10)
  else none

/-- The number that a sequence of hexadecimal digits stands for, if it holds nothing else. -/
def hexadecimalValue? (digits : Text) : Option Nat :=
  digits.foldlM (fun value c => (hexadecimalDigit? c).map (16 * value + ·)) 0

end ProjectSurvey
