import ProjectSurvey.Json.Parser
import ProjectSurvey.Text.Utf8

/-! JSON from bytes in UTF-8, UTF-16 or UTF-32. A byte order mark names the encoding; without one
it shows in the zero bytes among the first four. -/

namespace ProjectSurvey.Json

inductive Encoding where
  | utf8
  | utf16 (bigEndian : Bool)
  | utf32 (bigEndian : Bool)
  deriving DecidableEq, Repr

/-- The encoding of bytes, and the number of bytes of the mark that names it. -/
def encodingOf (bytes : Bytes) : Encoding × Nat :=
  if [0, 0, 0xFE, 0xFF].isPrefixOf bytes then (.utf32 true, 4)
  else if [0xFF, 0xFE, 0, 0].isPrefixOf bytes then (.utf32 false, 4)
  else if [0xFE, 0xFF].isPrefixOf bytes then (.utf16 true, 2)
  else if [0xFF, 0xFE].isPrefixOf bytes then (.utf16 false, 2)
  else if [0xEF, 0xBB, 0xBF].isPrefixOf bytes then (.utf8, 3)
  else match bytes with
    | a :: b :: c :: d :: _ =>
      if a = 0 then (if b = 0 then .utf32 true else .utf16 true, 0)
      else if b = 0 then (if c = 0 && d = 0 then .utf32 false else .utf16 false, 0)
      else (.utf8, 0)
    | [a, b] => (if a = 0 then .utf16 true else if b = 0 then .utf16 false else .utf8, 0)
    | _ => (.utf8, 0)

/-- Bytes in which encoded surrogates are replaced by the characters that stand for them. -/
def keepSurrogates : Bytes → Bytes
  | 0xED :: b :: c :: rest =>
    if 0xA0 ≤ b && b < 0xC0 && Utf8.isContinuation c then
      Utf8.encodeChar (Text.charOf (0xD000 + Utf8.payload b * 0x40 + Utf8.payload c))
        ++ keepSurrogates rest
    else 0xED :: keepSurrogates (b :: c :: rest)
  | b :: rest => b :: keepSurrogates rest
  | [] => []

/-- Pairs of bytes as numbers, unless one byte is left over. -/
def units16? (bigEndian : Bool) : Bytes → Option (List Nat)
  | [] => some []
  | [_] => none
  | a :: b :: rest =>
    let unit := if bigEndian then a.toNat * 0x100 + b.toNat else b.toNat * 0x100 + a.toNat
    (units16? bigEndian rest).map (unit :: ·)

/-- The characters of units of sixteen bits. -/
def charsOfUnits : List Nat → Text
  | high :: low :: rest =>
    if Text.isHighSurrogate high && Text.isLowSurrogate low then
      Char.ofNat (Text.joinSurrogates high low) :: charsOfUnits rest
    else Text.charOf high :: charsOfUnits (low :: rest)
  | [unit] => [Text.charOf unit]
  | [] => []

/-- The characters of groups of four bytes, unless a group is incomplete or too large. -/
def chars32? (bigEndian : Bool) : Bytes → Option Text
  | [] => some []
  | a :: b :: c :: d :: rest =>
    let bytes := if bigEndian then [a, b, c, d] else [d, c, b, a]
    let unit := bytes.foldl (fun value byte => value * 0x100 + byte.toNat) 0
    if 0x10FFFF < unit then none else (chars32? bigEndian rest).map (Text.charOf unit :: ·)
  | _ => none

def decodeBytes? (bytes : Bytes) : Option Text :=
  let (encoding, mark) := encodingOf bytes
  let content := bytes.drop mark
  match encoding with
  | .utf8 => (Utf8.decode (keepSurrogates content)).toOption
  | .utf16 bigEndian => (units16? bigEndian content).map charsOfUnits
  | .utf32 bigEndian => chars32? bigEndian content

end ProjectSurvey.Json
