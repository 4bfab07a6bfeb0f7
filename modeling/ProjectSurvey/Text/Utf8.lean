import ProjectSurvey.Text.Basic

/-! UTF-8: writing a text as bytes, and reading bytes back strictly. Reading refuses overlong
forms, surrogates and values above U+10FFFF, and says where and why it stopped. -/

namespace ProjectSurvey

abbrev Bytes := List UInt8

namespace Utf8

inductive Reason where
  | badStart
  | badContinuation
  | truncated
  deriving DecidableEq, Repr

/-- The first place where bytes are not UTF-8: the offending bytes run from `start` up to but not
including `stop`, and `first` is the one at `start`. -/
structure Malformed where
  start : Nat
  stop : Nat
  first : UInt8
  reason : Reason
  deriving DecidableEq, Repr

def Reason.message : Reason → Text
  | .badStart => "invalid start byte"
  | .badContinuation => "invalid continuation byte"
  | .truncated => "unexpected end of data"

def Malformed.message (fault : Malformed) : Text :=
  if fault.stop = fault.start + 1 then
    "'utf-8' codec can't decode byte 0x" ++ Text.padded 16 2 fault.first.toNat ++ " in position "
      ++ Text.ofNat fault.start ++ ": " ++ fault.reason.message
  else
    "'utf-8' codec can't decode bytes in position " ++ Text.ofNat fault.start ++ "-"
      ++ Text.ofNat (fault.stop - 1) ++ ": " ++ fault.reason.message

/-- The one to four bytes of a character. -/
def encodeChar (c : Char) : Bytes :=
  let n := c.toNat
  if n < 0x80 then [n.toUInt8]
  else if n < 0x800 then [(0xC0 + n / 0x40).toUInt8, (0x80 + n % 0x40).toUInt8]
  else if n < 0x10000 then
    [(0xE0 + n / 0x1000).toUInt8, (0x80 + n / 0x40 % 0x40).toUInt8, (0x80 + n % 0x40).toUInt8]
  else
    [(0xF0 + n / 0x40000).toUInt8, (0x80 + n / 0x1000 % 0x40).toUInt8,
      (0x80 + n / 0x40 % 0x40).toUInt8, (0x80 + n % 0x40).toUInt8]

def encode (text : Text) : Bytes :=
  text.flatMap encodeChar

/-- Whether a byte may stand second or later in a character. -/
def isContinuation (b : UInt8) : Bool :=
  0x80 ≤ b && b < 0xC0

/-- The least value of the second byte after `lead`, which rules out overlong forms. -/
def leastSecond (lead : UInt8) : UInt8 :=
  if lead = 0xE0 then 0xA0 else if lead = 0xF0 then 0x90 else 0x80

/-- The greatest value of the second byte after `lead`, which rules out surrogates and values
above U+10FFFF. -/
def greatestSecond (lead : UInt8) : UInt8 :=
  if lead = 0xED then 0x9F else if lead = 0xF4 then 0x8F else 0xBF

def secondFits (lead b : UInt8) : Bool :=
  leastSecond lead ≤ b && b ≤ greatestSecond lead

/-- The six bits that a continuation byte carries. -/
def payload (b : UInt8) : Nat :=
  b.toNat % 0x40

/-- Reads the bytes from position `position` on; `done` holds the characters before it,
backwards. -/
def decodeOnto (done : Text) (position : Nat) : Bytes → Except Malformed Text
  | [] => .ok done.reverse
  | a :: rest =>
    if a < 0x80 then decodeOnto (Char.ofNat a.toNat :: done) (position + 1) rest
    else if a < 0xC2 || 0xF4 < a then .error ⟨position, position + 1, a, .badStart⟩
    else match rest with
      | [] => .error ⟨position, position + 1, a, .truncated⟩
      | b :: rest =>
        if !secondFits a b then .error ⟨position, position + 1, a, .badContinuation⟩
        else if a < 0xE0 then
          decodeOnto (Char.ofNat (a.toNat % 0x20 * 0x40 + payload b) :: done) (position + 2) rest
        else match rest with
          | [] => .error ⟨position, position + 2, a, .truncated⟩
          | c :: rest =>
            if !isContinuation c then .error ⟨position, position + 2, a, .badContinuation⟩
            else if a < 0xF0 then
              decodeOnto
                (Char.ofNat (a.toNat % 0x10 * 0x1000 + payload b * 0x40 + payload c) :: done)
                (position + 3) rest
            else match rest with
              | [] => .error ⟨position, position + 3, a, .truncated⟩
              | d :: rest =>
                if !isContinuation d then .error ⟨position, position + 3, a, .badContinuation⟩
                else
                  decodeOnto
                    (Char.ofNat (a.toNat % 0x08 * 0x40000 + payload b * 0x1000 + payload c * 0x40
                      + payload d) :: done)
                    (position + 4) rest

def decode (bytes : Bytes) : Except Malformed Text :=
  decodeOnto [] 0 bytes

end Utf8

/-- Every carriage return followed by a line feed, and every other carriage return, becomes one
line feed. -/
def Text.unifyNewlines (text : Text) : Text :=
  ((' ' :: text).zip text).filterMap fun (before, c) =>
    if c = '\r' then some '\n'
    else if c = '\n' && before = '\r' then none
    else some c

end ProjectSurvey
