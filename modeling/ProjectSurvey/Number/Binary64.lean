import ProjectSurvey.Text.Basic

/-! Binary floating-point numbers of 64 bits: the nearest one to a decimal, and the shortest
decimal that reads back as a given one. Both are found in exact natural-number arithmetic. -/

namespace ProjectSurvey

/-- A floating-point number as its 64 bits: sign, eleven bits of exponent, fraction. -/
structure Binary64 where
  bits : UInt64
  deriving DecidableEq, Repr

namespace Binary64

def infinity : Binary64 := ⟨0x7FF0000000000000⟩

def nan : Binary64 := ⟨0x7FF8000000000000⟩

def negate (x : Binary64) : Binary64 :=
  ⟨x.bits ^^^ 0x8000000000000000⟩

def isNegative (x : Binary64) : Bool :=
  0x8000000000000000 ≤ x.bits

/-- The bits without the sign. -/
def magnitude (x : Binary64) : Nat :=
  x.bits.toNat % 0x8000000000000000

def isZero (x : Binary64) : Bool :=
  x.magnitude == 0

def twoTo (power : Nat) : Nat := Nat.pow 2 power

def tenTo (power : Nat) : Nat := Nat.pow 10 power

/-- The quotient rounded to the nearest whole number, a half to the even neighbour. -/
def roundedQuotient (numerator denominator : Nat) : Nat :=
  let floor := numerator / denominator
  let twice := 2 * (numerator % denominator)
  if denominator < twice || (twice = denominator && floor % 2 = 1) then floor + 1 else floor

/-- The quotient divided by a power of two, as a numerator and a denominator. -/
def scaled (numerator denominator : Nat) (power : Int) : Nat × Nat :=
  if 0 ≤ power then (numerator, denominator * twoTo power.toNat)
  else (numerator * twoTo (-power).toNat, denominator)

/-- The nearest number to a positive quotient. -/
def ofQuotient (numerator denominator : Nat) : Binary64 :=
  let guess := max ((numerator.log2 : Int) - denominator.log2 - 53) (-1074)
  let (n, d) := scaled numerator denominator guess
  let power := if n / d < twoTo 53 then guess else guess + 1
  let (n, d) := scaled numerator denominator power
  let significand := roundedQuotient n d
  let (significand, power) :=
    if significand < twoTo 53 then (significand, power) else (twoTo 52, power + 1)
  if significand < twoTo 52 then ⟨significand.toUInt64⟩
  else
    let exponent := (power + 1075).toNat
    if 2047 ≤ exponent then infinity
    else ⟨(exponent * twoTo 52 + (significand - twoTo 52)).toUInt64⟩

/-- The nearest number to `digits · 10 ^ exponent`. -/
def ofDecimal (digits : Nat) (exponent : Int) : Binary64 :=
  if digits = 0 then ⟨0⟩
  else
    let places := (Nat.toDigits 10 digits).length + exponent
    if 400 < places then infinity
    else if places < -400 then ⟨0⟩
    else if 0 ≤ exponent then ofQuotient (digits * tenTo exponent.toNat) 1
    else ofQuotient digits (tenTo (-exponent).toNat)

def ofInt (n : Int) : Binary64 :=
  if n < 0 then (ofDecimal n.natAbs 0).negate else ofDecimal n.natAbs 0

/-- The significand and the power of two of a finite magnitude. -/
def significandAndPower (x : Binary64) : Nat × Int :=
  let exponent : Nat := x.magnitude / twoTo 52
  let fraction : Nat := x.magnitude % twoTo 52
  if exponent = 0 then (fraction, -1074) else (twoTo 52 + fraction, (exponent : Int) - 1075)

def isNan (x : Binary64) : Bool :=
  0x7FF0000000000000 < x.magnitude

def toInt? (x : Binary64) : Option Int :=
  if 0x7FF0000000000000 ≤ x.magnitude then none
  else
    let (significand, power) := x.significandAndPower
    let size? : Option Nat :=
      if 0 ≤ power then some (significand * twoTo power.toNat)
      else if significand % twoTo (-power).toNat = 0 then some (significand / twoTo (-power).toNat)
      else none
    size?.map fun size => if x.isNegative then -(size : Int) else size

/-- The decimals `digits · 10 ^ exponent` with one grid of exponents, both neighbours of a value;
all sides are in units of a quarter of the last binary place. -/
structure Neighbours where
  exponent : Int
  /-- The floor of the value on the grid. -/
  below : Nat
  /-- The value times `scale` is `value`, and a grid step times `scale` is `step`. -/
  step : Nat
  value : Nat
  lowEnd : Nat
  highEnd : Nat

/-- The value of `x` between its two neighbours among the multiples of `10 ^ exponent`. -/
def neighboursAt (x : Binary64) (exponent : Int) : Neighbours :=
  let (significand, power) := x.significandAndPower
  let lowGap : Nat := if significand = twoTo 52 && -1074 < power then 1 else 2
  let twos := power - 2
  let scale := twoTo twos.toNat * tenTo (-exponent).toNat
  let step := twoTo (-twos).toNat * tenTo exponent.toNat
  let value := 4 * significand * scale
  ⟨exponent, value / step, step, value, (4 * significand - lowGap) * scale,
    (4 * significand + 2) * scale⟩

/-- The neighbour that reads back as `x`, the nearer one if both do. -/
def Neighbours.hit? (near : Neighbours) (endsIncluded : Bool) : Option Nat :=
  let reads (digits : Nat) : Bool :=
    let point := digits * near.step
    if endsIncluded then near.lowEnd ≤ point && point ≤ near.highEnd
    else near.lowEnd < point && point < near.highEnd
  let above := near.below + 1
  match reads near.below, reads above with
  | true, false => some near.below
  | false, true => some above
  | false, false => none
  | true, true =>
    let short := near.value - near.below * near.step
    let excess := above * near.step - near.value
    some (if short < excess || (short = excess && near.below % 2 = 0) then near.below else above)

/-- The number of digits before the decimal point of a positive finite number; zero or less for
the place of its first digit after the point. -/
def pointPlace (x : Binary64) : Int :=
  let near := x.neighboursAt 0
  if 0 < near.below then (Nat.toDigits 10 near.below).length
  else
    let zeros := (List.range 400).find? fun n => 0 < (x.neighboursAt (Int.negSucc n)).below
    Int.neg (zeros.getD 0)

/-- The fewest decimal digits that read back as a positive finite number, and the exponent of the
last of them. -/
def shortestDecimal (x : Binary64) : Nat × Int :=
  let even := x.significandAndPower.1 % 2 = 0
  let found := (List.range 17).findSome? fun n =>
    let exponent := x.pointPlace - Int.ofNat (n + 1)
    ((x.neighboursAt exponent).hit? even).map fun digits => (digits, exponent)
  found.getD (0, 0)

/-- Digits without the zeros at their end, which raise the exponent. -/
def dropZeros (digits : Text) (exponent : Int) : Text × Int :=
  let zeros := (digits.reverse.takeWhile (· = '0')).length
  (digits.take (digits.length - zeros), exponent + zeros)

/-- A positive finite number in the fewest digits: with a decimal point while that stands at most
sixteen digits to the right and four zeros to the left, else with an exponent of at least two
digits. -/
def positiveText (x : Binary64) : Text :=
  let (value, exponent) := x.shortestDecimal
  let (digits, exponent) := dropZeros (Text.ofNat value) exponent
  let place := digits.length + exponent
  if -4 < place && place ≤ 16 then
    if place ≤ 0 then "0." ++ List.replicate (-place).toNat '0' ++ digits
    else if exponent ≥ 0 then digits ++ List.replicate exponent.toNat '0' ++ ".0"
    else digits.take place.toNat ++ "." ++ digits.drop place.toNat
  else
    let power := place - 1
    let fraction := if digits.length ≤ 1 then [] else '.' :: digits.drop 1
    digits.take 1 ++ fraction ++ "e" ++ (if power < 0 then "-" else "+")
      ++ Text.padded 10 2 power.natAbs

/-- How numbers that are not finite are spelled. -/
structure Spelling where
  nan : Text
  infinity : Text

/-- A number in the fewest digits that read back. -/
def toText (spelling : Spelling) (x : Binary64) : Text :=
  if x.isNan then spelling.nan
  else
    let size :=
      if x.magnitude = 0x7FF0000000000000 then spelling.infinity
      else if x.isZero then "0.0"
      else positiveText ⟨x.magnitude.toUInt64⟩
    if x.isNegative then '-' :: size else size

end Binary64

end ProjectSurvey
