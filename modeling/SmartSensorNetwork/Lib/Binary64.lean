import SmartSensorNetwork.Lib.CppStd

/-!
# IEEE 754 binary64 by bit patterns

Comparison, subtraction, decimal literals and the default stream format of
`double`, rounding to nearest with ties to even. Every finite pattern stands
for a whole number of units of `2 ^ -1074`, so the exact value is an integer
and each result is rounded once.
-/

namespace CppStd

namespace Binary64

def signBit (bits : UInt64) : Bool := 2 ^ 63 ≤ bits.toNat

def exponent (bits : UInt64) : ℕ := bits.toNat / 2 ^ 52 % 2 ^ 11

def fraction (bits : UInt64) : ℕ := bits.toNat % 2 ^ 52

def isNaN (bits : UInt64) : Bool := exponent bits = 2047 && fraction bits ≠ 0

def isInfinite (bits : UInt64) : Bool := exponent bits = 2047 && fraction bits = 0

/-- The magnitude in units of `2 ^ -1074`. For an infinity it is larger than
for any finite pattern. -/
def units (bits : UInt64) : ℕ :=
  if exponent bits = 0 then fraction bits
  else (2 ^ 52 + fraction bits) * 2 ^ (exponent bits - 1)

def signedUnits (bits : UInt64) : ℤ :=
  if signBit bits then -(units bits : ℤ) else units bits

def lt (a b : UInt64) : Bool := !isNaN a && !isNaN b && signedUnits a < signedUnits b

def le (a b : UInt64) : Bool := !isNaN a && !isNaN b && signedUnits a ≤ signedUnits b

/-! ## Rounding -/

/-- `num / den` rounded to an integer, half to even. -/
def roundHalfEven (num den : ℕ) : ℕ :=
  let q := num / den
  let twice := 2 * (num % den)
  if den < twice ∨ twice = den ∧ q % 2 = 1 then q + 1 else q

def infinity : ℕ := 2047 * 2 ^ 52

def quietNaN : UInt64 := UInt64.ofNat (2047 * 2 ^ 52 + 2 ^ 51)

/-- The pattern nearest to `num / den` units. A carry out of the 53 bits of
the significand moves into the exponent field by itself. -/
def ofUnits (num den : ℕ) : ℕ :=
  let k := Nat.log2 (num / den) - 52
  min infinity (k * 2 ^ 52 + roundHalfEven num (den * 2 ^ k))

def withSign (negative : Bool) (magnitude : ℕ) : UInt64 :=
  UInt64.ofNat (if negative then 2 ^ 63 + magnitude else magnitude)

def ofScientific (mantissa : ℕ) (negativeExponent : Bool) (e : ℕ) : UInt64 :=
  withSign false
    (if negativeExponent then ofUnits (mantissa * 2 ^ 1074) (10 ^ e)
    else ofUnits (mantissa * 10 ^ e * 2 ^ 1074) 1)

def sub (a b : UInt64) : UInt64 :=
  if isNaN a || isNaN b then quietNaN
  else if isInfinite a then
    if isInfinite b && signBit a = signBit b then quietNaN else a
  else if isInfinite b then withSign (!signBit b) infinity
  else
    let difference := signedUnits a - signedUnits b
    -- a zero difference is negative only as (-0) - (+0)
    let negative :=
      if difference = 0 then signBit a && !signBit b && units a = 0 else difference < 0
    withSign negative (ofUnits difference.natAbs 1)

/-! ## Printing -/

def decimalExponent (num den : ℕ) : ℤ :=
  if den ≤ num then Nat.log 10 (num / den) else -(Nat.clog 10 ((den + num - 1) / num) : ℤ)

def significantDigits (num den : ℕ) : ℕ × ℤ :=
  let e := decimalExponent num den
  let digits :=
    if 5 ≤ e then roundHalfEven num (den * 10 ^ (e - 5).toNat)
    else roundHalfEven (num * 10 ^ (5 - e).toNat) den
  if digits = 10 ^ 6 then (10 ^ 5, e + 1) else (digits, e)

/-- `%g` drops the zeros at the end of the fraction. -/
def dropTrailingZeros (digits : ByteString) : ByteString :=
  (digits.reverse.dropWhile (· = 48)).reverse

def withFraction (whole fraction : ByteString) : ByteString :=
  if fraction = [] then whole else whole ++ ascii "." ++ fraction

def formatPositive (num den : ℕ) : ByteString :=
  let (digits, e) := significantDigits num den
  let text := to_string digits
  if e < -4 ∨ 6 ≤ e then
    let exponent := to_string e.natAbs
    withFraction (text.take 1) (dropTrailingZeros (text.drop 1)) ++
      ascii (if e < 0 then "e-" else "e+") ++
      List.replicate (2 - exponent.length) 48 ++ exponent
  else if e < 0 then
    withFraction (ascii "0")
      (dropTrailingZeros (List.replicate (-e - 1).toNat 48 ++ text))
  else withFraction (text.take (e.toNat + 1)) (dropTrailingZeros (text.drop (e.toNat + 1)))

/-- `std::ostream::operator<<(double)`: `%g` with six significant digits. -/
def print (bits : UInt64) : ByteString :=
  (if signBit bits then ascii "-" else []) ++
    if isNaN bits then ascii "nan"
    else if isInfinite bits then ascii "inf"
    else if units bits = 0 then ascii "0"
    else formatPositive (units bits) (2 ^ 1074)

end Binary64

end CppStd
