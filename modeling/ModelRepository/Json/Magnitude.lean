import ModelRepository.Json.Lexeme
import ModelRepository.Text.Numeral

/-! How large a number is to a reader in double precision.
The digits of a number are gathered while they fit into 64 bits. The gathered number and the power
of ten that belongs to it are rounded each for itself before they are multiplied, so a number at
the end of the range can count as too large although it is not, and the other way round.
-/

namespace ModelRepository.Json

open Binary (Bytes)

/-- A number in the form `digits * 10 ^ exponent`. -/
structure Decimal where
  digits : Nat
  exponent : Int
  deriving DecidableEq

/-- The number that a decimal digit stands for. -/
def digitValue (digit : UInt8) : Nat :=
  digit.toNat - 48

/-- Gathers decimal digits behind `number` up to the first one that makes it too large. Gives back
the number and the digits that are left. -/
def gather (number : Nat) : Bytes → Nat × Bytes
  | [] => (number, [])
  | digit :: rest =>
      let next := number * 10 + digitValue digit
      if next ≤ Text.maxWord64 then gather next rest else (number, digit :: rest)

/-- The number that the digits of an exponent stand for. More than ten digits stand for a number
that is larger than the length of every text. -/
def exponentValue (digits : Bytes) : Nat :=
  let digits := digits.dropWhile (· = 48)
  if 10 < digits.length then 10000000000 else (gather 0 digits).1

/-- The size of a number as far as its digits are gathered; the sign does not count. Digits of the
whole part that are left over still count for the exponent. -/
def Decimal.ofNumber (raw : Bytes) : Decimal :=
  let raw := if raw.head? = some 45 then raw.drop 1 else raw
  let (whole, rest) := raw.span isDigit
  let (fraction, rest) := if rest.head? = some 46 then (rest.drop 1).span isDigit else ([], rest)
  let (negative, power) := match rest.drop 1 with
    | 45 :: power => (true, power)
    | 43 :: power => (false, power)
    | power => (false, power)
  let (digits, wholeLeft) := gather 0 whole
  let (digits, fractionLeft) := gather digits fraction
  let scale := Int.ofNat (exponentValue power)
  { digits
    exponent := Int.ofNat wholeLeft.length - Int.ofNat (fraction.length - fractionLeft.length)
      + if negative then -scale else scale }

/-- A number rounded to 53 binary digits; a tie goes to the even neighbour. -/
def roundToDouble (number : Nat) : Nat :=
  let excess := number.log2 + 1 - 53
  let kept := number >>> excess
  let rest := number - kept <<< excess
  let unit := 1 <<< excess
  let up := unit < 2 * rest || (2 * rest = unit && kept % 2 = 1)
  (if up then kept + 1 else kept) <<< excess

/-- The smallest whole number that rounds to infinity in double precision. -/
def overflowBound : Nat :=
  1 <<< 1024 - 1 <<< 970

/-- The greatest power of ten within the range of double precision. -/
def maxPowerOfTen : Nat := 308

/-- Whether a number counts as one beyond the range of double precision. -/
def Decimal.overflows (decimal : Decimal) : Bool :=
  if decimal.digits = 0 || decimal.exponent ≤ 0 then false
  else if maxPowerOfTen < decimal.exponent then true
  else
    overflowBound ≤
      roundToDouble decimal.digits * roundToDouble (Nat.pow 10 decimal.exponent.toNat)

end ModelRepository.Json
