import ModelRepository.Text.Hex
import ModelRepository.Text.Numeral

/-! Values of TOML that are written without quotes.
Only whole numbers of up to 64 bits keep what they stand for. Fractions, truth values, dates and
times are told apart from words that are no value at all. The form of a whole number is checked at
its front and around its underscores only, so some words pass that stand for no number; they are
values that no setting has.
-/

namespace ModelRepository.Toml

open Text (digitValue?)

/-- An unquoted value. -/
inductive Scalar where
  | integer (value : Int)
  /-- A value of a kind that no setting has. -/
  | foreign
  deriving DecidableEq

/-- What every number beyond 64 bits is read as; no setting is that large. -/
def beyondWord : Nat :=
  Text.maxWord64 + 1

/-- Whether a character is a decimal digit. -/
def isDecimal (c : Char) : Bool :=
  (digitValue? c).isSome

/-- Whether a character is a hexadecimal digit. -/
def isHexadecimal (c : Char) : Bool :=
  (Text.hexValue? c).isSome

/-- Whether every underscore stands between two digits; `divisible` tells whether what stands in
front of the word counts as a digit. A sign does. -/
def groupsDigits (isDigit : Char → Bool) (divisible : Bool) : List Char → Bool
  | [] => true
  | ['_'] => false
  | '_' :: c :: rest => divisible && isDigit c && groupsDigits isDigit true rest
  | c :: rest => groupsDigits isDigit (isDigit c) rest

/-- The number behind `value` when further digits of a base follow. -/
def readDigitsIn (base value : Nat) : List Char → Option Nat
  | [] => some value
  | c :: rest =>
      match Text.hexValue? c with
      | some digit =>
          if digit < base then readDigitsIn base (min (value * base + digit) beyondWord) rest
          else none
      | none => none

/-- The number that digits of a base stand for; underscores among them do not count. -/
def digitsIn? (base : Nat) (word : List Char) : Option Nat :=
  match word.filter (· ≠ '_') with
  | [] => none
  | digits => readDigitsIn base 0 digits

/-- The sign in front of a word, as a factor, and what follows it. -/
def signed? (word : List Char) : Option (Int × List Char) :=
  match word with
  | '-' :: rest => some (-1, rest)
  | '+' :: rest => some (1, rest)
  | _ => none

/-- A word without the sign in front of it. -/
def unsigned (word : List Char) : List Char :=
  ((signed? word).map Prod.snd).getD word

/-- A whole number in decimal digits, which stands for nothing where other characters follow. -/
def decimalNumber (word : List Char) : Scalar :=
  let (sign, digits) := (signed? word).getD (1, word)
  match digitsIn? 10 digits with
  | some value => .integer (sign * Int.ofNat value)
  | none => .foreign

/-- What the digits of a base stand for behind the mark of the base. There may be none, and then it
is nothing. -/
def basedNumber? (base : Nat) (digits : List Char) : Option Scalar :=
  let isDigit (c : Char) : Bool := (Text.hexValue? c).any (· < base)
  if (digits.all fun c => isDigit c || c = '_') && groupsDigits isHexadecimal false digits then
    some (((digitsIn? base digits).map fun value => Scalar.integer (Int.ofNat value)).getD .foreign)
  else none

/-- What follows the decimal digits, underscores among them, at the front of a word. There has to
be a digit, and unless `padded` two or more do not begin with a zero. -/
def afterDigits? (padded : Bool) (word : List Char) : Option (List Char) :=
  let isPart (c : Char) : Bool := isDecimal c || c = '_'
  let count := ((word.takeWhile isPart).filter isDecimal).length
  if count = 0 || (!padded && 1 < count && word.head? = some '0') then none
  else some (word.dropWhile isPart)

/-- What follows an exponent, if there is one: its letter, its sign and its digits. -/
def afterExponent? : List Char → Option (List Char)
  | [] => some []
  | c :: rest => if c = 'e' ∨ c = 'E' then afterDigits? true (unsigned rest) else none

/-- Whether a word without a sign is a number with a fraction, an exponent, or both. -/
def isFraction (word : List Char) : Bool :=
  ((afterDigits? false word).bind fun rest =>
    match rest with
    | '.' :: fraction => (afterDigits? true fraction).bind afterExponent?
    | rest => afterExponent? rest) = some []

/-- Two digits that stand for a number between the bounds, and what follows them. -/
def twoDigits? (least greatest : Nat) : List Char → Option (Nat × List Char)
  | a :: b :: rest =>
      match digitValue? a, digitValue? b with
      | some tens, some ones =>
          let value := tens * 10 + ones
          if least ≤ value ∧ value ≤ greatest then some (value, rest) else none
      | _, _ => none
  | _ => none

/-- The last day of a month. -/
def lastDay (year month : Nat) : Nat :=
  if month = 2 then
    if year % 4 = 0 ∧ (year % 100 ≠ 0 ∨ year % 400 = 0) then 29 else 28
  else if [4, 6, 9, 11].contains month then 30
  else 31

/-- What follows a date at the front of a word. -/
def afterDate? (word : List Char) : Option (List Char) := do
  let (century, rest) ← twoDigits? 0 99 word
  let (year, rest) ← twoDigits? 0 99 rest
  let '-' :: rest := rest | none
  let (month, rest) ← twoDigits? 1 12 rest
  let '-' :: rest := rest | none
  let (_, rest) ← twoDigits? 1 (lastDay (century * 100 + year) month) rest
  return rest

/-- What follows a time of day at the front of a word; seconds may be left out. -/
def afterTime? (word : List Char) : Option (List Char) := do
  let (_, rest) ← twoDigits? 0 23 word
  let ':' :: rest := rest | none
  let (_, rest) ← twoDigits? 0 59 rest
  match rest with
  | ':' :: rest =>
      let (_, rest) ← twoDigits? 0 60 rest
      match rest with
      | '.' :: fraction =>
          if ((fraction.head?).bind digitValue?).isSome then
            return fraction.dropWhile fun c => (digitValue? c).isSome
          else none
      | rest => return rest
  | rest => return rest

/-- Whether a word is nothing or the offset of a time zone. -/
def isOffset (word : List Char) : Bool :=
  match word with
  | [] => true
  | ['Z'] | ['z'] => true
  | sign :: rest =>
      (sign = '+' || sign = '-') &&
        match twoDigits? 0 23 rest with
        | some (_, ':' :: rest) => (twoDigits? 0 59 rest).any (·.2.isEmpty)
        | _ => false

/-- Whether a word is a date, a time of day, or both. -/
def isMoment (word : List Char) : Bool :=
  match afterDate? word with
  | some [] => true
  | some (separator :: rest) =>
      (separator = 'T' || separator = 't' || separator = ' ') &&
        (afterTime? rest).any isOffset
  | none => (afterTime? word).any (·.isEmpty)

/-- The value that a word stands for which begins with a decimal digit or an underscore behind its
sign. What follows the digits decides on its kind. -/
def numeric? (word : List Char) : Option Scalar :=
  let isSigned := (signed? word).isSome
  let body := unsigned word
  match body.dropWhile isDecimal with
  | [] => if body.head? = some '0' && body ≠ ['0'] then none else some (decimalNumber word)
  | c :: rest =>
      if c = '-' ∨ c = ':' then if isMoment word then some .foreign else none
      else if (c :: rest).contains ' ' then none
      else if (c :: rest).any fun c => c = '.' || c = 'e' || c = 'E' then
        if isFraction body && groupsDigits isDecimal isSigned body then some .foreign else none
      else if c = '_' && body.head? ≠ some '0' && groupsDigits isHexadecimal isSigned body then
        some (decimalNumber word)
      else none

/-- The value that an unquoted word stands for. -/
def scalar? (word : List Char) : Option Scalar :=
  match word with
  | '0' :: 'x' :: digits => basedNumber? 16 digits
  | '0' :: 'o' :: digits => basedNumber? 8 digits
  | '0' :: 'b' :: digits => basedNumber? 2 digits
  | word =>
      if ["true".toList, "false".toList].contains word
          || ["inf".toList, "nan".toList].contains (unsigned word) then
        some .foreign
      else if ((unsigned word).head?).any fun c => isDecimal c || c = '_' then numeric? word
      else none

end ModelRepository.Toml
