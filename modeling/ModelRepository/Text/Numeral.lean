/-! Whole numbers in decimal digits, as settings, queries and arguments give them.
A plus sign may stand in front; blanks and separators may not stand anywhere.
-/

namespace ModelRepository.Text

/-- The greatest number of 32 bits. -/
def maxWord32 : Nat := 4294967295

/-- The greatest number of 64 bits. -/
def maxWord64 : Nat := 18446744073709551615

/-- The greatest number of 64 bits with a sign. -/
def maxSigned64 : Nat := 9223372036854775807

/-- The value of a decimal digit. -/
def digitValue? (c : Char) : Option Nat :=
  if '0' ≤ c ∧ c ≤ '9' then some (c.toNat - 48) else none

/-- The number of at most `max` behind `value` when further digits follow. -/
def readDigits (max value : Nat) : List Char → Option Nat
  | [] => some value
  | c :: rest =>
      (digitValue? c).bind fun digit =>
        let next := value * 10 + digit
        if next ≤ max then readDigits max next rest else none

/-- The number of at most `max` that a non-empty word of digits stands for. -/
def digits? (max : Nat) : List Char → Option Nat
  | [] => none
  | word => readDigits max 0 word

/-- The number of at most `max` that a text stands for. -/
def natural? (max : Nat) (text : String) : Option Nat :=
  digits? max <| match text.toList with
    | '+' :: rest => rest
    | word => word

/-- The number that a text stands for, which has to fit into 64 bits with a sign. -/
def integer? (text : String) : Option Int :=
  match text.toList with
  | '-' :: rest => (digits? (maxSigned64 + 1) rest).map fun value => -Int.ofNat value
  | _ => (natural? maxSigned64 text).map Int.ofNat

end ModelRepository.Text
