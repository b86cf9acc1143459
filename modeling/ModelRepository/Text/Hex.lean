import ModelRepository.Binary.Layout

/-! Bytes as hexadecimal digits and as base 64. -/

namespace ModelRepository.Text

open Binary (Bytes)

/-- The lower-case digit of a value below sixteen. -/
def hexDigit (value : Nat) : Char :=
  if value < 10 then Char.ofNat (48 + value) else Char.ofNat (87 + value)

/-- Two lower-case digits for every byte. -/
def hex (bytes : Bytes) : String :=
  String.ofList (bytes.flatMap fun byte => [hexDigit (byte.toNat / 16), hexDigit (byte.toNat % 16)])

/-- The value of a hexadecimal digit of either case. -/
def hexValue? (c : Char) : Option Nat :=
  if '0' ≤ c ∧ c ≤ '9' then some (c.toNat - 48)
  else if 'a' ≤ c ∧ c ≤ 'f' then some (c.toNat - 87)
  else if 'A' ≤ c ∧ c ≤ 'F' then some (c.toNat - 55)
  else none

/-- The digit of a value below 64. -/
def base64Digit (value : Nat) : Char :=
  if value < 26 then Char.ofNat (65 + value)
  else if value < 52 then Char.ofNat (71 + value)
  else if value < 62 then Char.ofNat (value - 4)
  else if value = 62 then '+'
  else '/'

/-- Four digits for every three bytes, behind those in `written`; the last group is padded. -/
def base64From (written : List Char) : Bytes → List Char
  | a :: b :: c :: rest =>
      let bits := a.toNat * 65536 + b.toNat * 256 + c.toNat
      base64From
        (base64Digit (bits % 64) :: base64Digit (bits / 64 % 64)
          :: base64Digit (bits / 4096 % 64) :: base64Digit (bits / 262144) :: written)
        rest
  | [a, b] =>
      let bits := a.toNat * 256 + b.toNat
      ('=' :: base64Digit (bits * 4 % 64) :: base64Digit (bits / 16 % 64)
        :: base64Digit (bits / 1024) :: written).reverse
  | [a] =>
      ('=' :: '=' :: base64Digit (a.toNat * 16 % 64) :: base64Digit (a.toNat / 4)
        :: written).reverse
  | [] => written.reverse

/-- The base 64 form of bytes, with padding. -/
def base64 (bytes : Bytes) : String :=
  String.ofList (base64From [] bytes)

end ModelRepository.Text
