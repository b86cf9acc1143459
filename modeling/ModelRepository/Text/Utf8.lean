import ModelRepository.Binary.Layout

/-! Reading UTF-8 that may be broken.
Every longest piece of the bytes that could have begun a character, but did not become one, is
replaced by the replacement character.
-/

namespace ModelRepository.Text

open Binary (Bytes)

/-- A character of which bytes are missing. -/
structure Unfinished where
  /-- The number of missing bytes. -/
  left : Nat
  /-- What the bytes so far stand for. -/
  code : Nat
  /-- The bounds of the next byte. -/
  least : UInt8 := 0x80
  greatest : UInt8 := 0xbf

/-- Characters read so far, latest first. -/
structure Utf8Reader where
  chars : List Char := []
  unfinished : Option Unfinished := none

namespace Utf8Reader

/-- The character that stands for what cannot be read. -/
def replacement : Char := '\ufffd'

/-- Begins a character. -/
def start (reader : Utf8Reader) (byte : UInt8) : Utf8Reader :=
  let code := byte.toNat
  if byte < 0x80 then ⟨Char.ofNat code :: reader.chars, none⟩
  else if 0xc2 ≤ byte ∧ byte ≤ 0xdf then ⟨reader.chars, some { left := 1, code := code - 0xc0 }⟩
  else if 0xe0 ≤ byte ∧ byte ≤ 0xef then
    ⟨reader.chars, some {
      left := 2, code := code - 0xe0
      least := if byte = 0xe0 then 0xa0 else 0x80
      greatest := if byte = 0xed then 0x9f else 0xbf }⟩
  else if 0xf0 ≤ byte ∧ byte ≤ 0xf4 then
    ⟨reader.chars, some {
      left := 3, code := code - 0xf0
      least := if byte = 0xf0 then 0x90 else 0x80
      greatest := if byte = 0xf4 then 0x8f else 0xbf }⟩
  else ⟨replacement :: reader.chars, none⟩

/-- Takes in one byte. -/
def step (reader : Utf8Reader) (byte : UInt8) : Utf8Reader :=
  match reader.unfinished with
  | none => reader.start byte
  | some unfinished =>
      if unfinished.least ≤ byte ∧ byte ≤ unfinished.greatest then
        let code := unfinished.code * 64 + (byte.toNat - 0x80)
        if unfinished.left ≤ 1 then ⟨Char.ofNat code :: reader.chars, none⟩
        else ⟨reader.chars, some { left := unfinished.left - 1, code }⟩
      else start ⟨replacement :: reader.chars, none⟩ byte

/-- The text once the bytes have ended. -/
def finish (reader : Utf8Reader) : String :=
  let chars := if reader.unfinished.isSome then replacement :: reader.chars else reader.chars
  String.ofList chars.reverse

end Utf8Reader

/-- The text that bytes stand for, as far as they can be read. -/
def readUtf8 (bytes : Bytes) : String :=
  (bytes.foldl Utf8Reader.step {}).finish

end ModelRepository.Text
