import ModelRepository.Binary.Layout

/-! The lexemes of a JSON text.
The bytes are scanned one by one. Texts and numbers keep the bytes they are written with, because
what they stand for matters only where a value is wanted; a part of the text that is skipped may
hold numbers of any size and texts that are not well-formed UTF-8.
-/

namespace ModelRepository.Json

open Binary (Bytes)

/-- The smallest parts of a JSON text. -/
inductive Lexeme where
  | openObject
  | closeObject
  | openArray
  | closeArray
  | colon
  | comma
  | null
  | bool (value : Bool)
  | number (raw : Bytes)
  /-- The bytes between the quotes, with escapes as they are written. -/
  | text (raw : Bytes)
  /-- The place where the input stops being JSON. -/
  | broken
  deriving DecidableEq

/-- How far a number has been scanned. -/
inductive NumberPhase where
  | sign
  | zero
  | digits
  | point
  | fraction
  | mark
  | markSign
  | exponent
  deriving DecidableEq

/-- What is being scanned. The bytes of an unfinished lexeme are held latest first. -/
inductive Scan where
  | between
  | text (raw : Bytes)
  | escape (raw : Bytes)
  /-- A character code of which `left` digits are missing. -/
  | code (left : Nat) (raw : Bytes)
  | number (phase : NumberPhase) (raw : Bytes)
  /-- A word of which the bytes in `rest` are missing. -/
  | word (rest : Bytes) (lexeme : Lexeme)
  | failed
  deriving DecidableEq

/-- A scan in progress, with the lexemes found so far, latest first. -/
structure Lexer where
  scan : Scan := .between
  lexemes : List Lexeme := []

/-- Bytes that may stand between lexemes. -/
def isBlank (byte : UInt8) : Bool :=
  byte = 32 || byte = 9 || byte = 10 || byte = 13

/-- The decimal digits. -/
def isDigit (byte : UInt8) : Bool :=
  48 ≤ byte && byte ≤ 57

/-- The hexadecimal digits in either case. -/
def isHexDigit (byte : UInt8) : Bool :=
  isDigit byte || (65 ≤ byte && byte ≤ 70) || (97 ≤ byte && byte ≤ 102)

namespace NumberPhase

/-- Whether a number may end here. -/
def mayEnd : NumberPhase → Bool
  | zero | digits | fraction | exponent => true
  | sign | point | mark | markSign => false

/-- The phase after one more byte of a number; nothing when the byte is not part of it. -/
def next? (phase : NumberPhase) (byte : UInt8) : Option NumberPhase :=
  match phase with
  | sign => if byte = 48 then some zero else if isDigit byte then some digits else none
  | zero => if byte = 46 then some point else if isMark byte then some mark else none
  | digits =>
      if isDigit byte then some digits else if byte = 46 then some point
      else if isMark byte then some mark else none
  | point => if isDigit byte then some fraction else none
  | fraction => if isDigit byte then some fraction else if isMark byte then some mark else none
  | mark => if isDigit byte then some exponent
      else if byte = 43 ∨ byte = 45 then some markSign else none
  | markSign | exponent => if isDigit byte then some exponent else none
where
  isMark (byte : UInt8) : Bool := byte = 69 || byte = 101

end NumberPhase

namespace Lexer

/-- Finishes a lexeme. -/
def emit (lexer : Lexer) (lexeme : Lexeme) : Lexer :=
  ⟨.between, lexeme :: lexer.lexemes⟩

/-- Gives up for good. -/
def fail (lexer : Lexer) : Lexer :=
  ⟨.failed, .broken :: lexer.lexemes⟩

/-- Begins a lexeme. -/
def start (lexer : Lexer) (byte : UInt8) : Lexer :=
  if isBlank byte then lexer
  else if byte = 123 then lexer.emit .openObject
  else if byte = 125 then lexer.emit .closeObject
  else if byte = 91 then lexer.emit .openArray
  else if byte = 93 then lexer.emit .closeArray
  else if byte = 58 then lexer.emit .colon
  else if byte = 44 then lexer.emit .comma
  else if byte = 34 then { lexer with scan := .text [] }
  else if byte = 45 then { lexer with scan := .number .sign [byte] }
  else if byte = 48 then { lexer with scan := .number .zero [byte] }
  else if isDigit byte then { lexer with scan := .number .digits [byte] }
  else if byte = 110 then { lexer with scan := .word [117, 108, 108] .null }
  else if byte = 116 then { lexer with scan := .word [114, 117, 101] (.bool true) }
  else if byte = 102 then { lexer with scan := .word [97, 108, 115, 101] (.bool false) }
  else lexer.fail

/-- Scans one byte. -/
def step (lexer : Lexer) (byte : UInt8) : Lexer :=
  match lexer.scan with
  | .between => lexer.start byte
  | .text raw =>
      if byte = 34 then lexer.emit (.text raw.reverse)
      else if byte = 92 then { lexer with scan := .escape (byte :: raw) }
      else if byte < 32 then lexer.fail
      else { lexer with scan := .text (byte :: raw) }
  | .escape raw =>
      if byte = 117 then { lexer with scan := .code 4 (byte :: raw) }
      else if [34, 47, 92, 98, 102, 110, 114, 116].contains byte then
        { lexer with scan := .text (byte :: raw) }
      else lexer.fail
  | .code left raw =>
      if isHexDigit byte then
        { lexer with
          scan := if left ≤ 1 then .text (byte :: raw) else .code (left - 1) (byte :: raw) }
      else lexer.fail
  | .number phase raw =>
      match phase.next? byte with
      | some next => { lexer with scan := .number next (byte :: raw) }
      | none =>
          if phase.mayEnd && !(phase = .zero && isDigit byte) then
            (lexer.emit (.number raw.reverse)).start byte
          else lexer.fail
  | .word [] lexeme => (lexer.emit lexeme).start byte
  | .word (expected :: rest) lexeme =>
      if byte = expected then
        if rest.isEmpty then lexer.emit lexeme else { lexer with scan := .word rest lexeme }
      else lexer.fail
  | .failed => lexer

/-- The lexemes once the input has ended. -/
def finish (lexer : Lexer) : List Lexeme :=
  let lexer := match lexer.scan with
    | .between | .failed => lexer
    | .number phase raw => if phase.mayEnd then lexer.emit (.number raw.reverse) else lexer.fail
    | _ => lexer.fail
  lexer.lexemes.reverse

end Lexer

/-- The lexemes of a text, up to the place where it stops being JSON. -/
def lexemes (text : Bytes) : List Lexeme :=
  (text.foldl Lexer.step {}).finish

end ModelRepository.Json
