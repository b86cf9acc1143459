import ModelRepository.Json.Magnitude
import ModelRepository.Json.Tree
import ModelRepository.Text.Hex

/-! Reading typed values from JSON trees.
A text can fail to be JSON, or be JSON of another shape than the one wanted; of several faults
the one that stands first is reported. A record may be an object, whose unknown members are
skipped, or an array of its fields in order.
-/

namespace ModelRepository.Json

open Binary (Bytes)

/-- Why no value could be read. -/
inductive Fault where
  /-- The text is not JSON. -/
  | malformed
  /-- The text does not have the wanted shape. -/
  | mismatch
  deriving DecidableEq

/-- A reader of one type. -/
abbrev Decoder (α : Type) := Tree → Except Fault α

/-- The number that four hexadecimal digits stand for. -/
def codeUnit? (a b c d : UInt8) : Option Nat :=
  [a, b, c, d].foldlM (fun value digit =>
    (Text.hexValue? (Char.ofNat digit.toNat)).map (value * 16 + ·)) 0

/-- The byte that a letter after a backslash stands for. -/
def escapedByte (letter : UInt8) : UInt8 :=
  if letter = 98 then 8
  else if letter = 102 then 12
  else if letter = 110 then 10
  else if letter = 114 then 13
  else if letter = 116 then 9
  else letter

/-- A part of a text in quotes: a byte, or a sixteen-bit unit that an escape spells out. -/
inductive Part where
  | byte (value : UInt8)
  | unit (code : Nat)
  deriving DecidableEq

/-- The parts of a raw text, behind those in `read`, which are held latest first. -/
def parts (read : List Part) : Bytes → Option (List Part)
  | [] => some read.reverse
  | byte :: rest =>
      if byte ≠ 92 then parts (.byte byte :: read) rest
      else
        match rest with
        | [] => none
        | letter :: rest =>
            if letter ≠ 117 then parts (.byte (escapedByte letter) :: read) rest
            else
              match rest with
              | a :: b :: c :: d :: rest =>
                  match codeUnit? a b c d with
                  | some code => parts (.unit code :: read) rest
                  | none => none
              | _ => none

/-- The bytes that parts stand for, behind those in `out`, which are held latest first. A high
surrogate has to be followed by a low one, and a low one cannot stand alone. -/
def joinParts (out : Bytes) : List Part → Option Bytes
  | [] => some out.reverse
  | .byte value :: rest => joinParts (value :: out) rest
  | .unit code :: rest =>
      if code < 0xd800 ∨ 0xe000 ≤ code then
        joinParts ((String.utf8EncodeChar (Char.ofNat code)).reverse ++ out) rest
      else if 0xdc00 ≤ code then none
      else
        match rest with
        | .unit low :: rest =>
            if 0xdc00 ≤ low ∧ low < 0xe000 then
              let paired := 0x10000 + (code - 0xd800) * 0x400 + (low - 0xdc00)
              joinParts ((String.utf8EncodeChar (Char.ofNat paired)).reverse ++ out) rest
            else none
        | _ => none

/-- The text that raw bytes stand for. -/
def textOf? (raw : Bytes) : Option String := do
  let bytes ← joinParts [] (← parts [] raw)
  String.fromUTF8? ⟨bytes.toArray⟩

/-- The fault of a value that is not of the wanted kind: one that cannot be read at all counts
as malformed. -/
def Tree.unexpected : Tree → Fault
  | broken => .malformed
  | number raw => if (Decimal.ofNumber raw).overflows then .malformed else .mismatch
  | text raw => if (textOf? raw).isSome then .mismatch else .malformed
  | _ => .mismatch

namespace Decoder

/-- A text. -/
def text : Decoder String
  | .text raw =>
      match textOf? raw with
      | some value => .ok value
      | none => .error .malformed
  | tree => .error tree.unexpected

/-- A value or `null`. -/
def optional {α : Type} (value : Decoder α) : Decoder (Option α)
  | .null => .ok none
  | tree => (value tree).map some

/-- Reads the items of a list behind those in `read`, which are held latest first. -/
def listItems {α : Type} (item : Decoder α) (read : List α) : List Tree → Except Fault (List α)
  | [] => .ok read.reverse
  | tree :: rest =>
      match item tree with
      | .error fault => .error fault
      | .ok value => listItems item (value :: read) rest

/-- A list. -/
def list {α : Type} (item : Decoder α) : Decoder (List α)
  | .array items closed =>
      match listItems item [] items with
      | .error fault => .error fault
      | .ok values => if closed then .ok values else .error .malformed
  | tree => .error tree.unexpected

/-- One of the named alternatives: its name, or an object with the name as its only key and no
value. -/
def alternative {α : Type} (ofName? : String → Option α) : Decoder α
  | .text raw =>
      match textOf? raw with
      | none => .error .malformed
      | some name => pick name
  | .object ((key, value) :: rest) closed =>
      match textOf? key with
      | none => .error .malformed
      | some name =>
          match pick name, value with
          | .error fault, _ => .error fault
          | .ok chosen, .null =>
              if rest.isEmpty && closed then .ok chosen else .error .malformed
          | .ok _, value => .error value.unexpected
  | _ => .error .malformed
where
  pick (name : String) : Except Fault α :=
    match ofName? name with
    | some chosen => .ok chosen
    | none => .error .mismatch

end Decoder

/-- What may be left out of a record. -/
inductive Presence where
  /-- The field has to be there. -/
  | required
  /-- An object may leave the field out. -/
  | optional
  /-- An object may leave the field out, and so may an array at its end. -/
  | defaulted
  deriving DecidableEq

/-- One field of a record that is read into a draft of type `σ`. -/
structure Field (σ : Type) where
  name : String
  presence : Presence
  read : Tree → σ → Except Fault σ

/-- A field whose value is put into the draft. -/
def Field.of {σ α : Type} (name : String) (presence : Presence) (value : Decoder α)
    (put : α → σ → σ) : Field σ where
  name
  presence
  read tree draft := (value tree).map (put · draft)

namespace Decoder

/-- Reads the members of an object into the draft. `seen` names the fields that are set; a field
may be set only once, and what is no field is skipped. -/
def readMembers {σ : Type} (fields : List (Field σ)) (seen : List String) (draft : σ)
    : List (Bytes × Tree) → Except Fault (List String × σ)
  | [] => .ok (seen, draft)
  | (key, tree) :: rest =>
      match textOf? key with
      | none => .error .malformed
      | some name =>
          match fields.find? (·.name = name) with
          | none =>
              if tree.isWhole then readMembers fields seen draft rest else .error .malformed
          | some field =>
              if seen.contains name then .error .mismatch
              else
                match field.read tree draft with
                | .error fault => .error fault
                | .ok draft => readMembers fields (name :: seen) draft rest

/-- Reads the items of an array into the draft, one for each field. -/
def readItems {σ : Type} (closed : Bool) : List (Field σ) → σ → List Tree → Except Fault σ
  | [], draft, [] => if closed then .ok draft else .error .malformed
  | [], _, _ :: _ => .error .malformed
  | field :: fields, draft, [] =>
      if !closed then .error .malformed
      else if field.presence = .defaulted then readItems closed fields draft []
      else .error .mismatch
  | field :: fields, draft, tree :: rest =>
      match field.read tree draft with
      | .error fault => .error fault
      | .ok draft => readItems closed fields draft rest

/-- A record, read into `draft`, which holds the values of the fields that are left out. -/
def record {σ : Type} (fields : List (Field σ)) (draft : σ) : Decoder σ
  | .object members closed =>
      match readMembers fields [] draft members with
      | .error fault => .error fault
      | .ok (seen, draft) =>
          if !closed then .error .malformed
          else if fields.all fun field =>
              field.presence ≠ .required || seen.contains field.name then
            .ok draft
          else .error .mismatch
  | .array items closed => readItems closed fields draft items
  | tree => .error tree.unexpected

end Decoder

/-- Reads a whole text; nothing but blanks may follow the value. -/
def decode {α : Type} (decoder : Decoder α) (text : Bytes) : Except Fault α :=
  let document := document text
  match decoder document.tree with
  | .error fault => .error fault
  | .ok value => if document.trailing then .error .malformed else .ok value

end ModelRepository.Json
