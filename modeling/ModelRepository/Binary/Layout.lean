import ModelRepository.Binary.Fault

/-! Layouts: how values of a type are written to bytes and read back.
A layout writes a value in front of the bytes that follow it, and reads one value off the front
of its input. Layouts of compound types are put together from those of their parts, so writer
and reader always agree about the order of fields.
-/

namespace ModelRepository.Binary

/-- The bytes of a file or row. -/
abbrev Bytes := List UInt8

/-- A value read from the front of the bytes, with the bytes behind it. -/
abbrev Reading (α : Type) := Except Fault (α × Bytes)

/-- Reads on behind a value, or reports why there is none. -/
@[inline] def Reading.andThen {α β : Type} (reading : Reading α) (next : α → Bytes → Reading β)
    : Reading β :=
  match reading with
  | .error fault => .error fault
  | .ok (value, rest) => next value rest

/-- A writer and a reader of one type. -/
structure Layout (α : Type) where
  /-- Puts the bytes of a value in front of the given bytes. -/
  write : α → Bytes → Bytes
  read : Bytes → Reading α

namespace Layout

/-- The bytes of a value alone. -/
def encode {α : Type} (layout : Layout α) (value : α) : Bytes :=
  layout.write value []

/-- The value at the front of the bytes; what follows it is ignored. -/
def decode {α : Type} (layout : Layout α) (bytes : Bytes) : Except Fault α :=
  match layout.read bytes with
  | .error fault => .error fault
  | .ok (value, _) => .ok value

/-- One byte as it is. -/
def byte : Layout UInt8 where
  write value rest := value :: rest
  read
    | [] => .error .endOfBytes
    | value :: rest => .ok (value, rest)

/-- One value after another. -/
def pair {α β : Type} (first : Layout α) (second : Layout β) : Layout (α × β) where
  write value rest := first.write value.1 (second.write value.2 rest)
  read bytes :=
    (first.read bytes).andThen fun a rest =>
      (second.read rest).andThen fun b rest => .ok ((a, b), rest)

/-- A type laid out in the form of another one. -/
def via {α β : Type} (layout : Layout α) (toForm : β → α) (ofForm : α → β) : Layout β where
  write value rest := layout.write (toForm value) rest
  read bytes := (layout.read bytes).andThen fun form rest => .ok (ofForm form, rest)

end Layout

/-- The groups of seven bits that a variable-length number of one width may take. -/
structure Width where
  groups : Nat
  /-- The largest value of the last group. -/
  lastGroup : Nat

/-- Numbers below 2^32. -/
def Width.word32 : Width := ⟨5, 15⟩

/-- Numbers below 2^64. -/
def Width.word64 : Width := ⟨10, 1⟩

/-- Writes a number in groups of seven bits, lowest first; every byte but the last one has its
top bit set. -/
def writeNumber (number : Nat) (rest : Bytes) : Bytes :=
  if number < 128 then UInt8.ofNat number :: rest
  else UInt8.ofNat (number % 128 + 128) :: writeNumber (number / 128) rest
termination_by number

/-- Reads the groups still allowed and adds them to `value`, the first one times `scale`. A
number may be padded with empty groups as long as they stay within its width. -/
def readGroups (lastGroup : Nat) : (groups scale value : Nat) → Bytes → Reading Nat
  | 0, _, _, _ => .error .unterminatedNumber
  | _ + 1, _, _, [] => .error .endOfBytes
  | groups + 1, scale, value, byte :: rest =>
      let value := value + byte.toNat % 128 * scale
      if byte.toNat < 128 then
        if groups = 0 ∧ lastGroup < byte.toNat then .error .unterminatedNumber
        else .ok (value, rest)
      else readGroups lastGroup groups (scale * 128) value rest

/-- Reads a number of the given width. -/
def readNumber (width : Width) (bytes : Bytes) : Reading Nat :=
  readGroups width.lastGroup width.groups 1 0 bytes

/-- Takes `count` bytes off the front, behind those in `taken`. -/
def takeBytes (taken : Bytes) : Nat → Bytes → Reading Bytes
  | 0, rest => .ok (taken.reverse, rest)
  | _ + 1, [] => .error .endOfBytes
  | count + 1, byte :: rest => takeBytes (byte :: taken) count rest

/-- Reads `count` items, behind those in `items`. -/
def readItems {α : Type} (read : Bytes → Reading α) (items : List α)
    : Nat → Bytes → Reading (List α)
  | 0, rest => .ok (items.reverse, rest)
  | count + 1, bytes =>
      match read bytes with
      | .error fault => .error fault
      | .ok (item, rest) => readItems read (item :: items) count rest

namespace Layout

/-- A word of 64 bits as a variable-length number. -/
def word64 : Layout UInt64 where
  write value rest := writeNumber value.toNat rest
  read bytes :=
    (readNumber .word64 bytes).andThen fun number rest => .ok (UInt64.ofNat number, rest)

/-- A text by the number of its bytes and then its UTF-8 form. -/
def text : Layout String where
  write value rest := writeNumber value.utf8ByteSize (value.toUTF8.data.toList ++ rest)
  read bytes :=
    (readNumber .word64 bytes).andThen fun count rest =>
      (takeBytes [] count rest).andThen fun encoded rest =>
        match String.fromUTF8? ⟨encoded.toArray⟩ with
        | some value => .ok (value, rest)
        | none => .error .badText

/-- A list by the number of its items and then the items. -/
def list {α : Type} (item : Layout α) : Layout (List α) where
  write values rest := writeNumber values.length (values.foldr item.write rest)
  read bytes :=
    (readNumber .word64 bytes).andThen fun count rest => readItems item.read [] count rest

/-- A byte that tells whether a value is present, and then the value. -/
def optional {α : Type} (value : Layout α) : Layout (Option α) where
  write
    | none, rest => 0 :: rest
    | some present, rest => 1 :: value.write present rest
  read
    | [] => .error .endOfBytes
    | marker :: rest =>
        if marker = 0 then .ok (none, rest)
        else if marker = 1 then
          (value.read rest).andThen fun present rest => .ok (some present, rest)
        else .error .badOptionMarker

/-- An alternative by its number. -/
def alternative {α : Type} (number : α → Nat) (ofNumber? : Nat → Option α) : Layout α where
  write value rest := writeNumber (number value) rest
  read bytes :=
    (readNumber .word32 bytes).andThen fun index rest =>
      match ofNumber? index with
      | some value => .ok (value, rest)
      | none => .error .unknownAlternative

end Layout

end ModelRepository.Binary
