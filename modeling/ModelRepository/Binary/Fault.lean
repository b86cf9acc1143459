/-! Why a value could not be read from bytes. -/

namespace ModelRepository.Binary

/-- The reasons for which reading a value from bytes stops. -/
inductive Fault where
  /-- The bytes end before the value does. -/
  | endOfBytes
  /-- A variable-length number does not end within its width, or exceeds it. -/
  | unterminatedNumber
  /-- The marker of an optional value is neither absent nor present. -/
  | badOptionMarker
  /-- A text is not well-formed UTF-8. -/
  | badText
  /-- The index of an alternative names none. -/
  | unknownAlternative
  deriving DecidableEq

/-- The text that reports a fault. -/
def Fault.message : Fault → String
  | endOfBytes => "Hit the end of buffer, expected more data"
  | unterminatedNumber =>
      "Found a varint that didn't terminate. Is the usize too big for this platform?"
  | badOptionMarker => "Found an Option discriminant that wasn't 0 or 1"
  | badText => "Tried to parse invalid utf-8"
  | unknownAlternative => "Serde Deserialization Error"

end ModelRepository.Binary
