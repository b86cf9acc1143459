/-! JSON values and how they are written.
Numbers are whole. Texts are escaped only where they must be: quotes, backslashes and control
characters. The compact form has no blanks; the spread-out form puts every item on a line of its
own, two spaces deeper than the line that opens it.
-/

namespace ModelRepository.Json

/-- A JSON value; the members of an object are written in the order given. -/
inductive Value where
  | null
  | bool (value : Bool)
  | number (value : Int)
  | text (value : String)
  | array (items : List Value)
  | object (members : List (String × Value))
  deriving Inhabited

namespace Value

/-- An optional text. -/
def optionalText (value : Option String) : Value :=
  match value with
  | some value => text value
  | none => null

/-- A list of texts. -/
def texts (values : List String) : Value :=
  array (values.map text)

/-- The characters that stand for `c` inside quotes. -/
def escapeChar (c : Char) : List Char :=
  if c = '"' then ['\\', '"']
  else if c = '\\' then ['\\', '\\']
  else if c = '\n' then ['\\', 'n']
  else if c = '\r' then ['\\', 'r']
  else if c = '\t' then ['\\', 't']
  else if c = '\x08' then ['\\', 'b']
  else if c = '\x0c' then ['\\', 'f']
  else if c.toNat < 32 then
    ['\\', 'u', '0', '0', (if c.toNat < 16 then '0' else '1'), Nat.digitChar (c.toNat % 16)]
  else [c]

/-- A text in quotes. -/
def quoted (value : String) : String :=
  "\"" ++ String.ofList (value.toList.flatMap escapeChar) ++ "\""

/-- The form of a value without parts. -/
def atom : Value → String
  | null => "null"
  | bool true => "true"
  | bool false => "false"
  | number value => toString value
  | text value => quoted value
  | array _ => "[]"
  | object _ => "\x7b\x7d"

mutual

/-- Writes a value behind `out` without blanks. -/
def writeCompact (out : String) : Value → String
  | array (item :: items) => writeCompactItems (writeCompact (out ++ "[") item) items ++ "]"
  | object ((key, value) :: members) =>
      writeCompactMembers (writeCompact (out ++ "\x7b" ++ quoted key ++ ":") value) members
        ++ "\x7d"
  | value => out ++ value.atom

/-- Writes the further items of an array. -/
def writeCompactItems (out : String) : List Value → String
  | [] => out
  | item :: items => writeCompactItems (writeCompact (out ++ ",") item) items

/-- Writes the further members of an object. -/
def writeCompactMembers (out : String) : List (String × Value) → String
  | [] => out
  | (key, value) :: members =>
      writeCompactMembers (writeCompact (out ++ "," ++ quoted key ++ ":") value) members

end

/-- The value without blanks. -/
def compact (value : Value) : String :=
  writeCompact "" value

/-- The end of one line and the indentation of the next. -/
def newLine (depth : Nat) : String :=
  "\n" ++ String.ofList (List.replicate (2 * depth) ' ')

mutual

/-- Writes a value behind `out`, spread over lines; `depth` counts the values around it. -/
def writePretty (out : String) (depth : Nat) : Value → String
  | array (item :: items) =>
      writePrettyItems (writePretty (out ++ "[" ++ newLine (depth + 1)) (depth + 1) item)
        (depth + 1) items
        ++ newLine depth ++ "]"
  | object ((key, value) :: members) =>
      writePrettyMembers
        (writePretty (out ++ "\x7b" ++ newLine (depth + 1) ++ quoted key ++ ": ") (depth + 1) value)
        (depth + 1) members
        ++ newLine depth ++ "\x7d"
  | value => out ++ value.atom

/-- Writes the further items of an array. -/
def writePrettyItems (out : String) (depth : Nat) : List Value → String
  | [] => out
  | item :: items =>
      writePrettyItems (writePretty (out ++ "," ++ newLine depth) depth item) depth items

/-- Writes the further members of an object. -/
def writePrettyMembers (out : String) (depth : Nat) : List (String × Value) → String
  | [] => out
  | (key, value) :: members =>
      writePrettyMembers
        (writePretty (out ++ "," ++ newLine depth ++ quoted key ++ ": ") depth value)
        depth members

end

/-- The value spread over lines. -/
def pretty (value : Value) : String :=
  writePretty "" 0 value

end Value

end ModelRepository.Json
