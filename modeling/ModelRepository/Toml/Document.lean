import ModelRepository.Text.Blank
import ModelRepository.Toml.Item
import ModelRepository.Toml.Scalar
import ModelRepository.Toml.Token

/-! Reading TOML documents.
Arrays and inline tables become items as soon as they are closed. What is left of a line is a
header or an entry of the table that the last header opened.
-/

namespace ModelRepository.Toml

/-- A part of a line: a token, or an array or inline table that is complete. -/
inductive Part where
  | token (token : Token)
  | item (item : Item)

namespace Part

/-- Spaces and tabs between tokens. -/
def isBlank : Part → Bool
  | token (.blank _) => true
  | _ => false

/-- Inside arrays and inline tables line ends count for nothing between values, nor around the
equals sign. -/
def isGap : Part → Bool
  | token (.blank _) | token .newLine => true
  | _ => false

/-- The sign between a key and its value. -/
def isEquals : Part → Bool
  | token .equals => true
  | _ => false

end Part

/-- The characters of a part of an unquoted value. -/
def wordChars? : Part → Option (List Char)
  | .token (.word chars) => some chars
  | .token .dot => some ['.']
  | .token (.blank char) => some [char]
  | _ => none

/-- The item that parts stand for. -/
def itemOf? : List Part → Option Item
  | [.item item] => some item
  | [.token (.text value _)] => some (.text value)
  | parts => do
      let chars ← parts.mapM wordChars?
      match ← scalar? chars.flatten with
      | .integer value => return .integer value
      | .foreign => return .foreign

/-- Characters of keys without quotes. -/
def isKeyChar (c : Char) : Bool :=
  c.isAlphanum || c = '_' || c = '-'

/-- The key that one part stands for. -/
def keyOf? : Part → Option String
  | .token (.word chars) => if chars.all isKeyChar then some (String.ofList chars) else none
  | .token (.text value false) => some value
  | _ => none

/-- The keys of a dotted key, which has no blanks. -/
def keys? : List Part → Option (List String)
  | [] => none
  | [part] => (keyOf? part).map ([·])
  | part :: .token .dot :: rest => do return (← keyOf? part) :: (← keys? rest)
  | _ => none

/-- How many keys a dotted key may have. -/
def maxKeys : Nat := 80

/-- A dotted key as the keys on the way and the last one; blanks may surround each key. -/
def keyPath? (parts : List Part) : Option (List String × String) := do
  let keys ← (keys? (parts.filter (!·.isBlank))).filter (·.length ≤ maxKeys)
  return (keys.dropLast, ← keys.getLast?)

/-- A dotted key and its item. A line has no line ends inside; a group may have some around both. -/
def entry? (parts : List Part) : Option (List String × String × Item) := do
  let (path, key) ← keyPath? (Text.stripEnds Part.isGap (parts.takeWhile (!·.isEquals)))
  let item ← itemOf? (Text.stripEnds Part.isGap ((parts.dropWhile (!·.isEquals)).drop 1))
  return (path, key, item)

/-- An array or inline table that is still open. -/
inductive Group where
  /-- The items are held latest first. -/
  | array (items : List Item)
  | table (entries : Entries)

namespace Group

/-- Takes in the parts up to a comma or the end. -/
def take? (group : Group) (parts : List Part) : Option Group :=
  let parts := Text.stripEnds Part.isGap parts
  match group with
  | array items => (itemOf? parts).map fun item => array (item :: items)
  | table entries => do
      let (path, key, item) ← entry? parts
      return table (← entries.add path key item)

/-- The item once the group is closed. -/
def close : Group → Item
  | array items => .array items.reverse
  | table entries => .table .inline entries

end Group

/-- A document in the making. Parts are held latest first. -/
structure Reader where
  root : Entries := []
  /-- The path of the last header. -/
  current : List String := []
  line : List Part := []
  /-- Whether the line has come to its value. -/
  inValue : Bool := false
  /-- The open groups, innermost first, each with the parts since its last comma. -/
  groups : List (Group × List Part) := []

namespace Reader

/-- How deep arrays and inline tables may be nested. -/
def maxDepth : Nat := 80

/-- Takes in a part. -/
def push (reader : Reader) (part : Part) : Reader :=
  match reader.groups with
  | [] => { reader with line := part :: reader.line, inValue := reader.inValue || part.isEquals }
  | (group, parts) :: rest => { reader with groups := (group, part :: parts) :: rest }

/-- Opens a group; outside of values the token stands for itself. -/
def openGroup (reader : Reader) (group : Group) (token : Token) : Option Reader :=
  if reader.groups.isEmpty && !reader.inValue then some (reader.push (.token token))
  else if reader.groups.length < maxDepth then
    some { reader with groups := (group, []) :: reader.groups }
  else none

/-- Closes the innermost group. -/
def closeGroup (reader : Reader) (group : Group) (parts : List Part)
    (rest : List (Group × List Part)) : Option Reader := do
  let group ← if parts.all Part.isGap then some group else group.take? parts.reverse
  return { reader with groups := rest }.push (.item group.close)

/-- Takes in a header. -/
def header (reader : Reader) (parts : List Part) (repeated : Bool) : Option Reader := do
  let (path, key) ← keyPath? parts
  let root ←
    if repeated then reader.root.openNextTable path key else reader.root.openTable path key
  return { reader with root, current := path ++ [key] }

/-- Takes in the parts of a line. -/
def takeLine (reader : Reader) : List Part → Option Reader
  | [] => some reader
  | .token .openBracket :: .token .openBracket :: rest =>
      match rest.reverse with
      | .token .closeBracket :: .token .closeBracket :: parts =>
          reader.header parts.reverse true
      | _ => none
  | .token .openBracket :: rest =>
      match rest.reverse with
      | .token .closeBracket :: parts => reader.header parts.reverse false
      | _ => none
  | parts => do
      let (path, key, item) ← entry? parts
      return { reader with root := ← reader.root.addUnder reader.current path key item }

/-- Takes in one token. -/
def step (reader : Reader) (token : Token) : Option Reader :=
  match token, reader.groups with
  | .broken, _ => none
  | .openBracket, _ => reader.openGroup (.array []) token
  | .openBrace, _ => reader.openGroup (.table []) token
  | .closeBracket, (.array items, parts) :: rest => reader.closeGroup (.array items) parts rest
  | .closeBrace, (.table entries, parts) :: rest => reader.closeGroup (.table entries) parts rest
  | .closeBracket, _ :: _ | .closeBrace, _ => none
  | .comma, (group, parts) :: rest => do
      return { reader with groups := (← group.take? parts.reverse, []) :: rest }
  | .newLine, [] =>
      { reader with line := [], inValue := false }.takeLine
        (Text.stripEnds Part.isBlank reader.line.reverse)
  | token, _ => some (reader.push (.token token))

end Reader

/-- The entries that a text holds; nothing when it is no TOML. -/
def parse? (text : String) : Option Entries := do
  let reader ← (tokens text).foldlM Reader.step {}
  if reader.groups.isEmpty then some reader.root else none

end ModelRepository.Toml
