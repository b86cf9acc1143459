import ModelRepository.Json.Lexeme

/-! The shape of a JSON text, complete or not.
A reader that wants typed values meets the faults of a text in the order in which they stand.
The tree therefore keeps everything in front of the place where a text stops being JSON, and
tells of every array and object whether it was closed.
-/

namespace ModelRepository.Json

open Binary (Bytes)

/-- A JSON value as far as it is there. -/
inductive Tree where
  | null
  | bool (value : Bool)
  | number (raw : Bytes)
  | text (raw : Bytes)
  | array (items : List Tree) (closed : Bool)
  | object (members : List (Bytes × Tree)) (closed : Bool)
  /-- There is no value where one is needed. -/
  | broken
  deriving Inhabited

/-- Whether a value is all there; nothing can follow an unclosed part. -/
def Tree.isWhole : Tree → Bool
  | broken => false
  | array _ closed | object _ closed => closed
  | _ => true

/-- A JSON text. -/
structure Document where
  tree : Tree
  /-- Whether anything but blanks follows the value. -/
  trailing : Bool

/-- An array or object that is still open. Its parts are held latest first. -/
inductive Frame where
  | array (items : List Tree)
  /-- `key` is the member whose value comes next. -/
  | object (members : List (Bytes × Tree)) (key : Bytes)

/-- What has to come next. -/
inductive Expected where
  | value
  | firstItem
  | firstKey (members : List (Bytes × Tree))
  | key (members : List (Bytes × Tree))
  | colon (members : List (Bytes × Tree)) (key : Bytes)
  | itemEnd (items : List Tree)
  | memberEnd (members : List (Bytes × Tree))
  /-- The value is complete; `trailing` tells whether more came. -/
  | nothing (tree : Tree) (trailing : Bool)
  /-- The text stopped being JSON inside the value. -/
  | stopped (tree : Tree)

/-- A tree in the making, with the open frames around it, innermost first. -/
structure Builder where
  expected : Expected := .value
  frames : List Frame := []

namespace Builder

/-- The whole tree when nothing more can be added to its innermost part. -/
def unwind (inner : Tree) : List Frame → Tree
  | [] => inner
  | .array items :: frames => unwind (.array (inner :: items).reverse false) frames
  | .object members key :: frames =>
      unwind (.object ((key, inner) :: members).reverse false) frames

/-- Stops with what is there. -/
def stop (builder : Builder) : Builder :=
  let inner : Tree := match builder.expected with
    | .firstItem => .array [] false
    | .firstKey members | .key members | .memberEnd members => .object members.reverse false
    | .colon members key => .object ((key, .broken) :: members).reverse false
    | .itemEnd items => .array items.reverse false
    | .value | .nothing .. | .stopped _ => .broken
  match builder.expected with
  | .stopped _ => builder
  | .nothing tree _ => { builder with expected := .nothing tree true }
  | _ => { builder with expected := .stopped (unwind inner builder.frames) }

/-- Takes a complete value into the part around it. -/
def accept (frames : List Frame) (tree : Tree) : Builder :=
  match frames with
  | [] => ⟨.nothing tree false, []⟩
  | .array items :: frames => ⟨.itemEnd (tree :: items), frames⟩
  | .object members key :: frames => ⟨.memberEnd ((key, tree) :: members), frames⟩

/-- Begins a value inside the given frames. -/
def enter (builder : Builder) (frames : List Frame) : Lexeme → Builder
  | .null => accept frames .null
  | .bool value => accept frames (.bool value)
  | .number raw => accept frames (.number raw)
  | .text raw => accept frames (.text raw)
  | .openArray => ⟨.firstItem, frames⟩
  | .openObject => ⟨.firstKey [], frames⟩
  | _ => builder.stop

/-- Takes one lexeme. -/
def step (builder : Builder) (lexeme : Lexeme) : Builder :=
  match builder.expected, lexeme with
  | .value, lexeme => builder.enter builder.frames lexeme
  | .firstItem, .closeArray => accept builder.frames (.array [] true)
  | .firstItem, lexeme => builder.enter (.array [] :: builder.frames) lexeme
  | .firstKey members, .closeObject => accept builder.frames (.object members.reverse true)
  | .firstKey members, .text key | .key members, .text key =>
      { builder with expected := .colon members key }
  | .colon members key, .colon => ⟨.value, .object members key :: builder.frames⟩
  | .itemEnd items, .comma => ⟨.value, .array items :: builder.frames⟩
  | .itemEnd items, .closeArray => accept builder.frames (.array items.reverse true)
  | .memberEnd members, .comma => { builder with expected := .key members }
  | .memberEnd members, .closeObject => accept builder.frames (.object members.reverse true)
  | _, _ => builder.stop

/-- The document once the lexemes have ended. -/
def finish (builder : Builder) : Document :=
  match builder.expected with
  | .nothing tree trailing => ⟨tree, trailing⟩
  | _ =>
      match builder.stop.expected with
      | .stopped tree => ⟨tree, false⟩
      | _ => ⟨.broken, false⟩

end Builder

/-- The document that a text holds. -/
def document (text : Bytes) : Document :=
  ((lexemes text).foldl Builder.step {}).finish

end ModelRepository.Json
