import ModelRepository.Settings

/-! The grammar of command lines.
A command line has levels: words before the name of a command belong to the program and words
behind it to the command. A switch takes its value from the same word or from the next one; a value
from the next word is checked no sooner than the switch behind it, or the level's end.
-/

namespace ModelRepository.CommandLine

/-- Why a command line asks for nothing. -/
inductive UsageFault where
  | unknownArgument
  | invalidCommand
  | emptyValue
  | invalidValue
  | repeatedArgument
  | needlessValue
  | missingArgument
  | helpWanted
  | versionWanted
  deriving DecidableEq

/-- What a value has to be. -/
inductive ValueKind where
  | text
  | path
  | backend
  | formatVersion
  | port
  | depth
  deriving DecidableEq

/-- Why a value is not of its kind. -/
def ValueKind.fault? (kind : ValueKind) (value : String) : Option UsageFault :=
  match kind with
  | text => none
  | path => if value.isEmpty then some .emptyValue else none
  | backend => if (Backend.ofText? value).isSome then none else some .invalidValue
  | formatVersion => if (FormatVersion.ofText? value).isSome then none else some .invalidValue
  | port => if (Text.natural? 65535 value).isSome then none else some .invalidValue
  | depth => if (Text.integer? value).isSome then none else some .invalidValue

/-- What a switch is for. -/
inductive Purpose where
  | flag
  | value (kind : ValueKind)
  | help
  | version
  deriving DecidableEq

/-- A word that begins with hyphens: a name behind two, or a letter behind one. -/
structure Switch where
  name : String
  letter : Option Char := none
  purpose : Purpose
  deriving DecidableEq

/-- What may stand on one level. -/
structure Grammar where
  switches : List Switch
  /-- The number of words without hyphens that belong to the level. -/
  words : Nat := 0
  /-- The switches that have to be there. -/
  required : List String := []
  commands : List String := []

/-- A level that is being read. -/
structure Progress where
  /-- The switches that are settled, with their values. -/
  given : List (String × String) := []
  /-- A switch whose value is still to come or to be checked. -/
  pending : Option (Switch × Option String) := none
  words : List String := []
  /-- Whether two bare hyphens have been seen, behind which no word is a switch. -/
  bare : Bool := false

namespace Progress

/-- Whether the next word is a value. -/
def awaitsValue (progress : Progress) : Bool :=
  match progress.pending with
  | some (_, none) => true
  | _ => false

/-- Settles a switch. -/
def add (progress : Progress) (switch : Switch) (value : String) : Except UsageFault Progress :=
  if (progress.given.lookup switch.name).isSome then .error .repeatedArgument
  else
    match switch.purpose with
    | .help => .error .helpWanted
    | .version => .error .versionWanted
    | .flag => .ok { progress with given := (switch.name, value) :: progress.given }
    | .value kind =>
        match kind.fault? value with
        | some fault => .error fault
        | none => .ok { progress with given := (switch.name, value) :: progress.given }

/-- Settles the switch whose value is still open. -/
def settle (progress : Progress) : Except UsageFault Progress :=
  match progress.pending with
  | none => .ok progress
  | some (_, none) => .error .emptyValue
  | some (switch, some value) => ({ progress with pending := none }).add switch value

/-- Takes in a switch with the value that its word holds. -/
def take (progress : Progress) (switch : Switch) (value : Option String)
    : Except UsageFault Progress :=
  match switch.purpose, value with
  | .value _, none => progress.settle.map fun progress =>
      { progress with pending := some (switch, none) }
  | .value _, some value => do (← progress.settle).add switch value
  | _, none => do (← progress.settle).add switch ""
  | _, some _ => .error .needlessValue

/-- Takes in a word that begins with two hyphens. -/
def takeName (grammar : Grammar) (progress : Progress) (word : List Char)
    : Except UsageFault Progress :=
  let name := String.ofList (word.takeWhile (· ≠ '='))
  let value :=
    if word.contains '=' then some (String.ofList ((word.dropWhile (· ≠ '=')).drop 1)) else none
  match grammar.switches.find? (·.name = name) with
  | none => .error .unknownArgument
  | some switch => progress.take switch value

/-- Takes in the letters behind one hyphen. The first letter whose switch wants a value takes the
rest of the word, perhaps behind an equals sign. -/
def takeLetters (grammar : Grammar) (progress : Progress) : List Char → Except UsageFault Progress
  | [] => .ok progress
  | letter :: rest =>
      match grammar.switches.find? (·.letter = some letter) with
      | none => .error .unknownArgument
      | some switch =>
          match switch.purpose with
          | .value _ =>
              let value := match rest with
                | [] => none
                | '=' :: value => some (String.ofList value)
                | value => some (String.ofList value)
              progress.take switch value
          | _ =>
              match progress.take switch none with
              | .error fault => .error fault
              | .ok progress => takeLetters grammar progress rest

/-- The fault of a word that belongs nowhere. -/
def strayWord (grammar : Grammar) (progress : Progress) (word : String) : UsageFault :=
  if grammar.commands.isEmpty then .unknownArgument
  else if progress.bare && grammar.commands.contains word then .unknownArgument
  else .invalidCommand

/-- Takes in a word without hyphens that is no value. -/
def takeWord (grammar : Grammar) (progress : Progress) (word : String)
    : Except UsageFault Progress :=
  if progress.words.length < grammar.words then
    progress.settle.map fun progress => { progress with words := progress.words ++ [word] }
  else .error (strayWord grammar progress word)

/-- Reads a level up to the name of a command, which is given back with the words behind it. -/
def read (grammar : Grammar) (progress : Progress)
    : List String → Except UsageFault (Progress × Option (String × List String))
  | [] => .ok (progress, none)
  | word :: rest =>
      if progress.bare then
        match progress.takeWord grammar word with
        | .error fault => .error fault
        | .ok progress => read grammar progress rest
      else if !progress.awaitsValue && grammar.commands.contains word then
        .ok (progress, some (word, rest))
      else if word = "--" then read grammar { progress with bare := true } rest
      else
        let next :=
          match word.toList with
          | '-' :: '-' :: name => takeName grammar progress name
          | '-' :: letter :: letters => takeLetters grammar progress (letter :: letters)
          | _ =>
              match progress.pending with
              | some (switch, none) => .ok { progress with pending := some (switch, some word) }
              | _ => takeWord grammar progress word
        match next with
        | .error fault => .error fault
        | .ok progress => read grammar progress rest

/-- Ends a level: everything is settled and nothing may be missing. -/
def finish (grammar : Grammar) (progress : Progress) : Except UsageFault Progress :=
  match progress.settle with
  | .error fault => .error fault
  | .ok progress =>
      if progress.words.length < grammar.words
          || grammar.required.any fun name => (progress.given.lookup name).isNone then
        .error .missingArgument
      else .ok progress

end Progress

end ModelRepository.CommandLine
