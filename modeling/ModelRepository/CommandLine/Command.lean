import ModelRepository.CommandLine.Arguments

/-! The commands of the program and the command lines that ask for them.
Some switches may stand on either level; behind the name of the command they win.
-/

namespace ModelRepository.CommandLine

/-- What a command line may say besides the command. -/
structure Options where
  settingsFile : Option String := none
  database : Option String := none
  backend : Option Backend := none
  repository : String := defaultRepository
  json : Bool := false
  quiet : Bool := false
  deriving DecidableEq

/-- A command. -/
inductive Command where
  | serve (host : Option String) (port : Option Nat)
  | newDatabase (force : Bool)
  | repositories
  | createRepository (name : String) (formatVersion : FormatVersion)
  | deleteRepository (name : String)
  | status
  | check
  | store (file : String)
  | createPartitions (file : String)
  | retrieve (ids : String) (depth : Option Int) (output : Option String)
  | partitions
  | exportTo (output format : String)
  | importFrom (input : String)
  deriving DecidableEq

/-- The switches of every level. -/
def commonSwitches : List Switch := [
  ⟨"verbose", some 'v', .flag⟩,
  ⟨"quiet", some 'q', .flag⟩,
  ⟨"config", some 'c', .value .path⟩,
  ⟨"database", some 'D', .value .path⟩,
  ⟨"backend", some 'B', .value .backend⟩,
  ⟨"repository", some 'r', .value .text⟩,
  ⟨"json-mode", none, .flag⟩,
  ⟨"help", some 'h', .help⟩
]

/-- The grammar of a command, by its name. -/
def commandGrammar? (name : String) : Option Grammar :=
  (specific? name).map fun grammar =>
    { grammar with switches := grammar.switches ++ commonSwitches }
where
  file (name : String) (letter : Char) : Switch := ⟨name, some letter, .value .path⟩
  specific? : String → Option Grammar
    | "server" => some { switches := [
        ⟨"host", some 'H', .value .text⟩, ⟨"port", some 'p', .value .port⟩] }
    | "init" => some { switches := [⟨"force", some 'f', .flag⟩] }
    | "repos" | "status" | "check" | "partitions" => some { switches := [] }
    | "create-repo" => some {
        switches := [⟨"format-version", some 'F', .value .formatVersion⟩], words := 1 }
    | "delete-repo" => some { switches := [], words := 1 }
    | "store" | "create-partitions" => some {
        switches := [file "file" 'f'], required := ["file"] }
    | "retrieve" => some {
        switches := [⟨"ids", some 'i', .value .text⟩, ⟨"depth", some 'd', .value .depth⟩,
          file "output" 'o']
        required := ["ids"] }
    | "export" => some {
        switches := [file "output" 'o', ⟨"format", some 't', .value .text⟩]
        required := ["output"] }
    | "import" => some { switches := [file "input" 'i'], required := ["input"] }
    | _ => none

/-- The names of the commands. -/
def commandNames : List String :=
  ["server", "init", "repos", "create-repo", "delete-repo", "status", "check", "store",
    "create-partitions", "retrieve", "partitions", "export", "import"]

/-- The grammar in front of the name of a command. -/
def programGrammar : Grammar where
  switches := commonSwitches ++ [⟨"version", some 'V', .version⟩]
  commands := "help" :: commandNames

/-- The fault of asking for help about words. -/
def helpFault : List String → UsageFault
  | [] => .helpWanted
  | name :: rest =>
      if programGrammar.commands.contains name && rest.isEmpty then .helpWanted
      else .invalidCommand

/-- The command of the given name; its switches have been checked. -/
def commandOf (name : String) (progress : Progress) : Command :=
  let value? (name : String) : Option String := progress.given.lookup name
  let file (name : String) : String := (value? name).getD ""
  let word : String := progress.words.headD ""
  match name with
  | "server" => .serve (value? "host") ((value? "port").bind (Text.natural? 65535))
  | "init" => .newDatabase (value? "force").isSome
  | "repos" => .repositories
  | "create-repo" => .createRepository word
      (((value? "format-version").bind FormatVersion.ofText?).getD .standard)
  | "delete-repo" => .deleteRepository word
  | "check" => .check
  | "store" => .store (file "file")
  | "create-partitions" => .createPartitions (file "file")
  | "retrieve" => .retrieve (file "ids") ((value? "depth").bind Text.integer?) (value? "output")
  | "partitions" => .partitions
  | "export" => .exportTo (file "output") ((value? "format").getD "snapshot")
  | "import" => .importFrom (file "input")
  | _ => .status

/-- The options that the switches of both levels give, those of the inner level first. -/
def optionsOf (given : List (String × String)) : Options where
  settingsFile := given.lookup "config"
  database := given.lookup "database"
  backend := (given.lookup "backend").bind Backend.ofText?
  repository := (given.lookup "repository").getD defaultRepository
  json := (given.lookup "json-mode").isSome
  quiet := (given.lookup "quiet").isSome

/-- Reads a command line. Without a command it asks for the status. -/
def parse (arguments : List String) : Except UsageFault (Options × Command) := do
  let (outer, command) ← Progress.read programGrammar {} arguments
  match command with
  | none =>
      let outer ← outer.finish programGrammar
      return (optionsOf outer.given, .status)
  | some (name, rest) =>
      match commandGrammar? name with
      | none => .error (helpFault rest)
      | some grammar =>
          let (inner, _) ← Progress.read grammar {} rest
          let inner ← inner.finish grammar
          let outer ← outer.finish programGrammar
          return (optionsOf (inner.given ++ outer.given), commandOf name inner)

end ModelRepository.CommandLine
