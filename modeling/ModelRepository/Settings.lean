import ModelRepository.Configuration
import ModelRepository.Error
import ModelRepository.Text.Blank
import ModelRepository.Text.Numeral
import ModelRepository.Toml.Document

/-! Settings, which come from a file and from the environment.
A file may leave out any section and any setting, but it may not name one that does not exist. The
environment wins over the file, and the file over the built-in values.
-/

namespace ModelRepository

/-- Where a server keeps its repositories. -/
inductive Backend where
  | memory
  | database
  deriving DecidableEq, Inhabited

namespace Backend

/-- The text by which settings name a backend. -/
def text : Backend → String
  | memory => "memory"
  | database => "redb"

/-- The backend that `name` stands for. -/
def ofText? (name : String) : Option Backend :=
  if name = "memory" then some memory
  else if name = "redb" then some database
  else none

/-- Reads the name of a backend. -/
def parse (name : String) : Except RepositoryError Backend :=
  match ofText? name with
  | some backend => .ok backend
  | none => .error (.invalidRequest (.unknownBackend name))

end Backend

/-- What a settings file says. -/
structure Settings where
  host : String := "127.0.0.1"
  port : Nat := 8080
  /-- The largest request body, in bytes. -/
  bodyLimit : Nat := 2097152
  backend : Option Backend := none
  database : Option String := none
  rateLimit : Option Nat := none
  corsOrigins : Option String := none
  apiKey : Option String := none
  /-- The repositories that have to exist, in the order in which they are listed. -/
  repositories : List Configuration := []
  deriving DecidableEq, Inhabited

namespace Settings

open Toml (Item Entries)

/-- A setting that is read into a draft of type `σ`. -/
structure Setting (σ : Type) where
  name : String
  read : Item → σ → Option σ

/-- A setting whose value is put into the draft. -/
def Setting.of {σ α : Type} (name : String) (value? : Item → Option α) (put : α → σ → σ)
    : Setting σ where
  name
  read item draft := (value? item).map (put · draft)

/-- The items of an array, whether it is written as one or with headers. -/
def items? : Item → Option (List Item)
  | .array items => some items
  | .tables tables => some tables.reverse
  | _ => none

/-- A text. -/
def text? : Item → Option String
  | .text value => some value
  | _ => none

/-- A whole number of at most `max`. -/
def natural? (max : Nat) : Item → Option Nat
  | .integer value => if 0 ≤ value ∧ value ≤ max then some value.toNat else none
  | _ => none

/-- One of the named alternatives: its name, or a table with the name as its only key and nothing
behind it. -/
def alternative? {α : Type} (ofName? : String → Option α) : Item → Option α
  | .text name => ofName? name
  | .table _ [(name, .table _ [])] | .table _ [(name, .array [])] => ofName? name
  | _ => none

/-- Reads the entries of a table into the draft. -/
def readEntries {σ : Type} (settings : List (Setting σ)) (draft : σ) (entries : Entries)
    : Option σ :=
  entries.foldlM
    (fun draft entry =>
      (settings.find? (·.name = entry.1)).bind fun setting => setting.read entry.2 draft)
    draft

/-- Reads a section into the draft: a table, or an array of the settings in order. -/
def readSection {σ : Type} (settings : List (Setting σ)) (draft : σ) : Item → Option σ
  | .table _ entries => readEntries settings draft entries
  | item => do
      let items ← items? item
      (settings.zip items).foldlM (fun draft (setting, item) => setting.read item draft) draft

/-- Where and how much the server listens. -/
def serverSettings : List (Setting Settings) := [
  .of "host" text? fun host settings => { settings with host },
  .of "port" (natural? 65535) fun port settings => { settings with port },
  .of "body_limit_bytes" (natural? Text.maxWord64) fun bodyLimit settings =>
    { settings with bodyLimit }
]

/-- Where repositories are kept. -/
def storageSettings : List (Setting Settings) := [
  .of "backend" (alternative? Backend.ofText?) fun backend settings =>
    { settings with backend := some backend },
  .of "database" text? fun database settings => { settings with database := some database }
]

/-- Who may use the server, and how often. -/
def securitySettings : List (Setting Settings) := [
  .of "rate_limit" (natural? Text.maxWord32) fun rateLimit settings =>
    { settings with rateLimit := some rateLimit },
  .of "cors_origins" text? fun corsOrigins settings =>
    { settings with corsOrigins := some corsOrigins },
  .of "api_key" text? fun apiKey settings => { settings with apiKey := some apiKey }
]

/-- The settings of a repository. The name, which has to be there, is read beside the rest. -/
def repositorySettings : List (Setting (Option String × FormatVersion)) := [
  .of "name" text? fun name draft => (some name, draft.2),
  .of "format_version" (alternative? FormatVersion.ofText?) fun version draft =>
    (draft.1, version)
]

/-- A repository that has to exist. -/
def repository? (item : Item) : Option Configuration := do
  let (name, formatVersion) ← readSection repositorySettings (none, .standard) item
  return { name := ← name, formatVersion }

/-- The sections of a settings file. -/
def sections : List (Setting Settings) := [
  ⟨"server", fun item settings => readSection serverSettings settings item⟩,
  ⟨"storage", fun item settings => readSection storageSettings settings item⟩,
  ⟨"security", fun item settings => readSection securitySettings settings item⟩,
  .of "repositories" (fun item => do (← items? item).mapM repository?) fun repositories settings =>
    { settings with repositories }
]

/-- The settings that the text of a file holds. -/
def parse (text : String) : Except RepositoryError Settings :=
  match (Toml.parse? text).bind (readEntries sections {}) with
  | some settings => .ok settings
  | none => .error (.undecodable .configurationText)

/-- The database that is used where none is named. -/
def defaultDatabase : String :=
  "canopy.redb"

/-- The requests per second that are served where no limit is set. -/
def defaultRateLimit : Nat := 100

end Settings

/-- What the environment says. -/
structure Environment where
  rateLimit : Option String := none
  corsOrigins : Option String := none
  apiKey : Option String := none
  deriving DecidableEq, Inhabited

/-- What the HTTP service goes by. -/
structure ServiceSettings where
  /-- The requests that are served per second; zero stands for no limit. -/
  rateLimit : Nat := Settings.defaultRateLimit
  /-- The origins that may call, between commas; only local ones where nothing is said. -/
  corsOrigins : Option String := none
  bodyLimit : Nat
  /-- The key that callers have to present. -/
  apiKey : Option String := none
  deriving DecidableEq, Inhabited

/-- The settings of the HTTP service. What the environment says does not count where it is blank
or no number. -/
def Settings.service (settings : Settings) (environment : Environment) : ServiceSettings where
  rateLimit :=
    ((environment.rateLimit.bind (Text.natural? Text.maxWord32)).or settings.rateLimit).getD
      defaultRateLimit
  corsOrigins :=
    (environment.corsOrigins.filter fun origins => !origins.toList.all Text.isBlank).or
      settings.corsOrigins
  bodyLimit := settings.bodyLimit
  apiKey := (environment.apiKey.filter (!·.isEmpty)).or (settings.apiKey.filter (!·.isEmpty))

/-- The text form of the settings, which does not give the key away. -/
def ServiceSettings.display (settings : ServiceSettings) : String :=
  "ApiSettings \x7b rate_limit: " ++ toString settings.rateLimit
    ++ ", cors_origins: " ++ Text.quoteOption settings.corsOrigins
    ++ ", body_limit_bytes: " ++ toString settings.bodyLimit
    ++ ", api_key: " ++ Text.quoteOption (settings.apiKey.map fun _ => "<set>") ++ " \x7d"

end ModelRepository
