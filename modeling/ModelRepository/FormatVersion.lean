/-! The releases of the chunk serialization format that a repository can declare. -/

namespace ModelRepository

/-- A supported release of the serialization format. -/
inductive FormatVersion where
  | v2023_1
  | v2024_1
  deriving DecidableEq, Inhabited

namespace FormatVersion

/-- The release that applies where none is named. -/
def standard : FormatVersion :=
  v2024_1

/-- The text by which chunks and configurations name a release. -/
def text : FormatVersion → String
  | v2023_1 => "2023.1"
  | v2024_1 => "2024.1"

/-- The release that `name` stands for. -/
def ofText? (name : String) : Option FormatVersion :=
  if name = "2023.1" then some v2023_1
  else if name = "2024.1" then some v2024_1
  else none

/-- A release is read back from its own text, by cases on the release. -/
theorem ofText?_text (version : FormatVersion) : ofText? version.text = some version := by
  cases version <;> decide

/-- Only its own text stands for a release. -/
theorem ofText?_eq_some_iff (name : String) (version : FormatVersion)
    : ofText? name = some version ↔ name = version.text := by
  constructor
  · intro named
    unfold ofText? at named
    split at named
    · cases named
      assumption
    · split at named
      · cases named
        assumption
      · cases named
  · rintro rfl
    exact ofText?_text version

end FormatVersion

end ModelRepository
