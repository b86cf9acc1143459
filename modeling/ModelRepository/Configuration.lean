import ModelRepository.FormatVersion

/-! What a repository declares about itself when it is created. -/

namespace ModelRepository

/-- Whether a repository is asked to keep earlier versions of its content. -/
inductive History where
  | disabled
  | enabled
  deriving DecidableEq, Inhabited

/-- The text by which configurations name the choice. -/
def History.text : History → String
  | .disabled => "disabled"
  | .enabled => "enabled"

/-- The choice that `name` stands for. -/
def History.ofText? (name : String) : Option History :=
  if name = "disabled" then some .disabled
  else if name = "enabled" then some .enabled
  else none

/-- The name of a repository, its declared format and its stance on history. -/
structure Configuration where
  name : String
  formatVersion : FormatVersion := .standard
  history : History := .disabled
  deriving DecidableEq, Inhabited

end ModelRepository
