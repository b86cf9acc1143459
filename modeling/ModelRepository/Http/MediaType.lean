import ModelRepository.Http.Message

/-! The media types of bodies.
A media type is a type and a subtype, perhaps with a suffix, and may be followed by parameters;
upper and lower case do not differ.
-/

namespace ModelRepository.Http

/-- Characters of the words of a media type. -/
def isTokenChar (c : Char) : Bool :=
  c.isAlphanum || "!#$%&\x27*+-.^_\x60|~".toList.contains c

/-- How far the parameters of a media type have been read. -/
inductive ParameterScan where
  /-- In front of a parameter. -/
  | before
  | name
  | valueStart
  | value
  /-- Inside quotes; `empty` tells that nothing was found there yet. -/
  | quoted (empty : Bool)
  | afterQuotes
  deriving DecidableEq

namespace ParameterScan

/-- Whether the parameters may end here. -/
def mayEnd : ParameterScan → Bool
  | before | valueStart | value | afterQuotes => true
  | name | quoted _ => false

/-- Takes in one character; nothing when it may not stand here. -/
def step (scan : ParameterScan) (c : Char) : Option ParameterScan :=
  match scan with
  | before => if c = ' ' then some before else if isTokenChar c then some name else none
  | name => if isTokenChar c then some name else if c = '=' then some valueStart else none
  | valueStart =>
      if c = '"' then some (quoted true) else if isTokenChar c then some value else none
  | value => if isTokenChar c then some value else if c = ';' then some before else none
  | quoted empty =>
      if c = '"' && !empty then some afterQuotes
      else if 32 ≤ c.toNat ∧ c.toNat ≠ 127 then some (quoted false)
      else none
  | afterQuotes =>
      if c = ';' then some before else if c = ' ' then some afterQuotes else none

end ParameterScan

/-- Whether a text is a media type of JSON: the subtype is `json`, with or without a suffix, or the
suffix is. -/
def isJsonMediaType (text : String) : Bool :=
  let chars := text.toLower.toList
  let type := chars.takeWhile (· ≠ '/')
  let rest := (chars.dropWhile (· ≠ '/')).drop 1
  let subtype := rest.takeWhile (· ≠ ';')
  let parameters := (rest.dropWhile (· ≠ ';')).drop 1
  -- A plus sign in front of everything belongs to the subtype.
  let reversed := (subtype.drop 1).reverse
  let hasSuffix := reversed.contains '+'
  let suffix := (reversed.takeWhile (· ≠ '+')).reverse
  let stem := if hasSuffix then subtype.take (subtype.length - suffix.length - 1) else subtype
  isHeaderText text && type = "application".toList && subtype.all isTokenChar
    && (stem = "json".toList || (hasSuffix && suffix = "json".toList))
    && (parameters.foldlM ParameterScan.step .before).any ParameterScan.mayEnd

end ModelRepository.Http
