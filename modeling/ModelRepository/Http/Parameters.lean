import ModelRepository.Identifier
import ModelRepository.Text.Blank
import ModelRepository.Text.Hex
import ModelRepository.Text.Numeral
import ModelRepository.Text.Utf8

/-! The parameters that a query holds.
A plus sign stands for a space, and a percent sign with two hexadecimal digits for a byte. A
parameter that is wanted may be given only once; others do not count.
-/

namespace ModelRepository.Http

open Binary (Bytes)

/-- The bytes that the characters of a query stand for, behind those in `out`, which are held
latest first. -/
def unescapeQuery (out : Bytes) : List Char → Bytes
  | [] => out.reverse
  | '%' :: a :: b :: rest =>
      match Text.hexValue? a, Text.hexValue? b with
      | some high, some low => unescapeQuery (UInt8.ofNat (high * 16 + low) :: out) rest
      | _, _ => unescapeQuery (37 :: out) (a :: b :: rest)
  | c :: rest =>
      let bytes := if c = '+' then [32] else String.utf8EncodeChar c
      unescapeQuery (bytes.reverse ++ out) rest
termination_by chars => chars.length

/-- The text that the characters of a query stand for. -/
def queryText (chars : List Char) : String :=
  Text.readUtf8 (unescapeQuery [] chars)

/-- The names and values that a query gives, in order. -/
structure Parameters where
  pairs : List (String × String)

namespace Parameters

/-- Reads a query; a name without an equals sign has an empty value. -/
def ofQuery (query : String) : Parameters :=
  let parts := (Text.splitAtAll (· = '&') query.toList).filter (!·.isEmpty)
  ⟨parts.map fun part =>
    (queryText (part.takeWhile (· ≠ '=')), queryText ((part.dropWhile (· ≠ '=')).drop 1))⟩

/-- The value of a wanted parameter. It is an error to give it twice, or a value that cannot be
read. -/
def read? {α : Type} (parameters : Parameters) (name : String) (value? : String → Option α)
    : Option (Option α) :=
  match parameters.pairs.filter (·.1 = name) with
  | [] => some none
  | [(_, text)] => (value? text).map some
  | _ => none

/-- The repository that is meant. -/
def repository? (parameters : Parameters) : Option String :=
  (parameters.read? "repository" some).map (·.getD defaultRepository)

end Parameters

end ModelRepository.Http
