/-! Blank characters, which separate words and may surround a value.
The set is that of the White_Space property, which also has members outside ASCII.
-/

namespace ModelRepository.Text

/-- Whether a character is blank. -/
def isBlank (c : Char) : Bool :=
  let code := c.toNat
  (9 ≤ code && code ≤ 13) || code = 32 || code = 0x85 || code = 0xa0 || code = 0x1680
    || (0x2000 ≤ code && code ≤ 0x200a) || code = 0x2028 || code = 0x2029 || code = 0x202f
    || code = 0x205f || code = 0x3000

/-- The characters without those at either end that satisfy `p`. -/
def stripEnds {α : Type} (p : α → Bool) (items : List α) : List α :=
  ((items.dropWhile p).reverse.dropWhile p).reverse

/-- The text without the blanks around it. -/
def strip (text : String) : String :=
  String.ofList (stripEnds isBlank text.toList)

/-- The parts of a list between the places that satisfy `p`; there is always one more part than
there are such places. -/
def splitAtAll {α : Type} (p : α → Bool) : List α → List (List α)
  | [] => [[]]
  | a :: rest =>
      match splitAtAll p rest with
      | [] => [[a]]
      | part :: parts => if p a then [] :: part :: parts else (a :: part) :: parts

/-- The parts of a text between commas. -/
def commaParts (text : String) : List String :=
  (splitAtAll (· = ',') text.toList).map String.ofList

end ModelRepository.Text
