import ModelRepository.Text.Hex

/-! The tokens of a TOML text.
The characters are scanned one by one. A text in quotes is kept as it is written until its closing
quotes are found, and its escapes are resolved then. A text that is not well formed ends in the
`broken` token.
-/

namespace ModelRepository.Toml

/-- The smallest parts of a TOML text; comments are left out. -/
inductive Token where
  | dot
  | equals
  | comma
  | openBracket
  | closeBracket
  | openBrace
  | closeBrace
  /-- A space or a tab. -/
  | blank (char : Char)
  | newLine
  /-- A run of characters without quotes: a bare key, or all or part of a number or date. -/
  | word (chars : List Char)
  | text (value : String) (multiline : Bool)
  | broken
  deriving DecidableEq

/-- Characters that may stand in comments and texts as they are. -/
def isPlain (c : Char) : Bool :=
  c = '\t' || (32 ≤ c.toNat && c.toNat ≠ 127)

/-- How far the escapes of a text have been resolved. -/
inductive Unescape where
  | plain
  /-- A line end has begun. -/
  | carriage
  | escape
  /-- A character code of which `left` digits are missing. -/
  | code (left value : Nat)
  /-- A backslash hides the rest of its line; `ended` tells whether the line has ended. -/
  | join (ended : Bool)
  | joinCarriage
  deriving DecidableEq

/-- The character that a letter after a backslash stands for. -/
def escapedChar? (letter : Char) : Option Char :=
  if letter = 'b' then some '\x08'
  else if letter = 't' then some '\t'
  else if letter = 'n' then some '\n'
  else if letter = 'f' then some '\x0c'
  else if letter = 'r' then some '\r'
  else if letter = 'e' then some '\x1b'
  else if letter = '"' ∨ letter = '\\' then some letter
  else none

/-- The number of digits of the character code that a letter after a backslash announces. -/
def codeLength? (letter : Char) : Option Nat :=
  if letter = 'x' then some 2
  else if letter = 'u' then some 4
  else if letter = 'U' then some 8
  else none

/-- The characters that those between quotes stand for, behind those in `out`, which are held
latest first. Without escapes a backslash stands for itself. -/
def unescape (escapes multiline : Bool) (out : List Char) (mode : Unescape)
    : List Char → Option (List Char)
  | [] => if mode = .plain ∨ mode = .join true then some out.reverse else none
  | c :: rest =>
      match mode with
      | .plain =>
          if escapes && c = '\\' then unescape escapes multiline out .escape rest
          else if isPlain c then unescape escapes multiline (c :: out) .plain rest
          else if multiline && c = '\n' then unescape escapes multiline (c :: out) .plain rest
          else if multiline && c = '\r' then unescape escapes multiline (c :: out) .carriage rest
          else none
      | .carriage => if c = '\n' then unescape escapes multiline (c :: out) .plain rest else none
      | .escape =>
          match escapedChar? c, codeLength? c with
          | some meant, _ => unescape escapes multiline (meant :: out) .plain rest
          | none, some left => unescape escapes multiline out (.code left 0) rest
          | none, none =>
              if !multiline then none
              else if c = ' ' ∨ c = '\t' then unescape escapes multiline out (.join false) rest
              else if c = '\n' then unescape escapes multiline out (.join true) rest
              else if c = '\r' then unescape escapes multiline out .joinCarriage rest
              else none
      | .code left value =>
          match Text.hexValue? c with
          | none => none
          | some digit =>
              let value := value * 16 + digit
              if 1 < left then unescape escapes multiline out (.code (left - 1) value) rest
              else if value.isValidChar then
                unescape escapes multiline (Char.ofNat value :: out) .plain rest
              else none
      | .join ended =>
          if c = ' ' ∨ c = '\t' then unescape escapes multiline out (.join ended) rest
          else if c = '\n' then unescape escapes multiline out (.join true) rest
          else if c = '\r' then unescape escapes multiline out .joinCarriage rest
          else if !ended then none
          else if escapes && c = '\\' then unescape escapes multiline out .escape rest
          else if isPlain c then unescape escapes multiline (c :: out) .plain rest
          else none
      | .joinCarriage =>
          if c = '\n' then unescape escapes multiline out (.join true) rest else none

/-- A line end at the very front of a text over several lines does not count. -/
def dropFirstLineEnd : List Char → List Char
  | '\n' :: rest => rest
  | '\r' :: '\n' :: rest => rest
  | chars => chars

/-- The token of a text in quotes. -/
def textToken (quote : Char) (multiline : Bool) (chars : List Char) : Token :=
  let chars := if multiline then dropFirstLineEnd chars else chars
  match unescape (quote = '"') multiline [] .plain chars with
  | some chars => .text (String.ofList chars) multiline
  | none => .broken

/-- What is being scanned. The characters of an unfinished token are held latest first. -/
inductive Scan where
  | between
  | word (chars : List Char)
  | comment
  /-- A line end has begun. -/
  | carriage
  /-- One or two quotes that open a text. -/
  | opening (quote : Char) (count : Nat)
  /-- A text; `quotes` are the quotes just seen, and `escaped` tells of a backslash just seen. -/
  | text (quote : Char) (multiline : Bool) (chars : List Char) (quotes : Nat) (escaped : Bool)
  | failed
  deriving DecidableEq

/-- A scan in progress, with the tokens found so far, latest first. -/
structure Lexer where
  scan : Scan := .between
  tokens : List Token := []

namespace Lexer

/-- Finishes a token. -/
def emit (lexer : Lexer) (token : Token) : Lexer :=
  if token = .broken then ⟨.failed, .broken :: lexer.tokens⟩
  else ⟨.between, token :: lexer.tokens⟩

/-- The token that a character is by itself. -/
def single? (c : Char) : Option Token :=
  if c = '.' then some .dot
  else if c = '=' then some .equals
  else if c = ',' then some .comma
  else if c = '[' then some .openBracket
  else if c = ']' then some .closeBracket
  else if c = '\x7b' then some .openBrace
  else if c = '\x7d' then some .closeBrace
  else if c = ' ' ∨ c = '\t' then some (.blank c)
  else if c = '\n' then some .newLine
  else none

/-- Begins a token. -/
def start (lexer : Lexer) (c : Char) : Lexer :=
  match single? c with
  | some token => lexer.emit token
  | none =>
      if c = '\r' then { lexer with scan := .carriage }
      else if c = '#' then { lexer with scan := .comment }
      else if c = '"' ∨ c = '\x27' then { lexer with scan := .opening c 1 }
      else { lexer with scan := .word [c] }

/-- Scans one character of a text in quotes. -/
def stepText (lexer : Lexer) (quote : Char) (multiline : Bool) (chars : List Char)
    (quotes : Nat) (escaped : Bool) (c : Char) : Lexer :=
  if escaped then { lexer with scan := .text quote multiline (c :: chars) 0 false }
  else if c = quote then
    if !multiline then lexer.emit (textToken quote false chars.reverse)
    else if quotes = 4 then
      lexer.emit (textToken quote true (quote :: quote :: chars).reverse)
    else { lexer with scan := .text quote true chars (quotes + 1) false }
  else if 3 ≤ quotes then
    (lexer.emit
      (textToken quote true (List.replicate (quotes - 3) quote ++ chars).reverse)).start c
  else if !multiline && c = '\n' then lexer.emit .broken
  else
    { lexer with
      scan := .text quote multiline (c :: (List.replicate quotes quote ++ chars)) 0
        (quote = '"' && c = '\\') }

/-- Scans one character. -/
def step (lexer : Lexer) (c : Char) : Lexer :=
  match lexer.scan with
  | .between => lexer.start c
  | .word chars =>
      if (single? c).isSome || c = '#' || c = '\r' then
        (lexer.emit (.word chars.reverse)).start c
      else { lexer with scan := .word (c :: chars) }
  | .comment =>
      if c = '\n' ∨ c = '\r' then { lexer with scan := .between }.start c
      else if isPlain c then lexer
      else lexer.emit .broken
  | .carriage => if c = '\n' then lexer.emit .newLine else lexer.emit .broken
  | .opening quote 1 =>
      if c = quote then { lexer with scan := .opening quote 2 }
      else lexer.stepText quote false [] 0 false c
  | .opening quote _ =>
      if c = quote then { lexer with scan := .text quote true [] 0 false }
      else (lexer.emit (.text "" false)).start c
  | .text quote multiline chars quotes escaped =>
      lexer.stepText quote multiline chars quotes escaped c
  | .failed => lexer

/-- The tokens once the input has ended, with a line end behind the last line. -/
def finish (lexer : Lexer) : List Token :=
  let lexer := match lexer.scan with
    | .between | .comment | .failed => lexer
    | .word chars => lexer.emit (.word chars.reverse)
    | .opening _ 2 => lexer.emit (.text "" false)
    | .text quote true chars quotes false =>
        if 3 ≤ quotes then
          lexer.emit (textToken quote true (List.replicate (quotes - 3) quote ++ chars).reverse)
        else lexer.emit .broken
    | _ => lexer.emit .broken
  (.newLine :: lexer.tokens).reverse

end Lexer

/-- The tokens of a text; a byte order mark at its front does not count. -/
def tokens (text : String) : List Token :=
  let chars := match text.toList with
    | '\ufeff' :: rest => rest
    | chars => chars
  (chars.foldl Lexer.step {}).finish

end ModelRepository.Toml
