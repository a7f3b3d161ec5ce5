import LoraGateway.Json.Numeral

/-!
# Tokens of a JSON text

A JSON text is cut into tokens by a machine that looks at one character at a time (`Lexer.step`).
Numbers and words run up to the first character that cannot belong to them; whether they make sense
is asked at their end. A string token holds the text it stands for, or nothing if one of its escapes
is half of a surrogate pair: such a string is well-formed but stands for no text.
-/

namespace LoraGateway.Json

/-- A token of a JSON text. -/
inductive Token
  | openArray
  | closeArray
  | openObject
  | closeObject
  | colon
  | comma
  | null
  | bool (b : Bool)
  | number (n : Numeral)
  | string (s : Option String)
  deriving DecidableEq, Repr

/-- A piece of a string token: a character, or an escaped code unit of sixteen bits. -/
inductive Piece
  | char (c : Char)
  | unit (n : Nat)
  deriving DecidableEq, Repr

namespace Piece

/-- True for the code units that start a surrogate pair. -/
def isHigh (n : Nat) : Bool :=
  0xD800 ≤ n && n < 0xDC00

/-- True for the code units that end a surrogate pair. -/
def isLow (n : Nat) : Bool :=
  0xDC00 ≤ n && n < 0xE000

/-- The text that pieces stand for. -/
def text? : List Piece → Option (List Char)
  | [] => some []
  | .char c :: rest => (text? rest).map (c :: ·)
  | [.unit n] => if isHigh n || isLow n then none else some [Char.ofNat n]
  | .unit n :: .unit m :: rest =>
    if isHigh n then
      if isLow m then
        (text? rest).map (Char.ofNat (0x10000 + (n - 0xD800) * 0x400 + (m - 0xDC00)) :: ·)
      else none
    else if isLow n then none
    else (text? (.unit m :: rest)).map (Char.ofNat n :: ·)
  | .unit n :: .char c :: rest =>
    if isHigh n || isLow n then none
    else (text? rest).map fun r => Char.ofNat n :: c :: r

end Piece

namespace Lexer

/-- Where the machine stands between two characters. What was read of a token is kept in reverse. -/
inductive State
  /-- Between tokens. -/
  | idle
  /-- In a number. -/
  | number (read : List Char)
  /-- In a word. -/
  | word (read : List Char)
  /-- In a string. -/
  | string (read : List Piece)
  /-- In a string, after a backslash. -/
  | escape (read : List Piece)
  /-- In a string, in an escaped code unit of which `digits` digits were read. -/
  | unit (read : List Piece) (digits value : Nat)
  deriving DecidableEq, Repr

/-- The characters between tokens. -/
def isSpace (c : Char) : Bool :=
  c == ' ' || c == '\t' || c == '\n' || c == '\r'

/-- The characters of numbers. -/
def isNumberChar (c : Char) : Bool :=
  c.isDigit || c == '-' || c == '+' || c == '.' || c == 'e' || c == 'E'

/-- The token of a word. -/
def word? (cs : List Char) : Option Token :=
  if cs = ['n', 'u', 'l', 'l'] then some .null
  else if cs = ['t', 'r', 'u', 'e'] then some (.bool true)
  else if cs = ['f', 'a', 'l', 's', 'e'] then some (.bool false)
  else none

/-- The character that a one-letter escape stands for. -/
def escaped? : Char → Option Char
  | '"' => some '"'
  | '\\' => some '\\'
  | '/' => some '/'
  | 'b' => some '\x08'
  | 'f' => some '\x0c'
  | 'n' => some '\n'
  | 'r' => some '\r'
  | 't' => some '\t'
  | _ => none

/-- The value of a digit of an escaped code unit. -/
def hexDigit? (c : Char) : Option Nat :=
  if c.isDigit then some (c.toNat - 0x30)
  else if 'a' ≤ c ∧ c ≤ 'f' then some (c.toNat - 0x57)
  else if 'A' ≤ c ∧ c ≤ 'F' then some (c.toNat - 0x37)
  else none

/-- Reads a character between tokens. -/
def start (c : Char) : Option (List Token × State) :=
  if isSpace c then some ([], .idle)
  else if c.isDigit || c == '-' then some ([], .number [c])
  else if c.isAlpha then some ([], .word [c])
  else match c with
    | '"' => some ([], .string [])
    | '[' => some ([.openArray], .idle)
    | ']' => some ([.closeArray], .idle)
    | '{' => some ([.openObject], .idle)
    | '}' => some ([.closeObject], .idle)
    | ':' => some ([.colon], .idle)
    | ',' => some ([.comma], .idle)
    | _ => none

/-- Reads the character after the end of a token. -/
def startAfter (t : Token) (c : Char) : Option (List Token × State) :=
  (start c).map fun (ts, s) => (t :: ts, s)

/-- Reads a character: the tokens that it ends, and where the machine stands after it. -/
def step : State → Char → Option (List Token × State)
  | .idle, c => start c
  | .number read, c =>
    if isNumberChar c then some ([], .number (c :: read))
    else do startAfter (.number (← Numeral.ofChars? read.reverse)) c
  | .word read, c =>
    if c.isAlpha then some ([], .word (c :: read))
    else do startAfter (← word? read.reverse) c
  | .string read, c =>
    if c == '"' then some ([.string ((Piece.text? read.reverse).map String.ofList)], .idle)
    else if c == '\\' then some ([], .escape read)
    else if c.toNat < 0x20 then none
    else some ([], .string (.char c :: read))
  | .escape read, c =>
    if c == 'u' then some ([], .unit read 0 0)
    else (escaped? c).map fun d => ([], .string (.char d :: read))
  | .unit read digits value, c =>
    (hexDigit? c).map fun d =>
      let value := 16 * value + d
      if digits = 3 then ([], .string (.unit value :: read))
      else ([], .unit read (digits + 1) value)

/-- The token that the end of the text ends. -/
def finish : State → Option (List Token)
  | .idle => some []
  | .number read => (Numeral.ofChars? read.reverse).map ([.number ·])
  | .word read => (word? read.reverse).map ([·])
  | _ => none

/-- The tokens of the rest of a text. -/
def run (s : State) : List Char → Option (List Token)
  | [] => finish s
  | c :: rest => do
    let (ts, s') ← step s c
    let us ← run s' rest
    pure (ts ++ us)

end Lexer

/-- The tokens of a JSON text. -/
def Token.ofChars? (cs : List Char) : Option (List Token) :=
  Lexer.run .idle cs

end LoraGateway.Json
