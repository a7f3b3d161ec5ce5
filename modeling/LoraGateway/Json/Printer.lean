import LoraGateway.Decimal.Shortest
import LoraGateway.Json.Basic

/-!
# Printing JSON

A value is printed compactly (`chars`), or with every item and member on a line of its own, two
blanks deeper than its container (`prettyChars`). In both forms a string has its quotes,
backslashes and control characters escaped, so no form but the second has a line break, and that one
only between tokens.
-/

namespace LoraGateway.Json

/-- Numbers are positional as long as the leading digit stands at most five places after and
    sixteen places before the point; a whole number keeps its point. -/
def floatLayout : Decimal.Layout where
  lowest := -5
  highest := 15
  mark := 'e'
  plus := true

namespace Number

/-- The characters of a number. -/
def chars : Number → List Char
  | .int n => Decimal.signed n
  | .float x => floatLayout.text x

end Number

/-- A character inside quotes. -/
def escape (c : Char) : List Char :=
  match c with
  | '"' => ['\\', '"']
  | '\\' => ['\\', '\\']
  | '\x08' => ['\\', 'b']
  | '\x0c' => ['\\', 'f']
  | '\n' => ['\\', 'n']
  | '\r' => ['\\', 'r']
  | '\t' => ['\\', 't']
  | c =>
    if c.toNat < 0x20 then
      ['\\', 'u', '0', '0', Nat.digitChar (c.toNat / 16), Nat.digitChar (c.toNat % 16)]
    else [c]

/-- A text in quotes. -/
def quote (s : List Char) : List Char :=
  '"' :: (s.flatMap escape ++ ['"'])

mutual

/-- The compact form of a value. -/
def chars : Json → List Char
  | .null => ['n', 'u', 'l', 'l']
  | .bool true => ['t', 'r', 'u', 'e']
  | .bool false => ['f', 'a', 'l', 's', 'e']
  | .number n => n.chars
  | .string s => quote s.toList
  | .array items => '[' :: (itemChars [] items ++ [']'])
  | .object members => '{' :: (memberChars [] members ++ ['}'])
termination_by structural v => v

/-- The items of an array, the first after the given separator and the others after a comma. -/
def itemChars (separator : List Char) : List Json → List Char
  | [] => []
  | v :: rest => separator ++ v.chars ++ itemChars [','] rest
termination_by structural items => items

/-- The members of an object, the first after the given separator and the others after a comma. -/
def memberChars (separator : List Char) : List (String × Json) → List Char
  | [] => []
  | m :: rest => separator ++ pairChars m ++ memberChars [','] rest
termination_by structural members => members

/-- A member of an object. -/
def pairChars : String × Json → List Char
  | (name, v) => quote name.toList ++ ':' :: v.chars
termination_by structural m => m

end

/-- The start of a line inside `depth` containers. -/
def newLine (depth : Nat) : List Char :=
  '\n' :: List.replicate (2 * depth) ' '

mutual

/-- The form on several lines of a value inside `depth` containers. -/
def prettyChars (depth : Nat) : Json → List Char
  | .array (v :: rest) =>
    '[' :: (newLine (depth + 1) ++ v.prettyChars (depth + 1) ++ prettyItems (depth + 1) rest ++
      newLine depth ++ [']'])
  | .object (m :: rest) =>
    '{' :: (newLine (depth + 1) ++ prettyPair (depth + 1) m ++ prettyMembers (depth + 1) rest ++
      newLine depth ++ ['}'])
  | .array [] => ['[', ']']
  | .object [] => ['{', '}']
  | .null => chars .null
  | .bool b => chars (.bool b)
  | .number n => chars (.number n)
  | .string s => chars (.string s)
termination_by structural v => v

/-- The items of an array after the first. -/
def prettyItems (depth : Nat) : List Json → List Char
  | [] => []
  | v :: rest => ',' :: (newLine depth ++ v.prettyChars depth ++ prettyItems depth rest)
termination_by structural items => items

/-- The members of an object after the first. -/
def prettyMembers (depth : Nat) : List (String × Json) → List Char
  | [] => []
  | m :: rest => ',' :: (newLine depth ++ prettyPair depth m ++ prettyMembers depth rest)
termination_by structural members => members

/-- A member of an object. -/
def prettyPair (depth : Nat) : String × Json → List Char
  | (name, v) => quote name.toList ++ ':' :: ' ' :: v.prettyChars depth
termination_by structural m => m

end

/-- The compact text of a value. -/
def text (v : Json) : String :=
  String.ofList v.chars

/-- The text of a value on several lines. -/
def prettyText (v : Json) : String :=
  String.ofList (v.prettyChars 0)

end LoraGateway.Json
