import LoraGateway.Json.Token

/-!
# Reading JSON

A JSON text is read in two steps. `Syntax.ofText?` accepts exactly the texts of the grammar and
keeps numbers and strings as they are written; `Syntax.value?` gives the value, which not every
well-formed text has: a number may be out of range, a string may hold half of a surrogate pair.
`Json.ofText?` is both, for texts that are not nested too deeply.

The parser is a machine on tokens whose state holds the containers that are still open.
-/

namespace LoraGateway

namespace Json

/-- A JSON text without regard to what its numbers and strings stand for. -/
inductive Syntax
  | null
  | bool (b : Bool)
  | number (n : Numeral)
  | string (s : Option String)
  | array (items : List Syntax)
  | object (members : List (Option String × Syntax))
  deriving Repr, Inhabited

/-- An open container, with what was read of it, the latest first. -/
inductive Container
  | array (read : List Syntax)
  /-- An object whose member of the given name is being read. -/
  | object (read : List (Option String × Syntax)) (name : Option String)

namespace Parser

/-- What may come next, inside the given open containers, the innermost first. -/
inductive State
  /-- A value must come. -/
  | value (context : List Container)
  /-- The first item of an array, or its end. -/
  | firstItem (context : List Container)
  /-- The first member of an object, or its end. -/
  | firstMember (context : List Container)
  /-- A further member of an object. -/
  | member (read : List (Option String × Syntax)) (context : List Container)
  /-- The colon after the name of a member. -/
  | colon (read : List (Option String × Syntax)) (name : Option String) (context : List Container)
  /-- A value was read: what separates it from the next one, or the end of its container. -/
  | done (v : Syntax) (context : List Container)

/-- The state after the first token of a value. -/
def open? (context : List Container) : Token → Option State
  | .openArray => some (.firstItem context)
  | .openObject => some (.firstMember context)
  | .null => some (.done .null context)
  | .bool b => some (.done (.bool b) context)
  | .number n => some (.done (.number n) context)
  | .string s => some (.done (.string s) context)
  | _ => none

/-- The state after a token. -/
def step : State → Token → Option State
  | .value context, t => open? context t
  | .firstItem context, .closeArray => some (.done (.array []) context)
  | .firstItem context, t => open? (.array [] :: context) t
  | .firstMember context, .closeObject => some (.done (.object []) context)
  | .firstMember context, .string s => some (.colon [] s context)
  | .member read context, .string s => some (.colon read s context)
  | .colon read name context, .colon => some (.value (.object read name :: context))
  | .done v (.array read :: context), .comma => some (.value (.array (v :: read) :: context))
  | .done v (.array read :: context), .closeArray =>
    some (.done (.array (v :: read).reverse) context)
  | .done v (.object read name :: context), .comma => some (.member ((name, v) :: read) context)
  | .done v (.object read name :: context), .closeObject =>
    some (.done (.object ((name, v) :: read).reverse) context)
  | _, _ => none

/-- The value that a state is done with. -/
def result? : State → Option Syntax
  | .done v [] => some v
  | _ => none

/-- The value of the rest of a text. -/
def run (s : State) : List Token → Option Syntax
  | [] => result? s
  | t :: rest => (step s t).bind (run · rest)

end Parser

namespace Syntax

/-- Reads the tokens of a single value. -/
def ofTokens? (ts : List Token) : Option Syntax :=
  Parser.run (.value []) ts

/-- Reads a JSON text. -/
def ofText? (s : String) : Option Syntax :=
  (Token.ofChars? s.toList).bind ofTokens?

mutual

/-- How deeply containers are nested. -/
def depth : Syntax → Nat
  | .array items => depthItems items + 1
  | .object members => depthMembers members + 1
  | .null => 0
  | .bool _ => 0
  | .number _ => 0
  | .string _ => 0
termination_by structural v => v

/-- The greatest depth of an item. -/
def depthItems : List Syntax → Nat
  | [] => 0
  | v :: rest => max v.depth (depthItems rest)
termination_by structural items => items

/-- The greatest depth of a member. -/
def depthMembers : List (Option String × Syntax) → Nat
  | [] => 0
  | m :: rest => max (depthMember m) (depthMembers rest)
termination_by structural members => members

/-- The depth of a member. -/
def depthMember : Option String × Syntax → Nat
  | (_, v) => v.depth
termination_by structural m => m

end

mutual

/-- The value that a JSON text stands for. -/
def value? : Syntax → Option Json
  | .null => some .null
  | .bool b => some (.bool b)
  | .number n => n.value?.map .number
  | .string s => s.map .string
  | .array items => (itemValues? items).map .array
  | .object members => (memberValues? members).map .object
termination_by structural v => v

/-- The values of the items of an array. -/
def itemValues? : List Syntax → Option (List Json)
  | [] => some []
  | v :: rest => do
    let x ← v.value?
    let xs ← itemValues? rest
    pure (x :: xs)
termination_by structural items => items

/-- The members of an object with their values. -/
def memberValues? : List (Option String × Syntax) → Option (List (String × Json))
  | [] => some []
  | m :: rest => do
    let x ← memberValue? m
    let xs ← memberValues? rest
    pure (x :: xs)
termination_by structural members => members

/-- A member with its value. -/
def memberValue? : Option String × Syntax → Option (String × Json)
  | (name, v) => do
    let k ← name
    let x ← v.value?
    pure (k, x)
termination_by structural m => m

end

end Syntax

/-- The deepest nesting that is read. -/
def maxDepth : Nat := 127

/-- The value of a JSON text. -/
def ofText? (s : String) : Option Json := do
  let v ← Syntax.ofText? s
  if v.depth ≤ maxDepth then v.value? else none

end Json

end LoraGateway
