/-!
# JSON values

What a JSON text stands for. An object is the list of its members as they were written, repeated
names included (`Json`). Where only the last member of a name counts and the order does not,
`canonical` brings every object into one form: each name once, in ascending order.
-/

namespace LoraGateway

namespace Json

/-- A number of a JSON text: a whole number of the 64-bit range or a double-precision one. -/
inductive Number
  | int (n : Int)
  | float (x : Float)
  deriving Repr, Inhabited

end Json

/-- A JSON value. -/
inductive Json
  | null
  | bool (b : Bool)
  | number (n : Json.Number)
  | string (s : String)
  | array (items : List Json)
  | object (members : List (String × Json))
  deriving Repr, Inhabited

namespace Json

/-- Puts a member in front of the first member of a greater name of an ascending list. A member of
    that name that is there already is kept instead. -/
def insertMember (name : String) (v : Json) : List (String × Json) → List (String × Json)
  | [] => [(name, v)]
  | (k, w) :: rest =>
    if name = k then (k, w) :: rest
    else if name < k then (name, v) :: (k, w) :: rest
    else (k, w) :: insertMember name v rest

mutual

/-- The value with each object's names unique and ascending; of repeated members the last stays. -/
def canonical : Json → Json
  | .null => .null
  | .bool b => .bool b
  | .number n => .number n
  | .string s => .string s
  | .array items => .array (canonicalItems items)
  | .object members => .object (canonicalMembers members)
termination_by structural v => v

/-- The items of an array, each in canonical form. -/
def canonicalItems : List Json → List Json
  | [] => []
  | v :: rest => v.canonical :: canonicalItems rest
termination_by structural items => items

/-- The members of an object in canonical form. -/
def canonicalMembers : List (String × Json) → List (String × Json)
  | [] => []
  | m :: rest => insertMember (canonicalMember m).1 (canonicalMember m).2 (canonicalMembers rest)
termination_by structural members => members

/-- A member with its value in canonical form. -/
def canonicalMember : String × Json → String × Json
  | (name, v) => (name, v.canonical)
termination_by structural m => m

end

/-- The first member of a name; `none` for a value that is no object. -/
def member? (name : String) : Json → Option Json
  | .object members => members.lookup name
  | _ => none

/-- The text of a string value. -/
def string? : Json → Option String
  | .string s => some s
  | _ => none

end Json

end LoraGateway
