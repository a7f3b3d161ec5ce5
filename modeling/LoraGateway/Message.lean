import LoraGateway.Eui
import LoraGateway.Json.Printer

/-!
# Messages

A message is one JSON object that grows by appending members. Names are not merged: a frame with
two records of a kind yields two members of the same name. A member is written at once, or opened as
an array that collects the items that follow, up to the next call that is not an item
(`Call`, `Message.apply`).
-/

namespace LoraGateway

/-- The value of a member or an item. -/
inductive FieldValue
  | text (s : String)
  | int (n : Int64)
  /-- An identifier, in its written form. -/
  | eui (e : Eui)
  /-- A byte string, in hexadecimal. -/
  | bytes (bs : Bytes)
  deriving DecidableEq, Repr

/-- The JSON value of a field. -/
def FieldValue.json : FieldValue → Json
  | .text s => .string s
  | .int n => .number (.int n.toInt)
  | .eui e => .string e.text
  | .bytes bs => .string (Hex.text bs)

/-- A message under construction. -/
structure Message where
  /-- The members that are complete. -/
  members : List (String × Json) := []
  /-- The array that is still collecting items, if any. -/
  openArray : Option (String × List Json) := none
  deriving Inhabited

namespace Message

/-- A step in the construction of a message. -/
inductive Call
  | field (name : String) (v : FieldValue)
  | beginArray (name : String)
  | item (v : FieldValue)
  | endArray
  deriving DecidableEq, Repr

/-- The members of a message, with the array that is still open at the end. -/
def allMembers (m : Message) : List (String × Json) :=
  m.members ++ (m.openArray.map fun (name, items) => (name, Json.array items)).toList

/-- Completes the open array, if there is one. -/
def endArray (m : Message) : Message :=
  { members := m.allMembers }

/-- Appends a member. -/
def field (m : Message) (name : String) (v : FieldValue) : Message :=
  { members := m.endArray.members ++ [(name, v.json)] }

/-- Opens an array. -/
def beginArray (m : Message) (name : String) : Message :=
  { members := m.endArray.members, openArray := some (name, []) }

/-- Appends an item to the open array; without one, it is dropped. -/
def item (m : Message) (v : FieldValue) : Message :=
  { m with openArray := m.openArray.map fun (name, items) => (name, items ++ [v.json]) }

/-- Takes a step. -/
def apply (m : Message) : Call → Message
  | .field name v => m.field name v
  | .beginArray name => m.beginArray name
  | .item v => m.item v
  | .endArray => m.endArray

/-- Takes steps in their order. -/
def applyAll (m : Message) (calls : List Call) : Message :=
  calls.foldl apply m

/-- The names of the complete members. -/
def names (m : Message) : List String :=
  m.members.map (·.1)

/-- The value of the first complete member of a name. -/
def first? (m : Message) (name : String) : Option Json :=
  m.members.lookup name

/-- The values of all complete members of a name. -/
def all (m : Message) (name : String) : List Json :=
  (m.members.filter (·.1 == name)).map (·.2)

/-- True if no member was written or opened. -/
def isEmpty (m : Message) : Bool :=
  m.members.isEmpty && m.openArray.isNone

/-- The object that a message is. -/
def json (m : Message) : Json :=
  .object m.allMembers

/-- The JSON text of a message, on one line. -/
def text (m : Message) : String :=
  m.json.text

end Message

end LoraGateway
