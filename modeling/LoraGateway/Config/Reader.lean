import LoraGateway.Config.Basic
import LoraGateway.Json.Syntax

/-!
# Reading configurations

A configuration is written as a JSON object, or as an array of its fields in their order. In an
object, members of other names are passed over, but no field may be given twice; in an array, fields
may be left out at the end. So it is with the groups of fields inside it (`Json.Syntax.fields?`).

The two filter fields have the same form in a message that reconfigures a running gateway
(`Config.ofRouterMessage`).
-/

namespace LoraGateway

namespace Json.Syntax

/-- The member of a name, if there is one; `none` if there are several. -/
def field? (name : String) (members : List (Option String × Syntax)) : Option (Option Syntax) :=
  match members.filter fun m => m.1 == some name with
  | [] => some none
  | [m] => some (some m.2)
  | _ => none

/-- The given fields of a group, each with its value if it has one. -/
def fields? (names : List String) : Syntax → Option (List (Option Syntax))
  | .object members =>
    if members.all (·.1.isSome) then names.mapM (field? · members) else none
  | .array items =>
    if items.length ≤ names.length then
      some ((List.range names.length).map fun i => items[i]?)
    else none
  | _ => none

/-- The value of a field, or the default if it is left out. -/
def orDefault {α : Type} (read : Syntax → Option α) (default : α) : Option Syntax → Option α
  | none => some default
  | some v => read v

end Json.Syntax

namespace Json

/-- A whole number below a bound that is at most `2 ^ 64`. -/
def natBelow? (bound : Nat) : Json → Option Nat
  | .number (.int n) => if 0 ≤ n ∧ n < bound then some n.toNat else none
  | _ => none

/-- The items of an array, each read in the same way. -/
def items? {α : Type} (read : Json → Option α) : Json → Option (List α)
  | .array items => items.mapM read
  | _ => none

end Json

/-- Reads an identifier. -/
def EuiEntry.ofJson? : Json → Option EuiEntry
  | .string s => some (.text s)
  | v => (v.natBelow? UInt64.size).map fun n => .number (UInt64.ofNat n)

namespace Config

/-- Reads a range of identifiers. -/
def rangeOfJson? : Json → Option (EuiEntry × EuiEntry)
  | .array [lo, hi] => do
    let lo ← EuiEntry.ofJson? lo
    let hi ← EuiEntry.ofJson? hi
    pure (lo, hi)
  | _ => none

/-- Reads a list of ranges. -/
def rangesOfJson? : Json → Option (List (EuiEntry × EuiEntry)) :=
  Json.items? rangeOfJson?

/-- Reads a list of networks. -/
def netIdsOfJson? : Json → Option (List UInt64) :=
  Json.items? fun v => (v.natBelow? UInt64.size).map UInt64.ofNat

/-- Reads a list of networks that may be null. -/
def optionalNetIdsOfJson? : Json → Option (Option (List UInt64))
  | .null => some none
  | v => (netIdsOfJson? v).map some

/-- Reads a beacon layout: its three offsets. -/
def layoutOfJson? (v : Json) : Option Beacon.Layout :=
  match Json.items? (·.natBelow? UInt8.size) v with
  | some [time, info, length] =>
    some ⟨UInt8.ofNat time, UInt8.ofNat info, UInt8.ofNat length⟩
  | _ => none

/-- The station format of a name. -/
def macFormatOfName? (name : String) : Option MacFormat :=
  if name = "bytes" then some .bytes
  else if name = "colon" then some .colon
  else none

/-- Reads a station format: its name, or an object with null under its name. -/
def macFormatOfSyntax? : Json.Syntax → Option MacFormat
  | .string (some name) => macFormatOfName? name
  | .object [(some name, .null)] => macFormatOfName? name
  | _ => none

/-- Reads a truth value. -/
def boolOfSyntax? : Json.Syntax → Option Bool
  | .bool b => some b
  | _ => none

/-- Reads the choices of messages. -/
def optionsOfSyntax? (v : Json.Syntax) : Option MessageOptions := do
  match ← v.fields? ["mac_format", "raw_payload"] with
  | [macFormat, rawPayload] =>
    let macFormat ← Json.Syntax.orDefault macFormatOfSyntax? .bytes macFormat
    let rawPayload ← Json.Syntax.orDefault boolOfSyntax? true rawPayload
    pure { macFormat, rawPayload }
  | _ => none

/-- Reads the beacon settings, of which the layout may not be left out. -/
def beaconOfSyntax? (v : Json.Syntax) : Option Beacon.Layout := do
  match ← v.fields? ["layout"] with
  | [some layout] => layout.value?.bind layoutOfJson?
  | _ => none

/-- Reads a configuration. -/
def ofSyntax? (v : Json.Syntax) : Option Config := do
  match ← v.fields? ["join_eui_filter", "netid_filter", "decode", "beacon"] with
  | [ranges, netIds, options, layout] =>
    let ranges ← Json.Syntax.orDefault (·.value?.bind rangesOfJson?) [] ranges
    let netIds ← Json.Syntax.orDefault (·.value?.bind optionalNetIdsOfJson?) none netIds
    let options ← Json.Syntax.orDefault optionsOfSyntax? {} options
    let layout ← Json.Syntax.orDefault beaconOfSyntax? .eu868 layout
    pure { joinEuiRanges := ranges, netIds, options, layout }
  | _ => none

/-- Reads a configuration from its JSON text. -/
def ofText? (s : String) : Option Config :=
  (Json.Syntax.ofText? s).bind ofSyntax?

/-- Reads a configuration that must be usable. -/
def ofUsableText (s : String) : Except Error Config :=
  match ofText? s with
  | none => throw .json
  | some c => do
    c.check
    pure c

/-- The value of a field of a message; a field that is null counts as left out. -/
def presentMember? (name : String) (msg : Json) : Option Json :=
  match msg.member? name with
  | some .null => none
  | v => v

/-- A field of a message, or the default if it is left out. -/
def routerField {α : Type} (name : String) (read : Json → Option α) (default : α) (msg : Json) :
    Except Error α :=
  match presentMember? name msg with
  | none => pure default
  | some v =>
    match read v with
    | some x => pure x
    | none => throw .json

/-- The filters that a reconfiguring message describes. A filter that it does not name is open. -/
def ofRouterMessage (msg : Json) : Except Error Filters := do
  let ranges ← routerField "JoinEui" rangesOfJson? [] msg
  let netIds ← routerField "NetID" (fun v => (netIdsOfJson? v).map some) none msg
  filters { joinEuiRanges := ranges, netIds }

end Config

end LoraGateway
