import LoraGateway.Config.Basic
import LoraGateway.Json.Printer

/-!
# Writing configurations

A configuration is written as a JSON object with all its fields in their order, on several lines.
Identifiers keep the form in which they were given.
-/

namespace LoraGateway

/-- The JSON value of a number. -/
def Json.ofNat (n : Nat) : Json :=
  .number (.int n)

/-- The JSON value of an identifier. -/
def EuiEntry.json : EuiEntry → Json
  | .number n => Json.ofNat n.toNat
  | .text s => .string s

/-- The name of a station format. -/
def MacFormat.name : MacFormat → String
  | .bytes => "bytes"
  | .colon => "colon"

/-- The JSON value of the choices of messages. -/
def MessageOptions.json (o : MessageOptions) : Json :=
  .object [("mac_format", .string o.macFormat.name), ("raw_payload", .bool o.rawPayload)]

/-- The JSON value of a layout. -/
def Beacon.Layout.json (l : Layout) : Json :=
  .array [Json.ofNat l.timeOffset.toNat, Json.ofNat l.infoOffset.toNat, Json.ofNat l.length.toNat]

namespace Config

/-- The JSON value of the network filter. -/
def netIdsJson : Option (List UInt64) → Json
  | none => .null
  | some ids => .array (ids.map fun n => Json.ofNat n.toNat)

/-- The JSON value of a configuration. -/
def json (c : Config) : Json :=
  .object [
    ("join_eui_filter", .array (c.joinEuiRanges.map fun r => .array [r.1.json, r.2.json])),
    ("netid_filter", netIdsJson c.netIds),
    ("decode", c.options.json),
    ("beacon", .object [("layout", c.layout.json)])]

/-- The text of a configuration. -/
def text (c : Config) : String :=
  c.json.prettyText

end Config

end LoraGateway
