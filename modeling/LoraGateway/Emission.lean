import LoraGateway.Message
import LoraGateway.Uplink

/-!
# Messages of decoded frames

A decoded frame is written twice: as the members of a message (`Uplink.calls`) and as lines for a
reader (`Uplink.lines`), one line for a frame, and for telemetry one more for each record and one
for the device status if there is any. Names and order of the members are part of the format.
-/

namespace LoraGateway

/-- How the address of a Wi-Fi station is written. -/
inductive MacFormat
  /-- As a byte string. -/
  | bytes
  /-- As bytes with colons between them. -/
  | colon
  deriving DecidableEq, Repr, Inhabited

/-- The choices that a message leaves open. -/
structure MessageOptions where
  macFormat : MacFormat := .bytes
  /-- Whether a telemetry message ends with the whole frame. -/
  rawPayload : Bool := true
  deriving DecidableEq, Repr, Inhabited

namespace Beacons

/-- The whole stations of a Wi-Fi record, eight bytes each. -/
def split : Bytes → List Bytes
  | a :: b :: c :: d :: e :: f :: g :: h :: rest => [a, b, c, d, e, f, g, h] :: split rest
  | _ => []

/-- The address of a station: its bytes without the second one. -/
def address (station : Bytes) : Bytes :=
  station.eraseIdx 1

/-- An address with colons between its bytes. -/
def colonText (addr : Bytes) : String :=
  String.ofList ([':'].intercalate (addr.map Hex.byte))

/-- The value of an address in a message. -/
def addressValue (format : MacFormat) (station : Bytes) : FieldValue :=
  match format with
  | .bytes => .bytes (address station)
  | .colon => .text (colonText (address station))

end Beacons

namespace FieldValue

/-- A number that is not negative, as a field. -/
def ofNat (n : Nat) : FieldValue :=
  .int (Int64.ofNat n)

/-- A number, as a field. -/
def ofInt (n : Int) : FieldValue :=
  .int (Int64.ofInt n)

end FieldValue

open Message (Call)

/-- The port of a data frame, or -1 if it has none. -/
def DataFrame.portNumber (d : DataFrame) : Int :=
  match d.fport with
  | some port => port.toNat
  | none => -1

/-- The members of a join request. -/
def JoinRequest.calls (j : JoinRequest) : List Call :=
  [.field "MHdr" (.ofNat j.mhdr.toNat),
    .field "JoinEui" (.eui j.joinEui),
    .field "DevEui" (.eui j.devEui),
    .field "DevNonce" (.ofNat j.devNonce.toNat),
    .field "MIC" (.ofInt j.mic.toInt)]

/-- The members of a data frame. The device address is written as a signed number. -/
def DataFrame.calls (d : DataFrame) : List Call :=
  [.field "MHdr" (.ofNat d.mhdr.toNat),
    .field "DevAddr" (.ofInt d.devAddr.value.toInt32.toInt),
    .field "FCtrl" (.ofNat d.fctrl.toNat),
    .field "FCnt" (.ofNat d.fcnt.toNat),
    .field "FOpts" (.bytes d.fopts),
    .field "FPort" (.ofInt d.portNumber),
    .field "FRMPayload" (.bytes d.payload),
    .field "MIC" (.ofInt d.mic.toInt)]

/-- The members of a telemetry record. -/
def Record.calls (format : MacFormat) : Record → List Call
  | .gnss timestamp status fix =>
    [.field "GNSS_TS" (.ofNat timestamp.toNat),
      .field "GNSS_Status" (.ofNat status.toNat),
      .field "GNSS" (.bytes fix)]
  | .wifi timestamp beacons =>
    [.field "WiFi_TS" (.ofNat timestamp.toNat), .beginArray "WiFi_MACs"] ++
      (Beacons.split beacons).map (.item <| Beacons.addressValue format ·) ++ [.endArray]

/-- The member of a value that may be absent. -/
def optionalField (name : String) (v : Option Int) : List Call :=
  v.toList.map fun n => .field name (.ofInt n)

/-- The members of a device status, in a fixed order. -/
def DeviceStatus.calls (s : DeviceStatus) : List Call :=
  optionalField "Batt" (s.battery.map (·.toNat)) ++
    optionalField "Ener" (s.energy.map (·.toNat)) ++
    optionalField "Charge" (s.chargeTime.map (·.toNat)) ++
    optionalField "Flags" (s.flags.map (·.toNat)) ++
    optionalField "Resets" (s.resets.map (·.toNat)) ++
    optionalField "Temp" (s.temperature.map (·.toInt))

/-- The members of a telemetry frame. -/
def Telemetry.calls (o : MessageOptions) (t : Telemetry) : List Call :=
  [.field "DevEui" (.eui t.devEui), .field "FCnt" (.ofNat t.fcnt.toNat)] ++
    t.records.flatMap (·.calls o.macFormat) ++ t.status.calls ++
    if o.rawPayload then [.field "payload" (.bytes t.raw)] else []

/-- The members of a decoded frame. -/
def Uplink.calls (o : MessageOptions) (u : Uplink) : List Call :=
  .field "msgtype" (.text u.kind.name) ::
    match u with
    | .join request => request.calls
    | .data frame => frame.calls
    | .raw payload => [.field "payload" (.bytes payload)]
    | .telemetry report => report.calls o

/-- The line of a record. -/
def Record.line : Record → String
  | .gnss timestamp status fix =>
    let bits := Hex.text (Bytes.beBytes 4 status.toNat)
    s!"GNSS: ts={timestamp.toNat} status=0x{bits} gnss_len={fix.length}"
  | .wifi timestamp beacons =>
    s!"WiFi: ts={timestamp.toNat} macs={(Beacons.split beacons).length}"

/-- A value that may be absent, in a line. -/
def optionalText (v : Option Int) : String :=
  match v with
  | some n => s!"Some({n})"
  | none => "None"

/-- The line of a device status. -/
def DeviceStatus.line (s : DeviceStatus) : String :=
  let battery := optionalText (s.battery.map (·.toNat))
  let energy := optionalText (s.energy.map (·.toNat))
  let charge := optionalText (s.chargeTime.map (·.toNat))
  let flags := optionalText (s.flags.map (·.toNat))
  let resets := optionalText (s.resets.map (·.toNat))
  let temperature := optionalText (s.temperature.map (·.toInt))
  s!"Status: Batt={battery} Ener={energy} Charge={charge} Flags={flags} Resets={resets} " ++
    s!"Temp={temperature}"

/-- The lines of a decoded frame. -/
def Uplink.lines (u : Uplink) : List String :=
  let name := u.kind.name
  match u with
  | .join j =>
    [s!"{name} MHdr={Hex.text [j.mhdr]} JoinEui={j.joinEui.text} DevEui={j.devEui.text} " ++
      s!"DevNonce={j.devNonce.toNat} MIC={j.mic.toInt}"]
  | .data d =>
    [s!"{name} mhdr={Hex.text [d.mhdr]} DevAddr={d.devAddr.text} FCtrl={Hex.text [d.fctrl]} " ++
      s!"FCnt={d.fcnt.toNat} FOpts=[{Hex.text d.fopts}] FPort={d.portNumber} " ++
      s!"FRMPayload={Hex.text d.payload} mic={d.mic.toInt}"]
  | .raw payload =>
    [s!"{name} payload={Hex.text payload} ({payload.length} bytes) not LoRaWAN"]
  | .telemetry t =>
    s!"{name} DevEui={t.devEui.text} FCnt={t.fcnt.toNat} records={t.records.length}" ::
      (t.records.map Record.line ++ if t.status.isEmpty then [] else [t.status.line])

/-- Where decoded frames are written to. -/
structure Sinks where
  message : Message := {}
  /-- The lines for a reader, each ended by a line feed. -/
  diagnostics : String := ""
  deriving Inhabited

namespace Sinks

/-- Appends lines for a reader. -/
def addLines (s : Sinks) (lines : List String) : Sinks :=
  { s with diagnostics := s.diagnostics ++ String.join (lines.map (· ++ "\n")) }

/-- Writes a decoded frame. -/
def emit (s : Sinks) (o : MessageOptions) (u : Uplink) : Sinks :=
  { s with message := s.message.applyAll (u.calls o) }.addLines u.lines

end Sinks

/-- The line of a discarded frame. A malformed frame is shown by its first sixteen bytes. -/
def Discard.line (frame : Bytes) : Discard → String
  | .filtered cause => cause.message
  | .malformed cause => s!"Not a frame ({cause.message}): {Hex.text (frame.take 16)}"

/-- The lines of a frame, decoded or not. -/
def diagnosticLines (frame : Bytes) : Except Discard Uplink → List String
  | .ok u => u.lines
  | .error d => [d.line frame]

/-- Decodes a frame and writes it: the kind of the message, or why there is none. A discarded frame
    leaves the message as it was and adds one line. -/
def forward (frame : Bytes) (filters : Filters) (o : MessageOptions) (s : Sinks) :
    Except Discard Kind × Sinks :=
  match Uplink.decode frame filters with
  | .ok u => (.ok u.kind, s.emit o u)
  | .error d => (.error d, s.addLines [d.line frame])

end LoraGateway
