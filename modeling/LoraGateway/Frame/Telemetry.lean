import LoraGateway.Wire

/-!
# Telemetry frames

A proprietary frame of a device that reports positions and its own state. It is told apart from MAC
frames by two marker bytes, and carries a run of tagged items after its header.

| offset | bytes | field                              |
|--------|-------|------------------------------------|
| 0      | 1     | marker `0x01`                      |
| 1      | 8     | DevEUI, most significant byte first |
| 9      | 1     | marker `0x41`                      |
| 10     | 4     | FCnt, most significant byte first  |
| 14     |       | items                              |

A record (GNSS or Wi-Fi) declares its own size in the byte after its tag; a status value has a fixed
width. The scan ends at the end of the frame or at the first byte that is no tag (`scan`); a frame
whose items do not fit is malformed as a whole. The bytes of a single item are `Item.encode`.
-/

namespace LoraGateway

/-- A satellite fix or a list of Wi-Fi stations. -/
inductive Record
  | gnss (timestamp status : UInt32) (fix : Bytes)
  | wifi (timestamp : UInt32) (beacons : Bytes)
  deriving DecidableEq, Repr

/-- The state a device reports; a value is absent if the frame does not hold it. -/
structure DeviceStatus where
  battery : Option UInt16 := none
  energy : Option UInt32 := none
  chargeTime : Option UInt32 := none
  flags : Option UInt8 := none
  resets : Option UInt32 := none
  temperature : Option Int8 := none
  deriving DecidableEq, Repr, Inhabited

/-- True if no value is present. -/
def DeviceStatus.isEmpty (s : DeviceStatus) : Bool :=
  s == {}

/-- A decoded telemetry frame. -/
structure Telemetry where
  devEui : Eui
  fcnt : UInt32
  records : List Record
  status : DeviceStatus
  /-- The whole frame. -/
  raw : Bytes
  deriving DecidableEq, Repr

namespace Telemetry

/-- What an item holds. -/
inductive Tag
  | battery
  | energy
  | chargeTime
  | flags
  | resets
  | temperature
  | gnss
  | wifi
  deriving DecidableEq, Repr

/-- The byte that announces an item. -/
def Tag.byte : Tag → UInt8
  | .battery => 0x10
  | .energy => 0x11
  | .chargeTime => 0x12
  | .flags => 0x30
  | .resets => 0x40
  | .temperature => 0x50
  | .gnss => 0x61
  | .wifi => 0x62

/-- The item that a byte announces. -/
def Tag.ofByte? (b : UInt8) : Option Tag :=
  match b.toNat with
  | 0x10 => some .battery
  | 0x11 => some .energy
  | 0x12 => some .chargeTime
  | 0x30 => some .flags
  | 0x40 => some .resets
  | 0x50 => some .temperature
  | 0x61 => some .gnss
  | 0x62 => some .wifi
  | _ => none

/-- One item of a telemetry frame. -/
inductive Item
  | battery (value : UInt16)
  | energy (value : UInt32)
  | chargeTime (value : UInt32)
  | flags (value : UInt8)
  | resets (value : UInt32)
  | temperature (value : Int8)
  | gnss (timestamp status : UInt32) (fix : Bytes)
  | wifi (timestamp : UInt32) (body : Bytes)
  deriving DecidableEq, Repr

/-- Where the items start. -/
def itemsOffset : Nat := 14

/-- The width of timestamp and status, which every GNSS record starts with. -/
def gnssHeader : Nat := 8

/-- The width of the timestamp, which every Wi-Fi record starts with. -/
def wifiHeader : Nat := 4

/-- The width of one Wi-Fi station. -/
def beaconWidth : Nat := 8

/-- The number of bytes of an item, its tag and size byte included. -/
def Item.width : Item → Nat
  | .battery _ => 3
  | .energy _ => 5
  | .chargeTime _ => 5
  | .flags _ => 2
  | .resets _ => 4
  | .temperature _ => 2
  | .gnss _ _ fix => 2 + gnssHeader + fix.length
  | .wifi _ body => 2 + wifiHeader + body.length

theorem Item.two_le_width (i : Item) : 2 ≤ i.width := by
  cases i <;> simp only [Item.width] <;> omega

/-- The bytes of an item. A record has a size byte after its tag, so its body is below 256 bytes. -/
def Item.encode : Item → Bytes
  | .battery v => Tag.battery.byte :: Bytes.beBytes 2 v.toNat
  | .energy v => Tag.energy.byte :: Bytes.beBytes 4 v.toNat
  | .chargeTime v => Tag.chargeTime.byte :: Bytes.beBytes 4 v.toNat
  | .flags v => [Tag.flags.byte, v]
  | .resets v => Tag.resets.byte :: Bytes.beBytes 3 v.toNat
  | .temperature v => [Tag.temperature.byte, v.toUInt8]
  | .gnss timestamp status fix =>
    Tag.gnss.byte :: UInt8.ofNat (gnssHeader + fix.length) ::
      Bytes.leBytes 4 timestamp.toNat ++ Bytes.beBytes 4 status.toNat ++ fix
  | .wifi timestamp body =>
    Tag.wifi.byte :: UInt8.ofNat (wifiHeader + body.length) ::
      Bytes.leBytes 4 timestamp.toNat ++ body

theorem Item.length_encode (i : Item) : i.encode.length = i.width := by
  cases i <;> simp [Item.encode, Item.width, gnssHeader, wifiHeader] <;> omega

/-- The bytes of a record after its size byte. -/
def recordBody (frame : Bytes) (offset : Nat) (tag : Tag) : Except Malformed Bytes := do
  let size := (← Wire.byte frame (offset + 1)).toNat
  (Wire.slice frame (offset + 2) size).mapError fun _ =>
    .truncated tag.byte offset size frame.length

/-- Reads the GNSS record with the given bytes. -/
def gnssOfBody (body : Bytes) : Except Malformed Item := do
  if body.length < gnssHeader then
    throw (.recordSize Tag.gnss.byte body.length)
  let timestamp ← Wire.le32 body 0
  let status ← Wire.be32 body 4
  pure (.gnss timestamp status (body.drop gnssHeader))

/-- Reads the Wi-Fi record with the given bytes. -/
def wifiOfBody (body : Bytes) : Except Malformed Item := do
  if body.length < wifiHeader then
    throw (.recordSize Tag.wifi.byte body.length)
  let timestamp ← Wire.le32 body 0
  pure (.wifi timestamp (body.drop wifiHeader))

/-- Reads the item whose tag stands at `offset`. -/
def readItem (frame : Bytes) (offset : Nat) : Tag → Except Malformed Item
  | .battery => (Wire.be16 frame (offset + 1)).map .battery
  | .energy => (Wire.be32 frame (offset + 1)).map .energy
  | .chargeTime => (Wire.be32 frame (offset + 1)).map .chargeTime
  | .flags => (Wire.byte frame (offset + 1)).map .flags
  | .resets => (Wire.be24 frame (offset + 1)).map .resets
  | .temperature => (Wire.signedByte frame (offset + 1)).map .temperature
  | .gnss => recordBody frame offset .gnss >>= gnssOfBody
  | .wifi => recordBody frame offset .wifi >>= wifiOfBody

/-- The items from `offset` on, up to the end of the frame or to a byte that is no tag. -/
def scan (frame : Bytes) (offset : Nat) : Except Malformed (List Item) :=
  if h : offset < frame.length then
    match Tag.ofByte? frame[offset] with
    | none => pure []
    | some tag => do
      let item ← readItem frame offset tag
      let rest ← scan frame (offset + item.width)
      pure (item :: rest)
  else
    pure []
termination_by frame.length - offset
decreasing_by
  have := item.two_le_width
  omega

/-- The record that an item holds. Of the stations of a Wi-Fi record only whole ones are kept. -/
def Item.record? : Item → Option Record
  | .gnss timestamp status fix => some (.gnss timestamp status fix)
  | .wifi timestamp body =>
    some (.wifi timestamp (body.take (body.length / beaconWidth * beaconWidth)))
  | _ => none

/-- The state after an item was reported: a later value takes the place of an earlier one. -/
def Item.report (s : DeviceStatus) : Item → DeviceStatus
  | .battery v => { s with battery := some v }
  | .energy v => { s with energy := some v }
  | .chargeTime v => { s with chargeTime := some v }
  | .flags v => { s with flags := some v }
  | .resets v => { s with resets := some v }
  | .temperature v => { s with temperature := some v }
  | .gnss .. => s
  | .wifi .. => s

/-- The telemetry of a frame with the given items. -/
def ofItems (frame : Bytes) (devEui : Eui) (fcnt : UInt32) (items : List Item) : Telemetry where
  devEui := devEui
  fcnt := fcnt
  records := items.filterMap Item.record?
  status := items.foldl Item.report {}
  raw := frame

/-- True if a frame is long enough for the header and carries both markers. -/
def isMarked (frame : Bytes) : Bool :=
  itemsOffset ≤ frame.length && frame[0]? == some 0x01 && frame[9]? == some 0x41

/-- Reads a telemetry frame. The markers are not looked at. -/
def decode (frame : Bytes) : Except Malformed Telemetry := do
  let devEui ← (Wire.be64 frame 1).map Eui.mk
  let fcnt ← Wire.be32 frame 10
  let items ← scan frame itemsOffset
  pure (ofItems frame devEui fcnt items)

/-- The offset and the value of the byte at which the scan of a frame ended, if that is not the end
    of the frame. -/
def unknownTag? (frame : Bytes) : Option (Nat × UInt8) :=
  match scan frame itemsOffset with
  | .ok items =>
    let offset := items.foldl (· + ·.width) itemsOffset
    frame[offset]?.map (offset, ·)
  | .error _ => none

end Telemetry

end LoraGateway
