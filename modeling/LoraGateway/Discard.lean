import LoraGateway.Eui

/-!
# Discarded frames

A frame that yields no message is either malformed or was dropped by an identifier filter. Each
cause has one wording (`message`).
-/

namespace LoraGateway

/-- A 32-bit device address. -/
structure DevAddr where
  /-- The address as a number. -/
  value : UInt32
  deriving DecidableEq, Repr, Inhabited

namespace DevAddr

/-- The network identifier of an address: its top seven bits. -/
def netId (a : DevAddr) : UInt8 :=
  ((a.value >>> 25) &&& 0x7F).toUInt8

/-- The eight hexadecimal digits of an address. -/
def text (a : DevAddr) : String :=
  Hex.text (Bytes.beBytes 4 a.value.toNat)

end DevAddr

/-- Why a frame could not be decoded. -/
inductive Malformed
  /-- The frame has no byte. -/
  | empty
  /-- A join request of a length that is not 23. -/
  | joinLength (actual : Nat)
  /-- A data frame whose options leave no room for the integrity code. -/
  | noRoomForMic (portOffset length : Nat)
  /-- A field that ends after the frame does. -/
  | outOfBounds (offset width length : Nat)
  /-- A telemetry record that declares more bytes than the frame has. -/
  | truncated (tag : UInt8) (offset size length : Nat)
  /-- A telemetry record that is too small for its own header. -/
  | recordSize (tag : UInt8) (size : Nat)
  deriving DecidableEq, Repr

/-- Why a well-formed frame was dropped. -/
inductive Filtered
  /-- The join server is in no admitted range. -/
  | joinEui (eui : Eui)
  /-- The network of the device address is not admitted. -/
  | netId (addr : DevAddr) (network : UInt8)
  deriving DecidableEq, Repr

/-- Why a frame yields no message. -/
inductive Discard
  | malformed (cause : Malformed)
  | filtered (cause : Filtered)
  deriving DecidableEq, Repr

/-- The wording of a fault. -/
def Malformed.message : Malformed → String
  | .empty => "empty frame"
  | .joinLength actual => s!"join frame must be 23 bytes, got {actual}"
  | .noRoomForMic portOffset length =>
    s!"no room for MIC: port offset {portOffset} in {length}-byte frame"
  | .outOfBounds offset width length =>
    s!"read of {width} bytes at offset {offset} past end of {length}-byte frame"
  | .truncated tag offset size length =>
    s!"record 0x{Hex.text [tag]} at offset {offset} declares {size} bytes, frame has {length}"
  | .recordSize tag size => s!"record 0x{Hex.text [tag]} declares impossible size {size}"

/-- The wording of a filter's verdict. -/
def Filtered.message : Filtered → String
  | .joinEui eui => s!"Join EUI {eui.text} filtered"
  | .netId addr network => s!"DevAddr={addr.text} with NetID={network.toNat} filtered"

/-- The wording of a discard. -/
def Discard.message : Discard → String
  | .malformed cause => "malformed frame: " ++ cause.message
  | .filtered cause => cause.message

end LoraGateway
