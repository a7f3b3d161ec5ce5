import LoraGateway.Filter
import LoraGateway.Wire

/-!
# MAC frames

A MAC frame starts with a header byte: three bits of frame type, three reserved bits and two bits
of major version, which are zero in every frame that is understood here. All further fields have
their least significant byte first.

| join request | header | JoinEUI | DevEUI | DevNonce | MIC |
|--------------|--------|---------|--------|----------|-----|
| bytes        | 1      | 8       | 8      | 2        | 4   |

| data frame | header | DevAddr | FCtrl | FCnt | FOpts | FPort | FRMPayload | MIC |
|------------|--------|---------|-------|------|-------|-------|------------|-----|
| bytes      | 1      | 4       | 1     | 2    | 0-15  | 0-1   | 0-         | 4   |

Neither kind has a length field: the options of a data frame are as long as the low half of FCtrl
says, the MIC is the last four bytes, and what lies between is the port with its payload. Each kind
is read by its `decode`, under the filter that applies to it, and written by its `encode`.
-/

namespace LoraGateway

/-- The frame type of a MAC header. -/
inductive FrameType
  | joinRequest
  | joinAccept
  | unconfirmedUp
  | unconfirmedDown
  | confirmedUp
  | confirmedDown
  | rejoinRequest
  | proprietary
  deriving DecidableEq, Repr

namespace FrameType

/-- The frame type is the top three bits of the header. -/
def ofHeader (mhdr : UInt8) : FrameType :=
  match mhdr.toNat / 32 with
  | 0 => .joinRequest
  | 1 => .joinAccept
  | 2 => .unconfirmedUp
  | 3 => .unconfirmedDown
  | 4 => .confirmedUp
  | 5 => .confirmedDown
  | 6 => .rejoinRequest
  | _ => .proprietary

/-- The header bits of a frame type, with the other bits zero. -/
def header : FrameType → UInt8
  | .joinRequest => 0x00
  | .joinAccept => 0x20
  | .unconfirmedUp => 0x40
  | .unconfirmedDown => 0x60
  | .confirmedUp => 0x80
  | .confirmedDown => 0xA0
  | .rejoinRequest => 0xC0
  | .proprietary => 0xE0

/-- True for the two types that are laid out as a join request. -/
def isJoin (t : FrameType) : Bool :=
  t == .joinRequest || t == .rejoinRequest

/-- True for the data frames that a device sends. -/
def isUplink (t : FrameType) : Bool :=
  t == .unconfirmedUp || t == .confirmedUp

end FrameType

/-- A join or rejoin request. -/
structure JoinRequest where
  rejoin : Bool
  mhdr : UInt8
  joinEui : Eui
  devEui : Eui
  devNonce : UInt16
  mic : Int32
  deriving DecidableEq, Repr

/-- A data frame. The payload is empty when there is no port. -/
structure DataFrame where
  uplink : Bool
  mhdr : UInt8
  devAddr : DevAddr
  fctrl : UInt8
  fcnt : UInt16
  fopts : Bytes
  fport : Option UInt8
  payload : Bytes
  mic : Int32
  deriving DecidableEq, Repr

namespace Mac

/-- The length of every join request. -/
def joinLength : Nat := 23

/-- The length of the shortest data frame. -/
def dataMinLength : Nat := 12

/-- The width of the integrity code at the end of every frame. -/
def micLength : Nat := 4

/-- Where the options of a data frame start. -/
def optionsOffset : Nat := 8

/-- True for frames that are not understood: too short for a data frame, unless proprietary, or with
    a reserved or version bit set. -/
def isForeign : Bytes → Bool
  | [] => true
  | frame@(mhdr :: _) =>
    (frame.length < dataMinLength && FrameType.ofHeader mhdr != .proprietary) ||
      mhdr &&& 0x1F != 0

end Mac

/-- Raises a fault as the reason of a discard. -/
def Malformed.orDiscard {α : Type} (r : Except Malformed α) : Except Discard α :=
  r.mapError .malformed

/-- Reads a join request, if its join server is admitted. -/
def JoinRequest.decode (frame : Bytes) (filter : JoinEuiFilter) : Except Discard JoinRequest := do
  if frame.length ≠ Mac.joinLength then
    throw (.malformed (.joinLength frame.length))
  let joinEui ← Malformed.orDiscard ((Wire.le64 frame 1).map Eui.mk)
  unless filter.admits joinEui do
    throw (.filtered (.joinEui joinEui))
  Malformed.orDiscard do
    let mhdr ← Wire.byte frame 0
    let devEui ← (Wire.le64 frame 9).map Eui.mk
    let devNonce ← Wire.le16 frame 17
    let mic ← Wire.leSigned32 frame (frame.length - Mac.micLength)
    pure {
      rejoin := FrameType.ofHeader mhdr == .rejoinRequest
      mhdr, joinEui, devEui, devNonce, mic
    }

/-- The bytes of a join request. -/
def JoinRequest.encode (r : JoinRequest) : Bytes :=
  r.mhdr :: Bytes.leBytes 8 r.joinEui.value.toNat ++ Bytes.leBytes 8 r.devEui.value.toNat ++
    Bytes.leBytes 2 r.devNonce.toNat ++ Bytes.leBytes 4 r.mic.toUInt32.toNat

theorem JoinRequest.length_encode (r : JoinRequest) : r.encode.length = Mac.joinLength := by
  simp [JoinRequest.encode, Mac.joinLength]

/-- Reads a data frame, if the network of its device is admitted. -/
def DataFrame.decode (frame : Bytes) (filter : NetIdFilter) : Except Discard DataFrame := do
  let fctrl ← Malformed.orDiscard (Wire.byte frame 5)
  let optionsLength := fctrl.toNat % 16
  let portOffset := Mac.optionsOffset + optionsLength
  if frame.length < portOffset + Mac.micLength then
    throw (.malformed (.noRoomForMic portOffset frame.length))
  let micOffset := frame.length - Mac.micLength
  let devAddr ← Malformed.orDiscard ((Wire.le32 frame 1).map DevAddr.mk)
  unless filter.admits devAddr do
    throw (.filtered (.netId devAddr devAddr.netId))
  Malformed.orDiscard do
    let mhdr ← Wire.byte frame 0
    let fcnt ← Wire.le16 frame 6
    let fopts ← Wire.slice frame Mac.optionsOffset optionsLength
    let body ← Wire.slice frame portOffset (micOffset - portOffset)
    let mic ← Wire.leSigned32 frame micOffset
    pure {
      uplink := (FrameType.ofHeader mhdr).isUplink
      mhdr, devAddr, fctrl, fcnt, fopts
      fport := body.head?
      payload := body.tail
      mic
    }

/-- The bytes of a data frame. A payload is written only after a port. -/
def DataFrame.encode (d : DataFrame) : Bytes :=
  d.mhdr :: Bytes.leBytes 4 d.devAddr.value.toNat ++ d.fctrl :: Bytes.leBytes 2 d.fcnt.toNat ++
    d.fopts ++ d.fport.elim [] (· :: d.payload) ++ Bytes.leBytes 4 d.mic.toUInt32.toNat

end LoraGateway
