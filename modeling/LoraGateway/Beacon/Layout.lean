import LoraGateway.Bytes

/-!
# Beacon layouts

Where the fields of a beacon stand differs by region (`Beacon.Layout`). A layout is usable if the
time, the check word after it, the description of the gateway with its position, and the final check
word follow each other in this order without overlap, inside the beacon (`Layout.check`).
-/

namespace LoraGateway.Beacon

/-- The offsets of a regional beacon format. -/
structure Layout where
  /-- Where the time stands. -/
  timeOffset : UInt8
  /-- Where the description stands; the first check word is in front of it. -/
  infoOffset : UInt8
  /-- The length of the beacon; the second check word is at its end. -/
  length : UInt8
  deriving DecidableEq, Repr, Inhabited

/-- Why a layout is not usable. -/
inductive LayoutFault
  /-- The description starts too early for a check word in front of it. -/
  | noRoomForFirstCrc (info : Nat)
  /-- The description and the position reach into the second check word. -/
  | infoDoesNotFit (info length : Nat)
  /-- The time reaches into the first check word. -/
  | timeOverlapsCrc (time info : Nat)
  deriving DecidableEq, Repr

/-- The wording of a fault. -/
def LayoutFault.message : LayoutFault → String
  | .noRoomForFirstCrc info =>
    s!"invalid beacon layout: infodesc offset {info} leaves no room for the first CRC"
  | .infoDoesNotFit info length =>
    s!"invalid beacon layout: infodesc offset {info} + 7 does not fit before the trailing CRC " ++
      s!"of a {length}-byte beacon"
  | .timeOverlapsCrc time info =>
    s!"invalid beacon layout: time field at {time} overlaps the first CRC at {info - 2}"

namespace Layout

/-- The layout of the European band: 17 bytes. -/
def eu868 : Layout := ⟨2, 8, 17⟩

/-- The layout of the American band: 23 bytes. -/
def us915 : Layout := ⟨5, 11, 23⟩

/-- The width of the time. -/
def timeWidth : Nat := 4

/-- The width of the description byte and the position. -/
def infoWidth : Nat := 7

/-- The width of a check word. -/
def crcWidth : Nat := 2

/-- Asks whether a layout is usable. -/
def check (l : Layout) : Except LayoutFault Unit := do
  let time := l.timeOffset.toNat
  let info := l.infoOffset.toNat
  let length := l.length.toNat
  if info < crcWidth then
    throw (.noRoomForFirstCrc info)
  if length < info + infoWidth + crcWidth then
    throw (.infoDoesNotFit info length)
  if info < time + timeWidth + crcWidth then
    throw (.timeOverlapsCrc time info)

end Layout

end LoraGateway.Beacon
