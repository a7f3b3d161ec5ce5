import LoraGateway.Beacon.Layout
import LoraGateway.Crc16

/-!
# Beacons

A beacon consists of two regions, each closed by its own check word (`isIntact`): the first holds
the time, the second a description byte and the position of the gateway. All fields have their least
significant byte first, and what is not a field is zero.

| field | zeros | time | zeros | check | description | longitude | latitude | zeros | check |
|-------|-------|------|-------|-------|-------------|-----------|----------|-------|-------|
| bytes |       | 4    |       | 2     | 1           | 3         | 3        |       | 2     |
-/

namespace LoraGateway.Beacon

/-- Why a beacon could not be built or verified. -/
inductive Error
  | layout (fault : LayoutFault)
  | length (expected actual : Nat)
  deriving DecidableEq, Repr

/-- The wording of an error. -/
def Error.message : Error → String
  | .layout fault => fault.message
  | .length expected actual => s!"beacon buffer is {actual} bytes, layout needs {expected}"

/-- What a beacon announces. -/
structure Content where
  /-- The time in seconds; the low 32 bits are sent. -/
  epoch : Int64
  infoDesc : UInt8
  latitude : Float
  longitude : Float

/-- The fixed-point form of an angle: its share of the range, scaled by `2 ^ 31` and truncated, of
    which the low 24 bits are sent. -/
def fixedPoint (degrees range : Float) : UInt32 :=
  (degrees / range * 2147483648.0).toInt64.toUInt64.toUInt32

/-- True if the bytes from `start` up to `stop` end with the check word of those before it. -/
def isIntact (pdu : Bytes) (start stop : Nat) : Bool :=
  let word := stop - Layout.crcWidth
  (crc16 (pdu.range start word)).toNat == Bytes.leValue (pdu.range word stop)

/-- A beacon whose check words are still zero. -/
def Layout.fields (l : Layout) (c : Content) : Bytes :=
  let info := l.infoOffset.toNat
  let pdu : Bytes := List.replicate l.length.toNat 0
  let pdu := pdu.overwrite l.timeOffset.toNat (Bytes.leBytes timeWidth c.epoch.toUInt64.toNat)
  let pdu := pdu.overwrite info [c.infoDesc]
  let pdu := pdu.overwrite (info + 1) (Bytes.leBytes 3 (fixedPoint c.longitude 180.0).toNat)
  pdu.overwrite (info + 4) (Bytes.leBytes 3 (fixedPoint c.latitude 90.0).toNat)

/-- Builds a beacon. Both check words are those of the fields, and are written after them. -/
def build (l : Layout) (c : Content) : Except Error Bytes := do
  l.check.mapError .layout
  let info := l.infoOffset.toNat
  let timeWord := info - Layout.crcWidth
  let infoWord := l.length.toNat - Layout.crcWidth
  let pdu := l.fields c
  let timeCrc := crc16 (pdu.range 0 timeWord)
  let infoCrc := crc16 (pdu.range info infoWord)
  let pdu := pdu.overwrite timeWord (Bytes.leBytes Layout.crcWidth timeCrc.toNat)
  pure (pdu.overwrite infoWord (Bytes.leBytes Layout.crcWidth infoCrc.toNat))

/-- Which regions of a beacon are intact. -/
structure Verdict where
  timeOk : Bool
  infoOk : Bool
  deriving DecidableEq, Repr

/-- True if both regions are intact. -/
def Verdict.isValid (v : Verdict) : Bool :=
  v.timeOk && v.infoOk

/-- Compares the check words of a beacon with its content. -/
def verify (l : Layout) (pdu : Bytes) : Except Error Verdict := do
  l.check.mapError .layout
  if pdu.length ≠ l.length.toNat then
    throw (.length l.length.toNat pdu.length)
  let info := l.infoOffset.toNat
  pure { timeOk := isIntact pdu 0 info, infoOk := isIntact pdu info l.length.toNat }

end LoraGateway.Beacon
