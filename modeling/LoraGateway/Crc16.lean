import LoraGateway.Bytes

/-!
# The cyclic redundancy check of a beacon

The remainder of a message, most significant bit first and followed by sixteen zero bits, on
division by `x ^ 16 + x ^ 12 + x ^ 5 + 1`. The register starts at zero, is not reflected and is not
inverted at the end. It is wider than the remainder: bits that leave the low sixteen are never
looked at again, and `crc16` drops them.
-/

namespace LoraGateway

namespace Crc16

/-- The generator `x ^ 16 + x ^ 12 + x ^ 5 + 1` without its leading term. -/
def generator : UInt32 := 0x1021

/-- One bit of the division: shifts the register and takes off the generator if a bit left the low
    sixteen. -/
def step (register : UInt32) : UInt32 :=
  if register &&& 0x8000 ≠ 0 then (register <<< 1) ^^^ generator else register <<< 1

/-- Takes one byte of the message into the register. -/
def absorb (register : UInt32) (b : UInt8) : UInt32 :=
  Nat.repeat step 8 (register ^^^ (b.toUInt32 <<< 8))

end Crc16

/-- The check word of a message. -/
def crc16 (data : Bytes) : UInt16 :=
  (data.foldl Crc16.absorb 0).toUInt16

end LoraGateway
