import LoraGateway.Discard

/-!
# Fields of a frame

Readers of fixed-width integers at an offset of a frame. Each of them first checks that the field
lies inside the frame (`slice`) and otherwise says which field does not; what it then reads depends
on no byte outside the field.

* `slice_eq_ok`, `slice_eq_error`: a field is read exactly when it ends inside the frame.
-/

namespace LoraGateway.Wire

/-- The `width` bytes at `offset`. -/
def slice (frame : Bytes) (offset width : Nat) : Except Malformed Bytes :=
  if offset + width ≤ frame.length then .ok ((frame.drop offset).take width)
  else .error (.outOfBounds offset width frame.length)

/-- The number in `width` bytes at `offset`, least significant byte first. -/
def littleEndian (frame : Bytes) (offset width : Nat) : Except Malformed Nat :=
  (slice frame offset width).map Bytes.leValue

/-- The number in `width` bytes at `offset`, most significant byte first. -/
def bigEndian (frame : Bytes) (offset width : Nat) : Except Malformed Nat :=
  (slice frame offset width).map Bytes.beValue

/-- One byte. -/
def byte (frame : Bytes) (offset : Nat) : Except Malformed UInt8 :=
  (bigEndian frame offset 1).map UInt8.ofNat

/-- One byte in two's complement. -/
def signedByte (frame : Bytes) (offset : Nat) : Except Malformed Int8 :=
  (byte frame offset).map UInt8.toInt8

/-- A 16-bit word, least significant byte first. -/
def le16 (frame : Bytes) (offset : Nat) : Except Malformed UInt16 :=
  (littleEndian frame offset 2).map UInt16.ofNat

/-- A 32-bit word, least significant byte first. -/
def le32 (frame : Bytes) (offset : Nat) : Except Malformed UInt32 :=
  (littleEndian frame offset 4).map UInt32.ofNat

/-- A 32-bit word in two's complement, least significant byte first. -/
def leSigned32 (frame : Bytes) (offset : Nat) : Except Malformed Int32 :=
  (le32 frame offset).map UInt32.toInt32

/-- A 64-bit word, least significant byte first. -/
def le64 (frame : Bytes) (offset : Nat) : Except Malformed UInt64 :=
  (littleEndian frame offset 8).map UInt64.ofNat

/-- A 16-bit word, most significant byte first. -/
def be16 (frame : Bytes) (offset : Nat) : Except Malformed UInt16 :=
  (bigEndian frame offset 2).map UInt16.ofNat

/-- A 24-bit word, most significant byte first. -/
def be24 (frame : Bytes) (offset : Nat) : Except Malformed UInt32 :=
  (bigEndian frame offset 3).map UInt32.ofNat

/-- A 32-bit word, most significant byte first. -/
def be32 (frame : Bytes) (offset : Nat) : Except Malformed UInt32 :=
  (bigEndian frame offset 4).map UInt32.ofNat

/-- A 64-bit word, most significant byte first. -/
def be64 (frame : Bytes) (offset : Nat) : Except Malformed UInt64 :=
  (bigEndian frame offset 8).map UInt64.ofNat

theorem slice_eq_ok {frame : Bytes} {offset width : Nat} (h : offset + width ≤ frame.length) :
    slice frame offset width = .ok ((frame.drop offset).take width) :=
  if_pos h

theorem slice_eq_error {frame : Bytes} {offset width : Nat} (h : frame.length < offset + width) :
    slice frame offset width = .error (.outOfBounds offset width frame.length) :=
  if_neg (Nat.not_le.2 h)

end LoraGateway.Wire
