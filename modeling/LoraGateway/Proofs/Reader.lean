import Mathlib.Algebra.BigOperators.Intervals
import Mathlib.Algebra.BigOperators.Ring.Finset
import LoraGateway.Proofs.Checked.Access

/-!
# What the readers of fields read

All readers of fields, by the type of what they read (`Reader`), read exactly: a reader succeeds on
the fields inside the buffer, and then gives the number that the bytes of the field add up to, each
times the weight of its place. Since a number has one field of each form, it reads back from its
field wherever this stands, and nothing but the field has any influence on it.

* `Bytes.Holds.lowFirst_eq`, `Bytes.Holds.highFirst_eq`: the number of a field as a weighted sum of
  the bytes of the buffer;
* `Reader.read_eq_ok_iff`, `Reader.read_eq_error_iff`: when a reader succeeds with a value, and when
  and for what it fails;
* `Reader.agrees_read`: an end beyond all words is no end inside the buffer;
* `Reader.read_exactly`: all of this for every reader.
-/

namespace LoraGateway

namespace Bytes

variable {frame frame' bs : Bytes} {offset : Nat}

/-- A field is its bytes at their places. -/
theorem holds_iff_getElem? : Holds frame offset bs ↔
    offset + bs.length ≤ frame.length ∧ ∀ i < bs.length, frame[offset + i]? = bs[i]? := by
  rw [holds_iff]
  refine and_congr_right fun hlen => ?_
  rw [List.ext_getElem?_iff]
  refine forall_congr' fun i => ?_
  rw [List.getElem?_take, List.getElem?_drop]
  split_ifs with hi
  · simp [hi]
  · simp [hi]

/-- The number of the bytes at the first places, the first of them the least significant one. -/
def lowFirst (width : Nat) (byteAt : Nat → UInt8) : Nat :=
  ∑ i ∈ Finset.range width, (byteAt i).toNat * 256 ^ i

/-- The number of the bytes at the first places, the first of them the most significant one. -/
def highFirst (width : Nat) (byteAt : Nat → UInt8) : Nat :=
  ∑ i ∈ Finset.range width, (byteAt i).toNat * 256 ^ (width - 1 - i)

theorem leValue_eq_lowFirst (bs : Bytes) :
    leValue bs = lowFirst bs.length fun i => bs.getD i 0 := by
  induction bs with
  | nil => rfl
  | cons b rest ih =>
    have hrest : 256 * leValue rest =
        ∑ i ∈ Finset.range rest.length, (rest.getD i 0).toNat * 256 ^ (i + 1) := by
      rw [ih, lowFirst, Finset.mul_sum]
      exact Finset.sum_congr rfl fun i _ => by rw [Nat.pow_succ]; ac_rfl
    rw [leValue, hrest, lowFirst, List.length_cons, Finset.sum_range_succ', Nat.add_comm]
    simp

/-- In the other byte order, the weights are counted from the end of the field. -/
theorem beValue_eq_highFirst (bs : Bytes) :
    beValue bs = highFirst bs.length fun i => bs.getD i 0 := by
  rw [beValue, leValue_eq_lowFirst, lowFirst, ← Finset.sum_range_reflect, List.length_reverse]
  refine Finset.sum_congr rfl fun i hi => ?_
  have hi := Finset.mem_range.1 hi
  have hplace : bs.length - 1 - (bs.length - 1 - i) = i := by omega
  have hbyte : bs.reverse.getD (bs.length - 1 - i) 0 = bs.getD i 0 := by
    rw [List.getD_eq_getElem?_getD, List.getElem?_reverse (by omega), hplace,
      List.getD_eq_getElem?_getD]
  rw [hbyte]

section Field

variable (h : Holds frame offset bs)

include h

theorem Holds.getD_eq {i : Nat} (hi : i < bs.length) :
    frame.getD (offset + i) 0 = bs.getD i 0 := by
  rw [List.getD_eq_getElem?_getD, (holds_iff_getElem?.1 h).2 i hi, ← List.getD_eq_getElem?_getD]

theorem Holds.lowFirst_eq :
    lowFirst bs.length (fun i => frame.getD (offset + i) 0) = leValue bs := by
  rw [leValue_eq_lowFirst]
  refine Finset.sum_congr rfl fun i hi => ?_
  exact congrArg (fun b : UInt8 => b.toNat * _) (h.getD_eq (Finset.mem_range.1 hi))

theorem Holds.highFirst_eq :
    highFirst bs.length (fun i => frame.getD (offset + i) 0) = beValue bs := by
  rw [beValue_eq_highFirst]
  refine Finset.sum_congr rfl fun i hi => ?_
  exact congrArg (fun b : UInt8 => b.toNat * _) (h.getD_eq (Finset.mem_range.1 hi))

/-- A field stands in every frame that has its bytes at their places. -/
theorem Holds.congr (hlen : offset + bs.length ≤ frame'.length)
    (hsame : ∀ i < bs.length, frame'[offset + i]? = frame[offset + i]?) :
    Holds frame' offset bs :=
  holds_iff_getElem?.2 ⟨hlen, fun i hi => (hsame i hi).trans ((holds_iff_getElem?.1 h).2 i hi)⟩

end Field

/-- The bytes of a number in the frame add up to the number. -/
theorem lowFirst_eq_of_holds {k n : Nat} (hn : n < size k) (h : Holds frame offset (leBytes k n)) :
    lowFirst k (fun i => frame.getD (offset + i) 0) = n := by
  have hsum := h.lowFirst_eq
  rwa [length_leBytes, leValue_leBytes hn] at hsum

theorem highFirst_eq_of_holds {k n : Nat} (hn : n < size k) (h : Holds frame offset (beBytes k n)) :
    highFirst k (fun i => frame.getD (offset + i) 0) = n := by
  have hsum := h.highFirst_eq
  rwa [length_beBytes, beValue_beBytes hn] at hsum

end Bytes

/-- The readers of fields, each with the type of what it reads. -/
inductive Reader : Type → Type
  | bytes (width : Nat) : Reader Bytes
  | byte : Reader UInt8
  | signedByte : Reader Int8
  | le16 : Reader UInt16
  | le32 : Reader UInt32
  | leSigned32 : Reader Int32
  | le64 : Reader UInt64
  | be16 : Reader UInt16
  | be24 : Reader UInt32
  | be32 : Reader UInt32
  | be64 : Reader UInt64

namespace Reader

open Bytes (Holds lowFirst highFirst leBytes beBytes)

/-- Reads the field at an offset. -/
def read : {α : Type} → Reader α → Bytes → Nat → Except Malformed α
  | _, .bytes width, frame, offset => Wire.slice frame offset width
  | _, .byte, frame, offset => Wire.byte frame offset
  | _, .signedByte, frame, offset => Wire.signedByte frame offset
  | _, .le16, frame, offset => Wire.le16 frame offset
  | _, .le32, frame, offset => Wire.le32 frame offset
  | _, .leSigned32, frame, offset => Wire.leSigned32 frame offset
  | _, .le64, frame, offset => Wire.le64 frame offset
  | _, .be16, frame, offset => Wire.be16 frame offset
  | _, .be24, frame, offset => Wire.be24 frame offset
  | _, .be32, frame, offset => Wire.be32 frame offset
  | _, .be64, frame, offset => Wire.be64 frame offset

/-- Reads the field at an offset, with every access checked and the end of the field in 64 bits. -/
def readChecked : {α : Type} → Reader α → Bytes → Nat → Checked.Run Malformed α
  | _, .bytes width, frame, offset => Checked.ofExcept (Checked.bytesAt frame offset width)
  | _, .byte, frame, offset => Checked.byte frame offset
  | _, .signedByte, frame, offset => Checked.signedByte frame offset
  | _, .le16, frame, offset => Checked.le16 frame offset
  | _, .le32, frame, offset => Checked.le32 frame offset
  | _, .leSigned32, frame, offset => Checked.leSigned32 frame offset
  | _, .le64, frame, offset => Checked.le64 frame offset
  | _, .be16, frame, offset => Checked.be16 frame offset
  | _, .be24, frame, offset => Checked.be24 frame offset
  | _, .be32, frame, offset => Checked.be32 frame offset
  | _, .be64, frame, offset => Checked.be64 frame offset

/-- The number of bytes of a field. -/
def width : {α : Type} → Reader α → Nat
  | _, .bytes width => width
  | _, .byte | _, .signedByte => 1
  | _, .le16 | _, .be16 => 2
  | _, .be24 => 3
  | _, .le32 | _, .leSigned32 | _, .be32 => 4
  | _, .le64 | _, .be64 => 8

/-- The value is what the bytes at the places of a field stand for. A signed number is the one of
    its bytes in two's complement. -/
def Means : {α : Type} → Reader α → (Nat → UInt8) → α → Prop
  | _, .bytes width, byteAt, bs => bs = (List.range width).map byteAt
  | _, .byte, byteAt, v => v = byteAt 0
  | _, .signedByte, byteAt, v => v.toInt = Int.bmod (byteAt 0).toNat (2 ^ 8)
  | _, .le16, byteAt, v => v.toNat = lowFirst 2 byteAt
  | _, .le32, byteAt, v => v.toNat = lowFirst 4 byteAt
  | _, .leSigned32, byteAt, v => v.toInt = Int.bmod (lowFirst 4 byteAt) (2 ^ 32)
  | _, .le64, byteAt, v => v.toNat = lowFirst 8 byteAt
  | _, .be16, byteAt, v => v.toNat = highFirst 2 byteAt
  | _, .be24, byteAt, v => v.toNat = highFirst 3 byteAt
  | _, .be32, byteAt, v => v.toNat = highFirst 4 byteAt
  | _, .be64, byteAt, v => v.toNat = highFirst 8 byteAt

/-- The values that a field can hold: all of their type, but byte strings of another width and words
    of more than 24 bits in three bytes. -/
def Fits : {α : Type} → Reader α → α → Prop
  | _, .bytes width, bs => bs.length = width
  | _, .be24, v => v.toNat < 2 ^ 24
  | _, _, _ => True

/-- The field of a value. -/
def encode : {α : Type} → Reader α → α → Bytes
  | _, .bytes _, bs => bs
  | _, .byte, v => [v]
  | _, .signedByte, v => [v.toUInt8]
  | _, .le16, v => leBytes 2 v.toNat
  | _, .le32, v => leBytes 4 v.toNat
  | _, .leSigned32, v => leBytes 4 v.toUInt32.toNat
  | _, .le64, v => leBytes 8 v.toNat
  | _, .be16, v => beBytes 2 v.toNat
  | _, .be24, v => beBytes 3 v.toNat
  | _, .be32, v => beBytes 4 v.toNat
  | _, .be64, v => beBytes 8 v.toNat

variable {α : Type} {r : Reader α} {frame : Bytes} {offset : Nat} {v : α}

theorem length_encode (h : r.Fits v) : (r.encode v).length = r.width := by
  cases r with
  | bytes width => exact h
  | byte | signedByte => rfl
  | le16 | le32 | leSigned32 | le64 => exact Bytes.length_leBytes ..
  | be16 | be24 | be32 | be64 => exact Bytes.length_beBytes ..

/-- A reader gives a value if and only if the field of the value stands there. -/
theorem read_eq_ok_iff :
    r.read frame offset = .ok v ↔ r.Fits v ∧ Holds frame offset (r.encode v) := by
  cases r with
  | bytes width => exact Wire.slice_eq_ok_iff
  | be24 => exact Wire.be24_eq_ok_iff
  | _ =>
    simp only [read, Fits, encode, true_and, Wire.byte_eq_ok_iff, Wire.signedByte_eq_ok_iff,
      Wire.le16_eq_ok_iff, Wire.le32_eq_ok_iff, Wire.leSigned32_eq_ok_iff, Wire.le64_eq_ok_iff,
      Wire.be16_eq_ok_iff, Wire.be32_eq_ok_iff, Wire.be64_eq_ok_iff]

/-- A reader fails if and only if the field ends after the frame, and says which field it is. -/
theorem read_eq_error_iff {e : Malformed} : r.read frame offset = .error e ↔
    frame.length < offset + r.width ∧ e = .outOfBounds offset r.width frame.length := by
  cases r with
  | bytes width => exact Wire.slice_eq_error_iff
  | byte => exact Wire.byte_eq_error_iff
  | signedByte => exact Result.map_eq_error_iff.trans Wire.byte_eq_error_iff
  | leSigned32 =>
    exact Result.map_eq_error_iff.trans (Result.map_eq_error_iff.trans
      (Result.map_eq_error_iff.trans Wire.slice_eq_error_iff))
  | le16 | le32 | le64 | be16 | be24 | be32 | be64 =>
    exact Result.map_eq_error_iff.trans (Result.map_eq_error_iff.trans Wire.slice_eq_error_iff)

/-- A field that stands in the frame means the value that it was written for. -/
theorem means_of_holds (hfits : r.Fits v) (h : Holds frame offset (r.encode v)) :
    r.Means (fun i => frame.getD (offset + i) 0) v := by
  cases r with
  | bytes width =>
    obtain rfl : v.length = width := hfits
    refine List.ext_getElem (by simp) fun i hi _ => ?_
    rw [List.getElem_map, List.getElem_range, h.getD_eq hi]
    exact (List.getD_eq_getElem _ _ hi).symm
  | byte => exact (h.getD_eq (i := 0) Nat.zero_lt_one).symm
  | signedByte =>
    have hbyte : frame.getD (offset + 0) 0 = v.toUInt8 := h.getD_eq (i := 0) Nat.zero_lt_one
    rw [Means, hbyte]
    exact BitVec.toInt_eq_toNat_bmod v.toBitVec
  | leSigned32 =>
    rw [Means, Bytes.lowFirst_eq_of_holds v.toUInt32.toNat_lt h]
    exact BitVec.toInt_eq_toNat_bmod v.toBitVec
  | be24 => exact (Bytes.highFirst_eq_of_holds hfits h).symm
  | le16 | le32 | le64 => exact (Bytes.lowFirst_eq_of_holds v.toNat_lt h).symm
  | be16 | be32 | be64 => exact (Bytes.highFirst_eq_of_holds v.toNat_lt h).symm

/-- A frame is not longer than words count, so that an end beyond all words, on which the checked
    addition gives up, is none inside the frame. -/
theorem agrees_read (r : Reader α) (hframe : frame.length < 2 ^ 64) (offset : Nat) :
    Checked.Agrees (r.readChecked frame offset) (r.read frame offset) := by
  cases r with
  | bytes width => exact congrArg some (Checked.bytesAt_eq_slice hframe offset width)
  | byte => exact Checked.agrees_byte hframe offset
  | signedByte => exact Checked.agrees_signedByte hframe offset
  | le16 => exact Checked.agrees_le16 hframe offset
  | le32 => exact Checked.agrees_le32 hframe offset
  | leSigned32 => exact Checked.agrees_leSigned32 hframe offset
  | le64 => exact Checked.agrees_le64 hframe offset
  | be16 => exact Checked.agrees_be16 hframe offset
  | be24 => exact Checked.agrees_be24 hframe offset
  | be32 => exact Checked.agrees_be32 hframe offset
  | be64 => exact Checked.agrees_be64 hframe offset

/-- A reader succeeds on the fields that end inside the frame, also where that end is counted in 64
    bits; it then gives what the bytes of the field stand for, on which no other byte has any
    influence, and names the field otherwise. A value that fits reads back from its field, between
    whatever bytes this is placed. -/
theorem read_exactly (r : Reader α) (frame : Bytes) (offset : Nat) :
    (frame.length < 2 ^ 64 →
      Checked.Agrees (r.readChecked frame offset) (r.read frame offset)) ∧
    ((∃ v, r.read frame offset = .ok v) ↔ offset + r.width ≤ frame.length) ∧
    (∀ v, r.read frame offset = .ok v → r.Means (fun i => frame.getD (offset + i) 0) v) ∧
    (∀ e, r.read frame offset = .error e → e = .outOfBounds offset r.width frame.length) ∧
    (∀ v, r.Fits v → ∀ before after,
      r.read (before ++ r.encode v ++ after) before.length = .ok v) ∧
    ∀ v, r.read frame offset = .ok v → ∀ frame', offset + r.width ≤ frame'.length →
      (∀ i < r.width, frame'[offset + i]? = frame[offset + i]?) →
        r.read frame' offset = .ok v := by
  refine ⟨fun hframe => r.agrees_read hframe offset, ?_, fun v h => ?_, fun e h => ?_,
    fun v hfits before after => ?_, fun v h frame' hlen hsame => ?_⟩
  · constructor
    · rintro ⟨v, h⟩
      obtain ⟨hfits, hholds⟩ := read_eq_ok_iff.1 h
      rw [← length_encode hfits]
      exact hholds.length_le
    · intro hlen
      cases h : r.read frame offset with
      | ok v => exact ⟨v, rfl⟩
      | error e => exact absurd (read_eq_error_iff.1 h).1 (Nat.not_lt.2 hlen)
  · obtain ⟨hfits, hholds⟩ := read_eq_ok_iff.1 h
    exact means_of_holds hfits hholds
  · exact (read_eq_error_iff.1 h).2
  · exact read_eq_ok_iff.2 ⟨hfits, before, after, rfl, rfl⟩
  · obtain ⟨hfits, hholds⟩ := read_eq_ok_iff.1 h
    rw [← length_encode hfits] at hlen hsame
    exact read_eq_ok_iff.2 ⟨hfits, hholds.congr hlen hsame⟩

/-- Two bytes at the last of all offsets, and the last four bytes of a frame as a negative
    number. -/
theorem read_exactly_last :
    let frame : Bytes := [1, 2, 3, 4, 5, 6, 7, 0x88]
    frame.length < 2 ^ 64 ∧
    Checked.Agrees ((bytes 2).readChecked frame (2 ^ 64 - 1))
      (.error (.outOfBounds (2 ^ 64 - 1) 2 8)) ∧
    (∃ v, leSigned32.read frame 4 = .ok v ∧
      v.toInt = Int.bmod (5 + 6 * 256 + 7 * 256 ^ 2 + 0x88 * 256 ^ 3) (2 ^ 32)) ∧
    be24.Fits 0x020304 ∧ be24.read ([1] ++ [2, 3, 4] ++ [5]) 1 = .ok 0x020304 := by
  intro frame
  have hlast : (bytes 2).read frame (2 ^ 64 - 1) = .error (.outOfBounds (2 ^ 64 - 1) 2 8) := rfl
  obtain ⟨v, hv⟩ := (read_exactly leSigned32 frame 4).2.1.2 (by decide)
  have hmeans : v.toInt = Int.bmod (lowFirst 4 fun i => frame.getD (4 + i) 0) (2 ^ 32) :=
    (read_exactly leSigned32 frame 4).2.2.1 v hv
  have hsum : lowFirst 4 (fun i => frame.getD (4 + i) 0) =
      5 + 6 * 256 + 7 * 256 ^ 2 + 0x88 * 256 ^ 3 := by
    decide
  have hfits : be24.Fits 0x020304 := (by decide : (0x020304 : UInt32).toNat < 2 ^ 24)
  refine ⟨by decide, ?_, ⟨v, hv, by rw [hmeans, hsum]; rfl⟩, hfits, ?_⟩
  · rw [← hlast]
    exact (read_exactly (bytes 2) frame (2 ^ 64 - 1)).1 (by decide)
  · exact (read_exactly be24 frame 0).2.2.2.2.1 0x020304 hfits [1] [5]

end Reader

end LoraGateway
