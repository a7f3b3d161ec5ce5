import Mathlib.Data.List.Basic
import LoraGateway.Proofs.Result
import LoraGateway.Wire

/-!
# Fields of a frame, read exactly

That the bytes `bs` stand at an offset of a frame is `Bytes.Holds frame offset bs`: there is
something before them, as long as the offset says, and something after them. Every reader of
`Wire` succeeds with a value if and only if the frame holds the bytes of that value there.

* `holds_append_iff`: adjacent fields make up one field, so that a frame can be put together from
  what its decoder read;
* `slice_eq_ok_iff`, `littleEndian_eq_ok_iff`, `bigEndian_eq_ok_iff`: the readers of bytes and of
  numbers, from which those of words follow by the conversion between words and numbers
  (`littleEndian_map_eq_ok_iff`, `bigEndian_map_eq_ok_iff`);
* `slice_eq_error_iff`: a field is refused if and only if it ends after the frame.
-/

namespace LoraGateway

namespace Bytes

/-- What holds of each of the 256 bytes holds of every byte. -/
theorem forall_byte {p : UInt8 → Prop} (h : ∀ n < 256, p (UInt8.ofNat n)) (b : UInt8) : p b := by
  have := h b.toNat b.toNat_lt
  rwa [UInt8.ofNat_toNat] at this

theorem beValue_lt (bs : Bytes) : beValue bs < size bs.length := by
  rw [beValue, ← List.length_reverse]
  exact leValue_lt bs.reverse

theorem size_one : size 1 = UInt8.size :=
  rfl

theorem size_two : size 2 = UInt16.size :=
  rfl

theorem size_four : size 4 = UInt32.size :=
  rfl

theorem size_eight : size 8 = UInt64.size :=
  rfl

theorem size_le_size {j k : Nat} (h : j ≤ k) : size j ≤ size k := by
  induction h with
  | refl => exact Nat.le_refl _
  | step _ ih =>
    rw [size]
    omega

theorem beValue_take_lt (bs : Bytes) (k : Nat) : beValue (bs.take k) < size k :=
  Nat.lt_of_lt_of_le (beValue_lt _) (size_le_size (List.length_take_le ..))

/-- The bytes `bs` stand at `offset` of the frame. -/
def Holds (frame : Bytes) (offset : Nat) (bs : Bytes) : Prop :=
  ∃ before after, frame = before ++ bs ++ after ∧ before.length = offset

variable {frame a b bs : Bytes} {offset : Nat}

theorem Holds.length_le (h : Holds frame offset bs) : offset + bs.length ≤ frame.length := by
  obtain ⟨before, after, rfl, rfl⟩ := h
  simp only [List.length_append]
  omega

/-- A field is what is left of the frame from its offset on, cut off at its width. -/
theorem holds_iff : Holds frame offset bs ↔
    offset + bs.length ≤ frame.length ∧ (frame.drop offset).take bs.length = bs := by
  constructor
  · intro h
    refine ⟨h.length_le, ?_⟩
    obtain ⟨before, after, rfl, rfl⟩ := h
    rw [List.append_assoc, List.drop_left, List.take_left]
  · rintro ⟨hlen, hbs⟩
    refine ⟨frame.take offset, (frame.drop offset).drop bs.length, ?_, ?_⟩
    · have split : frame.take offset ++
          ((frame.drop offset).take bs.length ++ (frame.drop offset).drop bs.length) = frame := by
        rw [List.take_append_drop, List.take_append_drop]
      rw [hbs, ← List.append_assoc] at split
      exact split.symm
    · rw [List.length_take]
      omega

/-- Two fields stand one after the other if and only if their bytes stand there as one field. -/
theorem holds_append_iff : Holds frame offset (a ++ b) ↔
    Holds frame offset a ∧ Holds frame (offset + a.length) b := by
  constructor
  · rintro ⟨before, after, rfl, rfl⟩
    exact ⟨⟨before, b ++ after, by simp, rfl⟩, ⟨before ++ a, after, by simp, by simp⟩⟩
  · rintro ⟨ha, hb⟩
    rw [holds_iff] at ha hb ⊢
    rw [List.length_append]
    refine ⟨by omega, ?_⟩
    rw [List.take_add, List.drop_drop, ha.2, hb.2]

theorem holds_cons_iff {x : UInt8} : Holds frame offset (x :: bs) ↔
    Holds frame offset [x] ∧ Holds frame (offset + 1) bs :=
  holds_append_iff (a := [x])

/-- A field that is as long as the frame is the frame. -/
theorem holds_zero_iff : Holds frame 0 bs ∧ bs.length = frame.length ↔ frame = bs := by
  constructor
  · rintro ⟨h, hlen⟩
    rw [← (holds_iff.1 h).2, hlen, List.drop_zero, List.take_length]
  · rintro rfl
    exact ⟨⟨[], [], by simp, rfl⟩, rfl⟩

/-- What is left of the frame from an offset on starts with the field at that offset. -/
theorem holds_iff_drop : Holds frame offset bs ↔
    offset ≤ frame.length ∧ ∃ after, frame.drop offset = bs ++ after := by
  constructor
  · rintro ⟨before, after, rfl, rfl⟩
    exact ⟨by simp, after, by simp⟩
  · rintro ⟨hlen, after, h⟩
    refine ⟨frame.take offset, after, ?_, List.length_take_of_le hlen⟩
    rw [List.append_assoc, ← h, List.take_append_drop]

/-- A range of the frame is a field that ends where the range does. -/
theorem range_eq_iff_holds {start stop : Nat} (hle : start ≤ stop) (hstop : stop ≤ frame.length) :
    frame.range start stop = bs ↔ Holds frame start bs ∧ start + bs.length = stop := by
  have hrange : frame.range start stop = (frame.drop start).take (stop - start) := by
    rw [range, List.drop_take]
  rw [hrange, holds_iff]
  constructor
  · rintro rfl
    have hlength : ((frame.drop start).take (stop - start)).length = stop - start := by
      rw [List.length_take, List.length_drop]
      omega
    rw [hlength]
    exact ⟨⟨by omega, rfl⟩, by omega⟩
  · rintro ⟨⟨-, hbs⟩, rfl⟩
    rwa [Nat.add_sub_cancel_left]

theorem holds_singleton_iff {b : UInt8} : Holds frame offset [b] ↔ frame[offset]? = some b := by
  rw [holds_iff_drop]
  constructor
  · rintro ⟨-, after, h⟩
    rw [← List.head?_drop, h]
    rfl
  · intro h
    obtain ⟨hlt, rfl⟩ := List.getElem?_eq_some_iff.1 h
    exact ⟨Nat.le_of_lt hlt, frame.drop (offset + 1), List.drop_eq_getElem_cons hlt⟩

end Bytes

namespace Wire

open Bytes (Holds)

variable {frame bs : Bytes} {offset width : Nat}

theorem slice_eq_ok_iff :
    slice frame offset width = .ok bs ↔ bs.length = width ∧ Holds frame offset bs := by
  rw [Bytes.holds_iff]
  constructor
  · intro h
    have hlen : offset + width ≤ frame.length := by
      by_contra hlt
      rw [slice_eq_error (Nat.lt_of_not_le hlt)] at h
      cases h
    rw [slice_eq_ok hlen] at h
    cases h
    have hw : ((frame.drop offset).take width).length = width := by
      rw [List.length_take, List.length_drop]
      omega
    rw [hw]
    exact ⟨rfl, hlen, rfl⟩
  · rintro ⟨rfl, hlen, hbs⟩
    rw [slice_eq_ok hlen, hbs]

theorem slice_eq_error_iff {e : Malformed} : slice frame offset width = .error e ↔
    frame.length < offset + width ∧ e = .outOfBounds offset width frame.length := by
  constructor
  · intro h
    have hlt : frame.length < offset + width := by
      by_contra hle
      rw [slice_eq_ok (Nat.le_of_not_lt hle)] at h
      cases h
    rw [slice_eq_error hlt] at h
    cases h
    exact ⟨hlt, rfl⟩
  · rintro ⟨hlt, rfl⟩
    exact slice_eq_error hlt

theorem littleEndian_eq_ok_iff {n : Nat} : littleEndian frame offset width = .ok n ↔
    n < Bytes.size width ∧ Holds frame offset (Bytes.leBytes width n) := by
  rw [littleEndian, Result.map_eq_ok_iff]
  constructor
  · rintro ⟨bs, hbs, rfl⟩
    obtain ⟨rfl, h⟩ := slice_eq_ok_iff.1 hbs
    exact ⟨Bytes.leValue_lt bs, by rwa [Bytes.leBytes_leValue]⟩
  · rintro ⟨hn, h⟩
    exact ⟨_, slice_eq_ok_iff.2 ⟨Bytes.length_leBytes width n, h⟩, Bytes.leValue_leBytes hn⟩

theorem bigEndian_eq_ok_iff {n : Nat} : bigEndian frame offset width = .ok n ↔
    n < Bytes.size width ∧ Holds frame offset (Bytes.beBytes width n) := by
  rw [bigEndian, Result.map_eq_ok_iff]
  constructor
  · rintro ⟨bs, hbs, rfl⟩
    obtain ⟨rfl, h⟩ := slice_eq_ok_iff.1 hbs
    exact ⟨Bytes.beValue_lt bs, by rwa [Bytes.beBytes_beValue]⟩
  · rintro ⟨hn, h⟩
    exact ⟨_, slice_eq_ok_iff.2 ⟨Bytes.length_beBytes width n, h⟩, Bytes.beValue_beBytes hn⟩

/-! ### Fields inside the frame

Every reader succeeds on a field that ends inside the frame.
-/

section Inside

variable (frame offset width)

theorem exists_slice_eq_ok (h : offset + width ≤ frame.length) :
    ∃ bs, slice frame offset width = .ok bs :=
  ⟨_, slice_eq_ok h⟩

theorem exists_byte_eq_ok (h : offset + 1 ≤ frame.length) : ∃ v, byte frame offset = .ok v :=
  Result.exists_map_eq_ok _ (Result.exists_map_eq_ok _ (exists_slice_eq_ok _ _ _ h))

theorem exists_le16_eq_ok (h : offset + 2 ≤ frame.length) : ∃ v, le16 frame offset = .ok v :=
  Result.exists_map_eq_ok _ (Result.exists_map_eq_ok _ (exists_slice_eq_ok _ _ _ h))

theorem exists_le32_eq_ok (h : offset + 4 ≤ frame.length) : ∃ v, le32 frame offset = .ok v :=
  Result.exists_map_eq_ok _ (Result.exists_map_eq_ok _ (exists_slice_eq_ok _ _ _ h))

theorem exists_leSigned32_eq_ok (h : offset + 4 ≤ frame.length) :
    ∃ v, leSigned32 frame offset = .ok v :=
  Result.exists_map_eq_ok _ (exists_le32_eq_ok _ _ h)

theorem exists_le64_eq_ok (h : offset + 8 ≤ frame.length) : ∃ v, le64 frame offset = .ok v :=
  Result.exists_map_eq_ok _ (Result.exists_map_eq_ok _ (exists_slice_eq_ok _ _ _ h))

theorem exists_be32_eq_ok (h : offset + 4 ≤ frame.length) : ∃ v, be32 frame offset = .ok v :=
  Result.exists_map_eq_ok _ (Result.exists_map_eq_ok _ (exists_slice_eq_ok _ _ _ h))

theorem exists_be64_eq_ok (h : offset + 8 ≤ frame.length) : ∃ v, be64 frame offset = .ok v :=
  Result.exists_map_eq_ok _ (Result.exists_map_eq_ok _ (exists_slice_eq_ok _ _ _ h))

end Inside

/-! ### Words

A word is a number of a field in another type: `make` and `toNat` convert between them. -/

section Words

variable {α : Type} {make : Nat → α} {toNat : α → Nat} {v : α} {bound : Nat}

theorem littleEndian_map_eq_ok_iff (hsize : Bytes.size width = bound) (hmake : make (toNat v) = v)
    (hnat : ∀ n < bound, toNat (make n) = n) :
    (littleEndian frame offset width).map make = .ok v ↔
      toNat v < bound ∧ Holds frame offset (Bytes.leBytes width (toNat v)) := by
  subst hsize
  rw [Result.map_eq_ok_iff]
  constructor
  · rintro ⟨n, hn, rfl⟩
    obtain ⟨hlt, h⟩ := littleEndian_eq_ok_iff.1 hn
    rw [hnat n hlt]
    exact ⟨hlt, h⟩
  · intro h
    exact ⟨_, littleEndian_eq_ok_iff.2 h, hmake⟩

theorem bigEndian_map_eq_ok_iff (hsize : Bytes.size width = bound) (hmake : make (toNat v) = v)
    (hnat : ∀ n < bound, toNat (make n) = n) :
    (bigEndian frame offset width).map make = .ok v ↔
      toNat v < bound ∧ Holds frame offset (Bytes.beBytes width (toNat v)) := by
  subst hsize
  rw [Result.map_eq_ok_iff]
  constructor
  · rintro ⟨n, hn, rfl⟩
    obtain ⟨hlt, h⟩ := bigEndian_eq_ok_iff.1 hn
    rw [hnat n hlt]
    exact ⟨hlt, h⟩
  · intro h
    exact ⟨_, bigEndian_eq_ok_iff.2 h, hmake⟩

end Words

theorem byte_eq_ok_iff {v : UInt8} : byte frame offset = .ok v ↔ Holds frame offset [v] := by
  have one : Bytes.beBytes 1 v.toNat = [v] := by
    simp [Bytes.beBytes, Bytes.leBytes]
  rw [byte, bigEndian_map_eq_ok_iff Bytes.size_one UInt8.ofNat_toNat
    fun _ h => UInt8.toNat_ofNat_of_lt' h, one]
  exact and_iff_right v.toNat_lt

theorem byte_eq_error_iff {e : Malformed} : byte frame offset = .error e ↔
    frame.length < offset + 1 ∧ e = .outOfBounds offset 1 frame.length := by
  rw [byte, bigEndian, Result.map_eq_error_iff, Result.map_eq_error_iff, slice_eq_error_iff]

theorem signedByte_eq_ok_iff {v : Int8} :
    signedByte frame offset = .ok v ↔ Holds frame offset [v.toUInt8] := by
  rw [signedByte, Result.map_eq_ok_iff, ← byte_eq_ok_iff]
  constructor
  · rintro ⟨b, hb, rfl⟩
    exact hb
  · intro h
    exact ⟨_, h, rfl⟩

theorem le16_eq_ok_iff {v : UInt16} :
    le16 frame offset = .ok v ↔ Holds frame offset (Bytes.leBytes 2 v.toNat) :=
  (littleEndian_map_eq_ok_iff Bytes.size_two UInt16.ofNat_toNat
    fun _ h => UInt16.toNat_ofNat_of_lt' h).trans (and_iff_right v.toNat_lt)

theorem le32_eq_ok_iff {v : UInt32} :
    le32 frame offset = .ok v ↔ Holds frame offset (Bytes.leBytes 4 v.toNat) :=
  (littleEndian_map_eq_ok_iff Bytes.size_four UInt32.ofNat_toNat
    fun _ h => UInt32.toNat_ofNat_of_lt' h).trans (and_iff_right v.toNat_lt)

theorem leSigned32_eq_ok_iff {v : Int32} : leSigned32 frame offset = .ok v ↔
    Holds frame offset (Bytes.leBytes 4 v.toUInt32.toNat) := by
  rw [leSigned32, Result.map_eq_ok_iff, ← le32_eq_ok_iff]
  constructor
  · rintro ⟨w, hw, rfl⟩
    exact hw
  · intro h
    exact ⟨_, h, rfl⟩

theorem le64_eq_ok_iff {v : UInt64} :
    le64 frame offset = .ok v ↔ Holds frame offset (Bytes.leBytes 8 v.toNat) :=
  (littleEndian_map_eq_ok_iff Bytes.size_eight UInt64.ofNat_toNat
    fun _ h => UInt64.toNat_ofNat_of_lt' h).trans (and_iff_right v.toNat_lt)

theorem be16_eq_ok_iff {v : UInt16} :
    be16 frame offset = .ok v ↔ Holds frame offset (Bytes.beBytes 2 v.toNat) :=
  (bigEndian_map_eq_ok_iff Bytes.size_two UInt16.ofNat_toNat
    fun _ h => UInt16.toNat_ofNat_of_lt' h).trans (and_iff_right v.toNat_lt)

/-- A word of 24 bits is kept in one of 32, whose highest byte is zero. -/
theorem be24_eq_ok_iff {v : UInt32} : be24 frame offset = .ok v ↔
    v.toNat < Bytes.size 3 ∧ Holds frame offset (Bytes.beBytes 3 v.toNat) :=
  bigEndian_map_eq_ok_iff rfl UInt32.ofNat_toNat fun _ h =>
    UInt32.toNat_ofNat_of_lt' (Nat.lt_trans h (by decide))

theorem be32_eq_ok_iff {v : UInt32} :
    be32 frame offset = .ok v ↔ Holds frame offset (Bytes.beBytes 4 v.toNat) :=
  (bigEndian_map_eq_ok_iff Bytes.size_four UInt32.ofNat_toNat
    fun _ h => UInt32.toNat_ofNat_of_lt' h).trans (and_iff_right v.toNat_lt)

theorem be64_eq_ok_iff {v : UInt64} :
    be64 frame offset = .ok v ↔ Holds frame offset (Bytes.beBytes 8 v.toNat) :=
  (bigEndian_map_eq_ok_iff Bytes.size_eight UInt64.ofNat_toNat
    fun _ h => UInt64.toNat_ofNat_of_lt' h).trans (and_iff_right v.toNat_lt)

end Wire

end LoraGateway
