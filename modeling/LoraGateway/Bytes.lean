/-!
# Byte strings

Frames and fields are lists of bytes. A field of fixed width stands for a number in one of two byte
orders: `leValue` takes the first byte as the least significant one, `beValue` as the most
significant one, and `leBytes`, `beBytes` write a number in a given width. The bytes of a buffer are
read by `range` and written over by `overwrite`.

* `leValue_lt`: a field of `k` bytes is below `size k`;
* `leValue_leBytes`, `beValue_beBytes`: what is written in a width that holds it reads back;
* `leBytes_leValue`, `beBytes_beValue`: a field is what its value is written as in its own width.
-/

namespace LoraGateway

/-- A byte string. -/
abbrev Bytes := List UInt8

namespace Bytes

/-- How many numbers a field of the given width can stand for. -/
def size : (width : Nat) → Nat
  | 0 => 1
  | k + 1 => 256 * size k

/-- The number a field stands for, least significant byte first. -/
def leValue : Bytes → Nat
  | [] => 0
  | b :: r => b.toNat + 256 * leValue r

/-- The number a field stands for, most significant byte first. -/
def beValue (bs : Bytes) : Nat :=
  leValue bs.reverse

/-- The low `width` bytes of a number, least significant byte first. -/
def leBytes : (width : Nat) → Nat → Bytes
  | 0, _ => []
  | k + 1, n => UInt8.ofNat n :: leBytes k (n / 256)

/-- The low `width` bytes of a number, most significant byte first. -/
def beBytes (width n : Nat) : Bytes :=
  (leBytes width n).reverse

/-- The bytes from `start` up to `stop`. -/
def range (bs : Bytes) (start stop : Nat) : Bytes :=
  (bs.take stop).drop start

/-- Writes a field over the bytes at `offset`. -/
def overwrite (bs : Bytes) (offset : Nat) (field : Bytes) : Bytes :=
  bs.take offset ++ field ++ bs.drop (offset + field.length)

@[simp]
theorem length_leBytes (k n : Nat) : (leBytes k n).length = k := by
  induction k generalizing n with
  | zero => rfl
  | succ k ih => simp [leBytes, ih]

@[simp]
theorem length_beBytes (k n : Nat) : (beBytes k n).length = k := by
  simp [beBytes]

theorem leValue_lt (bs : Bytes) : leValue bs < size bs.length := by
  induction bs with
  | nil => decide
  | cons b r ih =>
    have hb := b.toNat_lt
    simp only [leValue, List.length_cons, size]
    omega

theorem leValue_leBytes {k n : Nat} (h : n < size k) : leValue (leBytes k n) = n := by
  induction k generalizing n with
  | zero => simp [leBytes, leValue, size] at *; omega
  | succ k ih =>
    rw [size] at h
    rw [leBytes, leValue, ih (by omega), UInt8.toNat_ofNat']
    omega

/-- What is written of a number does not depend on what is too large for the width. -/
theorem leBytes_mod (k n : Nat) : leBytes k (n % size k) = leBytes k n := by
  induction k generalizing n with
  | zero => rfl
  | succ k ih =>
    have hlow : UInt8.ofNat (n % (256 * size k)) = UInt8.ofNat n := by
      rw [← UInt8.toNat_inj, UInt8.toNat_ofNat', UInt8.toNat_ofNat']
      exact Nat.mod_mul_right_mod ..
    rw [leBytes, leBytes, size, hlow, Nat.mod_mul_right_div_self, ih]

theorem leBytes_leValue (bs : Bytes) : leBytes bs.length (leValue bs) = bs := by
  induction bs with
  | nil => rfl
  | cons b r ih =>
    have hb := b.toNat_lt
    have low : UInt8.ofNat (b.toNat + 256 * leValue r) = b := by
      apply UInt8.toNat_inj.1
      rw [UInt8.toNat_ofNat']
      omega
    have high : (b.toNat + 256 * leValue r) / 256 = leValue r := by omega
    rw [List.length_cons, leValue, leBytes, low, high, ih]

theorem beBytes_beValue (bs : Bytes) : beBytes bs.length (beValue bs) = bs := by
  rw [beValue, beBytes, ← List.length_reverse, leBytes_leValue, List.reverse_reverse]

theorem beValue_beBytes {k n : Nat} (h : n < size k) : beValue (beBytes k n) = n := by
  rw [beValue, beBytes, List.reverse_reverse, leValue_leBytes h]

end Bytes

end LoraGateway
