import Mathlib.Data.Nat.Bitwise
import LoraGateway.Bytes

/-!
# Bits

The low bits of a number (`lowBits`) and the bits of a byte string (`Bytes.bits`) as strings of
bits, most significant bit first. In which bits two byte strings of one length differ is a byte
string again (`Bytes.difference`).

* `lowBits_mod`, `mod_eq_of_lowBits_eq`: the low bits of a number are the number up to the others;
* `lowBits_add`, `Bytes.bits_beBytes_two`: the bits of a word are those of its bytes;
* `Bytes.bits_difference`: the set bits of a difference are where the bits differ.
-/

namespace LoraGateway

/-- The low `width` bits of a number, most significant bit first. -/
def lowBits : (width : Nat) → Nat → List Bool
  | 0, _ => []
  | k + 1, n => n.testBit k :: lowBits k n

/-- A word has a bit in common with a power of two if and only if that bit of it is set. -/
theorem and_ne_zero_iff_testBit {w mask : UInt32} {i : Nat} (h : mask.toNat = 2 ^ i) :
    w &&& mask ≠ 0 ↔ w.toNat.testBit i = true := by
  rw [ne_eq, ← UInt32.toNat_inj, UInt32.toNat_and, h, Nat.and_two_pow, UInt32.toNat_zero]
  cases w.toNat.testBit i with
  | false => simp
  | true => simp

/-- Setting or clearing the bit of a power of two leaves all other bits as they are. -/
theorem testBit_or_and_not {w mask : UInt32} {i : Nat} (h : mask.toNat = 2 ^ i) (set : Bool)
    {j : Nat} (hj : j < 32) :
    (if set then w ||| mask else w &&& ~~~mask).toNat.testBit j =
      if i = j then set else w.toNat.testBit j := by
  have hmask : (~~~mask).toNat.testBit j = !decide (i = j) := by
    have hsize : UInt32.size = 2 ^ 32 := rfl
    have hnot : (~~~mask).toNat = 2 ^ 32 - (2 ^ i + 1) := by
      rw [UInt32.toNat_not, h, hsize, Nat.sub_sub, Nat.add_comm 1]
    rw [hnot, Nat.testBit_two_pow_sub_succ (h ▸ mask.toNat_lt), decide_eq_true hj, Bool.true_and,
      Nat.testBit_two_pow]
  cases set with
  | true =>
    rw [if_pos rfl, UInt32.toNat_or, Nat.testBit_or, h, Nat.testBit_two_pow]
    by_cases hij : i = j
    · rw [if_pos hij, decide_eq_true hij, Bool.or_true]
    · rw [if_neg hij, decide_eq_false hij, Bool.or_false]
  | false =>
    rw [if_neg Bool.false_ne_true, UInt32.toNat_and, Nat.testBit_and, hmask]
    by_cases hij : i = j
    · rw [if_pos hij, decide_eq_true hij, Bool.not_true, Bool.and_false]
    · rw [if_neg hij, decide_eq_false hij, Bool.not_false, Bool.and_true]

@[simp]
theorem length_lowBits (k n : Nat) : (lowBits k n).length = k := by
  induction k with
  | zero => rfl
  | succ k ih => rw [lowBits, List.length_cons, ih]

/-- The low bits of a number do not depend on the others. -/
theorem lowBits_mod {j k : Nat} (h : k ≤ j) (n : Nat) : lowBits k (n % 2 ^ j) = lowBits k n := by
  induction k with
  | zero => rfl
  | succ k ih =>
    have hk : k < j := h
    rw [lowBits, lowBits, ih (Nat.le_of_succ_le h), Nat.testBit_mod_two_pow]
    simp [hk]

theorem lowBits_xor (k m n : Nat) :
    lowBits k (m ^^^ n) = List.zipWith xor (lowBits k m) (lowBits k n) := by
  induction k with
  | zero => rfl
  | succ k ih => rw [lowBits, lowBits, lowBits, List.zipWith_cons_cons, ih, Nat.testBit_xor]

/-- Numbers with the same low bits are the same up to the others. -/
theorem mod_eq_of_lowBits_eq {k m n : Nat} (h : lowBits k m = lowBits k n) :
    m % 2 ^ k = n % 2 ^ k := by
  have htest : ∀ i < k, m.testBit i = n.testBit i := by
    induction k with
    | zero => exact fun i hi => absurd hi (Nat.not_lt_zero i)
    | succ k ih =>
      rw [lowBits, lowBits, List.cons.injEq] at h
      intro i hi
      rcases Nat.lt_succ_iff_lt_or_eq.1 hi with hi | rfl
      · exact ih h.2 i hi
      · exact h.1
  refine Nat.eq_of_testBit_eq fun i => ?_
  rw [Nat.testBit_mod_two_pow, Nat.testBit_mod_two_pow]
  by_cases hi : i < k
  · rw [htest i hi]
  · simp [hi]

/-- The low bits of a number are those of its upper and of its lower part. -/
theorem lowBits_add (j k n : Nat) : lowBits (j + k) n = lowBits j (n / 2 ^ k) ++ lowBits k n := by
  induction j with
  | zero => rw [Nat.zero_add, lowBits, List.nil_append]
  | succ j ih =>
    rw [Nat.succ_add_eq_add_succ, Nat.add_succ, lowBits, ih, lowBits, List.cons_append,
      Nat.testBit_div_two_pow]

namespace Bytes

/-- The bits of a byte string, each byte most significant bit first. -/
def bits (bs : Bytes) : List Bool :=
  bs.flatMap fun b => lowBits 8 b.toNat

/-- The byte string whose set bits are those in which two strings differ. -/
def difference (a b : Bytes) : Bytes :=
  List.zipWith (· ^^^ ·) a b

theorem bits_cons (b : UInt8) (bs : Bytes) : bits (b :: bs) = lowBits 8 b.toNat ++ bits bs :=
  List.flatMap_cons ..

theorem bits_append (a b : Bytes) : bits (a ++ b) = bits a ++ bits b :=
  List.flatMap_append ..

@[simp]
theorem length_bits (bs : Bytes) : bs.bits.length = 8 * bs.length := by
  induction bs with
  | nil => rfl
  | cons b bs ih =>
    rw [bits_cons, List.length_append, length_lowBits, ih, List.length_cons]
    omega

/-- The order of the bytes has no influence on how many bits are set. -/
theorem bits_reverse_perm (bs : Bytes) : (bits bs.reverse).Perm bs.bits :=
  (List.reverse_perm bs).flatMap_right _

@[simp]
theorem length_difference {a b : Bytes} (h : a.length = b.length) :
    (difference a b).length = a.length := by
  rw [difference, List.length_zipWith, h, Nat.min_self]

theorem difference_append {a b c d : Bytes} (h : a.length = b.length) :
    difference (a ++ c) (b ++ d) = difference a b ++ difference c d :=
  List.zipWith_append h

/-- The bits of a difference are the differences of the bits. -/
theorem bits_difference (a b : Bytes) :
    (difference a b).bits = List.zipWith xor a.bits b.bits := by
  induction a generalizing b with
  | nil => rfl
  | cons x a ih =>
    cases b with
    | nil => exact List.zipWith_nil_right.symm
    | cons y b =>
      have hhead : (difference (x :: a) (y :: b)).bits =
          lowBits 8 (x ^^^ y).toNat ++ (difference a b).bits :=
        bits_cons ..
      rw [hhead, ih, UInt8.toNat_xor, lowBits_xor, bits_cons, bits_cons,
        List.zipWith_append (by simp)]

/-- A word, most significant byte first, is its sixteen low bits. -/
theorem bits_beBytes_two (n : Nat) : bits (beBytes 2 n) = lowBits 16 n := by
  have hbytes : beBytes 2 n = [UInt8.ofNat (n / 256), UInt8.ofNat n] := rfl
  rw [hbytes, bits_cons, bits_cons, UInt8.toNat_ofNat', UInt8.toNat_ofNat',
    lowBits_mod (Nat.le_refl 8), lowBits_mod (Nat.le_refl 8), lowBits_add 8 8 n]
  exact congrArg _ (List.append_nil _)

end Bytes

end LoraGateway
