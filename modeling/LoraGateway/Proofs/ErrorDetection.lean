import LoraGateway.Proofs.CyclicCode

/-!
# What a check word detects

A message is followed by its check word, least significant byte first (`withCrc`). What two such
strings of one length differ in is again a message with its check word (`difference_withCrc`), that
is, up to the order of its last two bytes, a multiple of the generator. Such a multiple

* has an even number of set bits, since the generator has the root one;
* has not just two set bits, since the powers of the indeterminate do not repeat within the longest
  string (`x_pow_ne_one`);
* has not all its set bits within sixteen consecutive ones of the message, since no polynomial of a
  degree below sixteen is a multiple of the generator (`true_not_mem_of_window`).

Hence damage of these kinds (`Damage`) never leads from one of the strings to another
(`not_damage_withCrc`).
-/

namespace LoraGateway

open Polynomial Bytes Crc16

/-- A message with its check word. -/
def withCrc (message : Bytes) : Bytes :=
  message ++ leBytes 2 (crc16 message).toNat

/-- Ways in which a string that ends with a check word comes to differ from another one. -/
inductive Damage (a b : Bytes) : Prop
  /-- An odd number of bits differ. -/
  | odd (h : Odd ((difference a b).bits.count true))
  /-- Two bits differ, be they in the message or in its check word. -/
  | pair (h : (difference a b).bits.count true = 2)
  /-- Some bits differ, all of them in the message and within sixteen consecutive ones. -/
  | burst (start : Nat) (hsome : true ∈ (difference a b).bits)
      (hwithin : ∀ i, (difference a b).bits[i]? = some true →
        start ≤ i ∧ i < start + 16 ∧ i < 8 * (a.length - 2))

/-! ## Differences -/

theorem length_withCrc (message : Bytes) : (withCrc message).length = message.length + 2 := by
  rw [withCrc, List.length_append, length_leBytes]

theorem Bytes.leBytes_xor (k m n : Nat) :
    leBytes k (m ^^^ n) = difference (leBytes k m) (leBytes k n) := by
  induction k generalizing m n with
  | zero => rfl
  | succ k ih =>
    have hhigh : (m ^^^ n) / 256 = m / 256 ^^^ n / 256 := by
      have hpow : 256 = 2 ^ 8 := rfl
      rw [hpow, ← Nat.shiftRight_eq_div_pow, ← Nat.shiftRight_eq_div_pow,
        ← Nat.shiftRight_eq_div_pow, Nat.shiftRight_xor_distrib]
    rw [leBytes, UInt8.ofNat_xor, hhigh, ih]
    rfl

theorem Crc16.wordPoly_xor (v w : UInt16) : wordPoly (v ^^^ w) = wordPoly v + wordPoly w := by
  rw [wordPoly, UInt16.toNat_xor, lowBits_xor, bitPoly_zipWith_xor (by simp), wordPoly, wordPoly]

/-- The check word of a difference is the difference of the check words. -/
theorem crc16_difference {a b : Bytes} (h : a.length = b.length) :
    crc16 (difference a b) = crc16 a ^^^ crc16 b := by
  rw [← residue_wordPoly_inj, residue_wordPoly_crc16, poly_difference h, wordPoly_xor, map_add,
    map_add, residue_wordPoly_crc16, residue_wordPoly_crc16, mul_add]

theorem difference_withCrc {a b : Bytes} (h : a.length = b.length) :
    difference (withCrc a) (withCrc b) = withCrc (difference a b) := by
  rw [withCrc, withCrc, difference_append h, ← leBytes_xor, ← UInt16.toNat_xor,
    ← crc16_difference h, withCrc]

/-! ## Multiples of the generator -/

/-- Read with its check word in the order of the message, a message is a multiple of the
    generator. -/
theorem residue_poly_beBytes_crc16 (message : Bytes) :
    residue (poly (message ++ beBytes 2 (crc16 message).toNat)) = 0 :=
  crc16_eq_iff.1 rfl

/-- The order of the two bytes of the check word has no influence on how many bits are set. -/
theorem count_bits_withCrc (message : Bytes) : (withCrc message).bits.count true =
    (message ++ beBytes 2 (crc16 message).toNat).bits.count true := by
  rw [withCrc, bits_append, bits_append, List.count_append, List.count_append, beBytes,
    (bits_reverse_perm _).count_eq]

namespace Crc16

/-- True if the word one is in none of the registers of the next steps. -/
def neverOne : (steps : Nat) → UInt32 → Bool
  | 0, _ => true
  | k + 1, r => r.toUInt16 != 1 && neverOne k (step r)

theorem ne_one_of_neverOne {n : Nat} {r : UInt32} (h : neverOne n r = true) {k : Nat}
    (hk : k < n) : (step^[k] r).toUInt16 ≠ 1 := by
  induction n generalizing r k with
  | zero => exact absurd hk (Nat.not_lt_zero k)
  | succ n ih =>
    rw [neverOne, Bool.and_eq_true, bne_iff_ne] at h
    cases k with
    | zero => exact h.1
    | succ k =>
      rw [Function.iterate_succ_apply]
      exact ih h.2 (Nat.lt_of_succ_lt_succ hk)

theorem neverOne_step_one : neverOne 2039 (step 1) = true := by
  decide +kernel

/-- The powers of the indeterminate do not repeat within the 2040 bits of the longest string. -/
theorem x_pow_ne_one {k : Nat} (hpos : 0 < k) (hk : k < 2040) : x ^ k ≠ 1 := by
  intro h
  obtain ⟨k, rfl⟩ := Nat.exists_eq_succ_of_ne_zero (Nat.ne_of_gt hpos)
  refine ne_one_of_neverOne neverOne_step_one (Nat.lt_of_succ_lt_succ hk) ?_
  have hone : (1 : UInt16) = (1 : UInt32).toUInt16 := rfl
  rw [← residue_wordPoly_inj, hone, wordPoly_toUInt16, wordPoly_toUInt16,
    ← Function.iterate_succ_apply, residue_iterate_step, h, one_mul]

/-- Two set bits within the longest string are no multiple of the generator. -/
theorem count_ne_two_of_residue_eq_zero {bits : List Bool} (hlen : bits.length ≤ 2040)
    (h : residue (bitPoly bits) = 0) : bits.count true ≠ 2 := by
  intro hcount
  obtain ⟨i, j, hij, hj, hpoly⟩ := bitPoly_eq_of_count_eq_two hcount
  obtain ⟨k, rfl⟩ := Nat.exists_eq_add_of_le (Nat.le_of_lt hij)
  have hsum : x ^ i * (1 + x ^ k) = 0 := by
    rw [hpoly, map_add, map_pow, map_pow, residue_X] at h
    rw [← h]
    ring
  have hone : 1 + x ^ k = 0 := ((isUnit_x.pow i).mul_right_eq_zero).1 hsum
  refine x_pow_ne_one (k := k) (by omega) (by omega) ?_
  linear_combination hone - two_eq_zero

/-- A multiple of the generator does not have all its set bits in a window of sixteen. -/
theorem true_not_mem_of_window {bits : List Bool} (start : Nat)
    (hwindow : ∀ i, bits[i]? = some true → start ≤ i ∧ i < start + 16)
    (h : residue (bitPoly bits) = 0) : true ∉ bits := by
  obtain ⟨k, hpoly⟩ := bitPoly_eq_of_window hwindow
  have hdegree : (bitPoly ((bits.drop start).take 16)).degree < 16 := by
    refine (degree_bitPoly_lt _).trans_le ?_
    exact_mod_cast List.length_take_le 16 (bits.drop start)
  rw [hpoly, map_mul, map_pow, residue_X, (isUnit_x.pow k).mul_right_eq_zero] at h
  rw [← bitPoly_eq_zero_iff, hpoly, eq_zero_of_residue_eq_zero hdegree h, mul_zero]

end Crc16

/-! ## Damage -/

/-- A message of which only some bits within sixteen consecutive ones are set has a check word that
    is not zero. -/
theorem true_not_mem_bits_withCrc {message : Bytes} (start : Nat)
    (hwithin : ∀ i, (withCrc message).bits[i]? = some true →
      start ≤ i ∧ i < start + 16 ∧ i < 8 * message.length) : true ∉ (withCrc message).bits := by
  rw [withCrc, bits_append] at hwithin ⊢
  have hword : true ∉ (leBytes 2 (crc16 message).toNat).bits := by
    intro hmem
    obtain ⟨i, hi⟩ := List.mem_iff_getElem?.1 hmem
    have hlen := length_bits message
    have := (hwithin (message.bits.length + i) (by
      rw [List.getElem?_append_right (Nat.le_add_right ..), Nat.add_sub_cancel_left]
      exact hi)).2.2
    omega
  -- Without the check word, the message itself is a multiple of the generator.
  have hpoly : residue (poly message) = 0 := by
    have hzero : poly (beBytes 2 (crc16 message).toNat) = 0 := by
      rw [poly, bitPoly_eq_zero_iff, beBytes, (bits_reverse_perm _).mem_iff]
      exact hword
    have hresidue := residue_poly_beBytes_crc16 message
    rw [poly_append, hzero, add_zero, map_mul, map_pow, residue_X,
      (isUnit_x.pow _).mul_right_eq_zero] at hresidue
    exact hresidue
  have hmessage : true ∉ message.bits := by
    refine true_not_mem_of_window start (fun i hi => ?_) hpoly
    have hlt : i < message.bits.length := (List.getElem?_eq_some_iff.1 hi).1
    have hin := hwithin i (by rw [List.getElem?_append_left hlt]; exact hi)
    exact ⟨hin.1, hin.2.1⟩
  intro hmem
  exact (List.mem_append.1 hmem).elim hmessage hword

/-- Damage never leads from a message with its check word to another one. -/
theorem not_damage_withCrc {a b : Bytes} (hlen : a.length = b.length) (hmax : a.length + 2 ≤ 255) :
    ¬Damage (withCrc a) (withCrc b) := by
  intro h
  have hresidue := residue_poly_beBytes_crc16 (difference a b)
  cases h with
  | odd h =>
    rw [difference_withCrc hlen, count_bits_withCrc] at h
    exact Nat.not_even_iff_odd.2 h (even_count_of_residue_eq_zero hresidue)
  | pair h =>
    rw [difference_withCrc hlen, count_bits_withCrc] at h
    refine count_ne_two_of_residue_eq_zero ?_ hresidue h
    rw [length_bits, List.length_append, length_difference hlen, length_beBytes]
    omega
  | burst start hsome hwithin =>
    rw [difference_withCrc hlen] at hsome hwithin
    refine true_not_mem_bits_withCrc start (fun i hi => ?_) hsome
    rw [length_difference hlen]
    rw [length_withCrc, Nat.add_sub_cancel] at hwithin
    exact hwithin i hi

end LoraGateway
