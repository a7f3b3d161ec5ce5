import LoraGateway.Proofs.ErrorDetection

/-!
# The check word as a remainder

The check word of a message is what division by the generator leaves of the polynomial of the
message, shifted up by the sixteen places of the word (`crc16_is_remainder`). Division leaves one
polynomial of a degree below sixteen and no other (`IsRemainder.unique`), and the bits of a word are
the coefficients of its polynomial (`testBit_iff_coeff_wordPoly`).
-/

namespace LoraGateway

open Polynomial Bytes

namespace Crc16

/-- The polynomial `r` is what division by the generator leaves of `p`. -/
structure IsRemainder (p r : (ZMod 2)[X]) : Prop where
  degree_lt : r.degree < 16
  dvd_sub : generatorPoly ∣ r - p

theorem residue_eq_iff {p q : (ZMod 2)[X]} : residue p = residue q ↔ generatorPoly ∣ p - q :=
  AdjoinRoot.mk_eq_mk

/-- Division leaves one polynomial only. -/
theorem IsRemainder.unique {p r s : (ZMod 2)[X]} (hr : IsRemainder p r) (hs : IsRemainder p s) :
    r = s := by
  refine eq_of_residue_eq hr.degree_lt hs.degree_lt ?_
  rw [residue_eq_iff.2 hr.dvd_sub, residue_eq_iff.2 hs.dvd_sub]

/-- The bits of a word are the coefficients of its polynomial. -/
theorem testBit_iff_coeff_wordPoly (w : UInt16) (i : Nat) :
    w.toNat.testBit i = true ↔ (wordPoly w).coeff i = 1 := by
  rcases Nat.lt_or_ge i 16 with hi | hi
  · rw [wordPoly, coeff_bitPoly_lowBits _ hi]
    cases w.toNat.testBit i <;> simp
  · have hcoeff : (wordPoly w).coeff i = 0 :=
      coeff_eq_zero_of_degree_lt ((degree_wordPoly_lt w).trans_le (Nat.cast_le.2 hi))
    have hbit : w.toNat.testBit i = false :=
      Nat.testBit_lt_two_pow (Nat.lt_of_lt_of_le w.toNat_lt (Nat.pow_le_pow_right (by decide) hi))
    rw [hcoeff, hbit]
    decide

theorem isRemainder_wordPoly_crc16 (data : Bytes) :
    IsRemainder (poly data * X ^ 16) (wordPoly (crc16 data)) where
  degree_lt := degree_wordPoly_lt _
  dvd_sub := by
    rw [← residue_eq_iff, residue_wordPoly_crc16, map_mul, map_pow, residue_X, mul_comm]

/-- A message followed by its check word, most significant byte first, leaves nothing. -/
theorem crc16_append_crc16 (data : Bytes) :
    crc16 (data ++ beBytes 2 (crc16 data).toNat) = 0 := by
  have hzero : wordPoly 0 = 0 := by
    rw [wordPoly, bitPoly_eq_zero_iff]
    decide
  rw [← residue_wordPoly_inj, residue_wordPoly_crc16, residue_poly_beBytes_crc16, hzero, map_zero,
    mul_zero]

/-- The check word of a message is the remainder of the message on division by the generator, after
    sixteen zero bits were put behind it. So a message with its check word leaves nothing, and the
    check word of a difference is the difference of the check words. -/
theorem crc16_is_remainder :
    (∀ data : Bytes, (∃! r, IsRemainder (poly data * X ^ 16) r) ∧
      ∀ r, IsRemainder (poly data * X ^ 16) r →
        ∀ i, (crc16 data).toNat.testBit i = true ↔ r.coeff i = 1) ∧
    (∀ data : Bytes, crc16 (data ++ beBytes 2 (crc16 data).toNat) = 0) ∧
    ∀ a b : Bytes, a.length = b.length → crc16 (difference a b) = crc16 a ^^^ crc16 b := by
  refine ⟨fun data => ?_, crc16_append_crc16, fun a b => crc16_difference⟩
  have hword := isRemainder_wordPoly_crc16 data
  refine ⟨⟨_, hword, fun r hr => hr.unique hword⟩, fun r hr i => ?_⟩
  rw [hr.unique hword]
  exact testBit_iff_coeff_wordPoly _ i

/-- The nine digits, whose check word is a known one, the same with the check word behind them, and
    what they differ in from nine zeros. -/
theorem crc16_is_remainder_digits :
    let digits : Bytes := [0x31, 0x32, 0x33, 0x34, 0x35, 0x36, 0x37, 0x38, 0x39]
    let zeros : Bytes := [0x30, 0x30, 0x30, 0x30, 0x30, 0x30, 0x30, 0x30, 0x30]
    (∃ r, IsRemainder (poly digits * X ^ 16) r ∧
      ∀ i, (0x31C3 : Nat).testBit i = true ↔ r.coeff i = 1) ∧
    crc16 (digits ++ [0x31, 0xC3]) = 0 ∧
    digits.length = zeros.length ∧
    crc16 [0x01, 0x02, 0x03, 0x04, 0x05, 0x06, 0x07, 0x08, 0x09] = 0x31C3 ^^^ crc16 zeros := by
  intro digits zeros
  obtain ⟨hremainder, happend, hdifference⟩ := crc16_is_remainder
  have hdigits : crc16 digits = 0x31C3 := by decide +kernel
  obtain ⟨r, hr, -⟩ := (hremainder digits).1
  refine ⟨⟨r, hr, ?_⟩, ?_, rfl, ?_⟩
  · have hbits := (hremainder digits).2 r hr
    rwa [hdigits] at hbits
  · have hzero := happend digits
    rwa [hdigits] at hzero
  · rw [← hdigits]
    exact hdifference digits zeros rfl

end Crc16

end LoraGateway
