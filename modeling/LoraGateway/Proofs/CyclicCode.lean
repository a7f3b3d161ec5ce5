import Mathlib.RingTheory.AdjoinRoot
import LoraGateway.Crc16
import LoraGateway.Proofs.BitPolynomial

/-!
# The check word as a cyclic code

Polynomials modulo the generator form a ring (`Residue`) in which the indeterminate is a unit.
A step of the register multiplies its residue by the indeterminate, so that after a message the
register holds the residue of the message followed by sixteen zero bits. Hence a message followed
by a word, most significant byte first, is a multiple of the generator if and only if the word is
the check word of the message (`crc16_eq_iff`).

Two facts about the multiples of the generator do not depend on the register: each has an even
number of set bits, since the generator has the root one (`even_count_of_residue_eq_zero`), and only
zero has a degree below sixteen (`eq_zero_of_residue_eq_zero`). Hence a byte can be told from its
residue, and a message that is changed in its first byte alone has another check word
(`crc16_cons_inj`).
-/

namespace LoraGateway

open Polynomial Bytes

/-- The polynomial of a byte string. -/
noncomputable def Bytes.poly (bs : Bytes) : (ZMod 2)[X] :=
  bitPoly bs.bits

namespace Bytes

theorem poly_append (a b : Bytes) : poly (a ++ b) = X ^ (8 * b.length) * poly a + poly b := by
  rw [poly, bits_append, bitPoly_append, length_bits, poly, poly]

theorem poly_cons (b : UInt8) (bs : Bytes) :
    poly (b :: bs) = X ^ (8 * bs.length) * poly [b] + poly bs :=
  poly_append [b] bs

theorem poly_difference {a b : Bytes} (h : a.length = b.length) :
    poly (difference a b) = poly a + poly b := by
  rw [poly, bits_difference, bitPoly_zipWith_xor (by rw [length_bits, length_bits, h]), poly, poly]

end Bytes

namespace Crc16

/-- The generator, with its leading term. -/
noncomputable def generatorPoly : (ZMod 2)[X] :=
  X ^ 16 + X ^ 12 + X ^ 5 + 1

/-- Polynomials modulo the generator. -/
abbrev Residue : Type :=
  AdjoinRoot generatorPoly

/-- The residue of a polynomial. -/
noncomputable abbrev residue : (ZMod 2)[X] →+* Residue :=
  AdjoinRoot.mk generatorPoly

/-- The residue of the indeterminate. -/
noncomputable abbrev x : Residue :=
  AdjoinRoot.root generatorPoly

/-- The polynomial of the low sixteen bits of a register. -/
noncomputable def registerPoly (register : UInt32) : (ZMod 2)[X] :=
  bitPoly (lowBits 16 register.toNat)

/-! ## The generator -/

theorem degree_generatorPoly : generatorPoly.degree = 16 := by
  rw [generatorPoly]
  compute_degree!

theorem monic_generatorPoly : generatorPoly.Monic := by
  rw [generatorPoly]
  monicity!

/-- A polynomial of a lower degree is no multiple of the generator. -/
theorem eq_zero_of_residue_eq_zero {p : (ZMod 2)[X]} (hdegree : p.degree < 16)
    (h : residue p = 0) : p = 0 := by
  by_contra hne
  rw [← degree_generatorPoly] at hdegree
  exact monic_generatorPoly.not_dvd_of_degree_lt hne hdegree (AdjoinRoot.mk_eq_zero.1 h)

/-- Polynomials of a lower degree are determined by their residues. -/
theorem eq_of_residue_eq {p q : (ZMod 2)[X]} (hp : p.degree < 16) (hq : q.degree < 16)
    (h : residue p = residue q) : p = q := by
  rw [← sub_eq_zero, ← map_sub] at h
  exact sub_eq_zero.1 (eq_zero_of_residue_eq_zero ((degree_sub_le p q).trans_lt (max_lt hp hq)) h)

/-- The generator has the root one, so that its multiples have an even number of set bits. -/
theorem even_count_of_residue_eq_zero {bits : List Bool} (h : residue (bitPoly bits) = 0) :
    Even (bits.count true) := by
  obtain ⟨q, hq⟩ := AdjoinRoot.mk_eq_zero.1 h
  have hroot : generatorPoly.eval 1 = 0 := by
    rw [generatorPoly]
    simp only [eval_add, eval_pow, eval_X, one_pow, eval_one]
    decide
  have heval : (bitPoly bits).eval 1 = 0 := by
    rw [hq, eval_mul, hroot, zero_mul]
  rw [eval_one_bitPoly, ZMod.natCast_eq_zero_iff_even] at heval
  exact heval

theorem residue_X : residue X = x :=
  AdjoinRoot.mk_X

theorem two_eq_zero : (2 : Residue) = 0 := by
  rw [← map_ofNat (AdjoinRoot.of generatorPoly) 2, show (2 : ZMod 2) = 0 from rfl, map_zero]

theorem x_pow_sixteen : x ^ 16 = x ^ 12 + x ^ 5 + 1 := by
  have hzero : residue (X ^ 16 + X ^ 12 + X ^ 5 + 1) = 0 := AdjoinRoot.mk_self
  simp only [map_add, map_pow, map_one, residue_X] at hzero
  linear_combination hzero - (x ^ 12 + x ^ 5 + 1) * two_eq_zero

/-- The indeterminate can be cancelled. -/
theorem isUnit_x : IsUnit x := by
  refine IsUnit.of_mul_eq_one (x ^ 15 + x ^ 11 + x ^ 4) ?_
  linear_combination x_pow_sixteen + (x ^ 12 + x ^ 5) * two_eq_zero

/-! ## The register -/

theorem registerPoly_xor (r s : UInt32) :
    registerPoly (r ^^^ s) = registerPoly r + registerPoly s := by
  rw [registerPoly, UInt32.toNat_xor, lowBits_xor, bitPoly_zipWith_xor (by simp), registerPoly,
    registerPoly]

/-- Doubling a number shifts its polynomial up. -/
theorem bitPoly_lowBits_double (k n : Nat) :
    bitPoly (lowBits (k + 1) (2 * n)) = X * bitPoly (lowBits k n) := by
  induction k with
  | zero => simp [lowBits, bitPoly]
  | succ k ih =>
    have hbit : (2 * n).testBit (k + 1) = n.testBit k := by
      rw [Nat.testBit_succ, Nat.mul_div_cancel_left n (by decide)]
    rw [bitPoly_lowBits_succ, ih, hbit, bitPoly_lowBits_succ, mul_add, mul_ite, mul_zero,
      pow_succ']

/-- A shift multiplies by the indeterminate, up to the bit that leaves the low sixteen. -/
theorem registerPoly_shiftLeft (r : UInt32) :
    (if r.toNat.testBit 15 then X ^ 16 else 0) + registerPoly (r <<< 1) = X * registerPoly r := by
  have hshift : (r <<< 1).toNat = 2 * r.toNat % 2 ^ 32 := by
    rw [UInt32.toNat_shiftLeft, UInt32.toNat_one, Nat.shiftLeft_eq, Nat.mul_comm]
  have hbit : (2 * r.toNat).testBit 16 = r.toNat.testBit 15 := by
    rw [Nat.testBit_succ, Nat.mul_div_cancel_left _ (by decide)]
  rw [registerPoly, registerPoly, hshift, lowBits_mod (by decide), ← bitPoly_lowBits_double,
    bitPoly_lowBits_succ 16, hbit]

theorem registerPoly_generator : registerPoly generator = X ^ 12 + X ^ 5 + 1 := by
  have hbits : lowBits 16 generator.toNat = [false, false, false, true, false, false, false, false,
      false, false, true, false, false, false, false, true] := by
    decide
  rw [registerPoly, hbits]
  simp [bitPoly, add_assoc]

/-- A step of the register multiplies its residue by the indeterminate. -/
theorem residue_step (r : UInt32) :
    residue (registerPoly (step r)) = x * residue (registerPoly r) := by
  have hshift := congrArg residue (registerPoly_shiftLeft r)
  rw [map_add, map_mul, residue_X] at hshift
  have htop : r &&& 0x8000 ≠ 0 ↔ r.toNat.testBit 15 = true :=
    and_ne_zero_iff_testBit (by decide)
  rw [step]
  by_cases hbit : r &&& 0x8000 ≠ 0
  · rw [if_pos (htop.1 hbit), map_pow, residue_X] at hshift
    rw [if_pos hbit, registerPoly_xor, registerPoly_generator]
    simp only [map_add, map_pow, map_one, residue_X]
    linear_combination hshift - x_pow_sixteen
  · rw [if_neg (mt htop.2 hbit), map_zero, zero_add] at hshift
    rw [if_neg hbit, hshift]

theorem residue_iterate_step (k : Nat) (r : UInt32) :
    residue (registerPoly (step^[k] r)) = x ^ k * residue (registerPoly r) := by
  induction k generalizing r with
  | zero => rw [Function.iterate_zero_apply, pow_zero, one_mul]
  | succ k ih => rw [Function.iterate_succ_apply, ih, residue_step, pow_succ, mul_assoc]

/-- A byte above the low eight bits of a register. -/
theorem registerPoly_byte (b : UInt8) : registerPoly (b.toUInt32 <<< 8) = X ^ 8 * poly [b] := by
  have hlt := b.toNat_lt
  have hshift : (b.toUInt32 <<< 8).toNat = b.toNat * 2 ^ 8 := by
    have hplace : (8 : UInt32).toNat % 32 = 8 := rfl
    rw [UInt32.toNat_shiftLeft, UInt8.toNat_toUInt32, hplace, Nat.shiftLeft_eq]
    omega
  have hhigh : b.toNat * 2 ^ 8 / 2 ^ 8 = b.toNat := Nat.mul_div_cancel _ (by decide)
  have hlow : bitPoly (lowBits 8 (b.toNat * 2 ^ 8)) = 0 := by
    rw [← lowBits_mod (Nat.le_refl 8), Nat.mul_mod_left, bitPoly_eq_zero_iff]
    decide
  rw [registerPoly, hshift, lowBits_add 8 8, hhigh, bitPoly_append, hlow, add_zero, length_lowBits,
    poly, bits_cons, bits, List.flatMap_nil, List.append_nil]

/-- Eight bits of a message are added above the register and taken through it. -/
theorem residue_absorb (r : UInt32) (b : UInt8) : residue (registerPoly (absorb r b)) =
    x ^ 8 * (residue (registerPoly r) + x ^ 8 * residue (poly [b])) := by
  have hsteps : absorb r b = step^[8] (r ^^^ (b.toUInt32 <<< 8)) := rfl
  rw [hsteps, residue_iterate_step, registerPoly_xor, map_add, registerPoly_byte, map_mul, map_pow,
    residue_X]

/-- After a message, the register holds the residue of the message behind what was there before. -/
theorem residue_foldl_absorb (data : Bytes) (r : UInt32) :
    residue (registerPoly (data.foldl absorb r)) =
      x ^ (8 * data.length) * residue (registerPoly r) + x ^ 16 * residue (poly data) := by
  induction data generalizing r with
  | nil => simp [poly, bits, bitPoly]
  | cons b data ih =>
    rw [List.foldl_cons, ih, residue_absorb, poly_cons b data, map_add, map_mul, map_pow, residue_X,
      List.length_cons]
    ring

/-! ## The check word -/

/-- The polynomial of a word. -/
noncomputable def wordPoly (w : UInt16) : (ZMod 2)[X] :=
  bitPoly (lowBits 16 w.toNat)

theorem degree_wordPoly_lt (w : UInt16) : (wordPoly w).degree < 16 := by
  have hlt := degree_bitPoly_lt (lowBits 16 w.toNat)
  rwa [length_lowBits] at hlt

theorem wordPoly_injective : Function.Injective wordPoly := by
  intro v w h
  have hmod := mod_eq_of_lowBits_eq (bitPoly_injective (by simp) h)
  rwa [Nat.mod_eq_of_lt v.toNat_lt, Nat.mod_eq_of_lt w.toNat_lt, UInt16.toNat_inj] at hmod

/-- The word that a register holds. -/
theorem wordPoly_toUInt16 (r : UInt32) : wordPoly r.toUInt16 = registerPoly r := by
  rw [wordPoly, registerPoly, UInt32.toNat_toUInt16, lowBits_mod (Nat.le_refl 16)]

/-- Words are determined by their residues. -/
theorem residue_wordPoly_inj {v w : UInt16} :
    residue (wordPoly v) = residue (wordPoly w) ↔ v = w := by
  refine ⟨fun h => wordPoly_injective ?_, fun h => by rw [h]⟩
  exact eq_of_residue_eq (degree_wordPoly_lt v) (degree_wordPoly_lt w) h

/-- The check word is the residue of the message followed by sixteen zero bits. -/
theorem residue_wordPoly_crc16 (data : Bytes) :
    residue (wordPoly (crc16 data)) = x ^ 16 * residue (poly data) := by
  have hzero : registerPoly 0 = 0 := by
    rw [registerPoly, bitPoly_eq_zero_iff]
    decide
  rw [crc16, wordPoly_toUInt16, residue_foldl_absorb, hzero, map_zero, mul_zero, zero_add]

/-- A message followed by a word is a multiple of the generator if and only if the word is its
    check word. -/
theorem crc16_eq_iff {data : Bytes} {w : UInt16} :
    crc16 data = w ↔ residue (poly (data ++ beBytes 2 w.toNat)) = 0 := by
  have hword : poly (beBytes 2 w.toNat) = wordPoly w := by
    rw [poly, bits_beBytes_two, wordPoly]
  have hresidue : residue (poly (data ++ beBytes 2 w.toNat)) =
      residue (wordPoly (crc16 data)) - residue (wordPoly w) := by
    rw [poly_append, length_beBytes, hword, residue_wordPoly_crc16, map_add, map_mul, map_pow,
      residue_X]
    linear_combination residue (wordPoly w) * two_eq_zero
  rw [hresidue, sub_eq_zero, residue_wordPoly_inj]

/-- A byte, as a polynomial, is determined by its residue. -/
theorem residue_poly_singleton_inj {a b : UInt8} :
    residue (poly [a]) = residue (poly [b]) ↔ a = b := by
  refine ⟨fun h => ?_, fun h => by rw [h]⟩
  have hdegree (c : UInt8) : (poly [c]).degree < 16 := by
    refine (degree_bitPoly_lt _).trans_le ?_
    rw [length_bits, List.length_singleton]
    exact Nat.cast_le.2 (by decide)
  have hbits : bits [a] = bits [b] :=
    bitPoly_injective (by rw [length_bits, length_bits]; rfl)
      (eq_of_residue_eq (hdegree a) (hdegree b) h)
  rw [bits_cons, bits_cons, List.append_cancel_right_eq] at hbits
  have hmod := mod_eq_of_lowBits_eq hbits
  rwa [Nat.mod_eq_of_lt a.toNat_lt, Nat.mod_eq_of_lt b.toNat_lt, UInt8.toNat_inj] at hmod

/-- Messages that differ in their first byte alone have different check words. -/
theorem crc16_cons_inj {a b : UInt8} {rest : Bytes} :
    crc16 (a :: rest) = crc16 (b :: rest) ↔ a = b := by
  have hresidue (c : UInt8) : residue (wordPoly (crc16 (c :: rest))) =
      x ^ 16 * (x ^ (8 * rest.length) * residue (poly [c]) + residue (poly rest)) := by
    rw [residue_wordPoly_crc16, poly_cons, map_add, map_mul, map_pow, residue_X]
  -- The bytes behind the first one shift it up, which can be undone.
  rw [← residue_wordPoly_inj, hresidue, hresidue, (isUnit_x.pow _).mul_right_inj, add_left_inj,
    (isUnit_x.pow _).mul_right_inj, residue_poly_singleton_inj]

end Crc16

end LoraGateway
