import Mathlib.Logic.Function.Iterate
import LoraGateway.Crc16
import LoraGateway.Proofs.Bits

/-!
# The check word by table

The check word of a message can be taken one byte at a time from a table of 256 words, in a register
of sixteen bits (`crc16ByTable`). The table holds what eight bits of the division make of each byte
alone.

The two registers agree in their low sixteen bits, since a step does not look at the others
(`toUInt16_step`). That eight steps can be taken at once is because a step is additive
(`narrowStep_xor`): the upper byte goes through the table, together with the byte of the message,
and the lower byte moves up unchanged (`iterate_narrowStep_low`).

* `crc16_eq_crc16ByTable`: both ways give the same check word for every message.
-/

namespace LoraGateway

namespace Crc16

/-- One bit of the division in a register of sixteen bits. -/
def narrowStep (register : UInt16) : UInt16 :=
  if register &&& 0x8000 ≠ 0 then (register <<< 1) ^^^ 0x1021 else register <<< 1

/-- What the eight bits of each byte make of an empty register. -/
def table : Vector UInt16 256 :=
  Vector.ofFn fun i => narrowStep^[8] (UInt16.ofNat i <<< 8)

/-- Takes one byte of the message into the register, with one look at the table. -/
def lookUp (register : UInt16) (b : UInt8) : UInt16 :=
  (register <<< 8) ^^^ table[((register >>> 8).toUInt8 ^^^ b).toFin]

end Crc16

/-- The check word of a message, taken from the table. -/
def crc16ByTable (data : Bytes) : UInt16 :=
  data.foldl Crc16.lookUp 0

namespace Crc16

/-! ## Steps -/

theorem and_topBit_ne_zero_iff (r : UInt16) : r &&& 0x8000 ≠ 0 ↔ r.toNat.testBit 15 = true := by
  rw [ne_eq, ← UInt16.toNat_inj, UInt16.toNat_and, show (0x8000 : UInt16).toNat = 2 ^ 15 from rfl,
    Nat.and_two_pow, UInt16.toNat_zero]
  cases r.toNat.testBit 15 with
  | false => simp
  | true => simp

theorem narrowStep_eq (r : UInt16) :
    narrowStep r = (r <<< 1) ^^^ if r.toNat.testBit 15 then 0x1021 else 0 := by
  rw [narrowStep]
  by_cases hbit : r.toNat.testBit 15 = true
  · rw [if_pos ((and_topBit_ne_zero_iff r).2 hbit), if_pos hbit]
  · rw [if_neg (mt (and_topBit_ne_zero_iff r).1 hbit), if_neg hbit, UInt16.xor_zero]

/-- What a step makes of the low sixteen bits does not depend on the others. -/
theorem toUInt16_step (r : UInt32) : (step r).toUInt16 = narrowStep r.toUInt16 := by
  have hbit : r.toUInt16.toNat.testBit 15 = r.toNat.testBit 15 := by
    rw [UInt32.toNat_toUInt16, Nat.testBit_mod_two_pow]
    rfl
  have htop : r &&& 0x8000 ≠ 0 ↔ r.toNat.testBit 15 = true :=
    and_ne_zero_iff_testBit (by decide)
  have hshift : (r <<< 1).toUInt16 = r.toUInt16 <<< 1 :=
    UInt32.toUInt16_shiftLeft r 1 (by decide)
  rw [narrowStep_eq, step, hbit]
  by_cases h : r.toNat.testBit 15 = true
  · rw [if_pos (htop.2 h), if_pos h, UInt32.toUInt16_xor, hshift]
    rfl
  · rw [if_neg (mt htop.1 h), if_neg h, UInt16.xor_zero, hshift]

/-- Steps of the two registers go together. -/
theorem toUInt16_iterate_step (k : Nat) (r : UInt32) :
    (step^[k] r).toUInt16 = narrowStep^[k] r.toUInt16 :=
  Function.Semiconj.iterate_right toUInt16_step k r

/-- A step is additive: the generator is taken off a sum if it is taken off just one of its parts. -/
theorem narrowStep_xor (r s : UInt16) : narrowStep (r ^^^ s) = narrowStep r ^^^ narrowStep s := by
  have htaken (x y : Bool) : (if (x ^^ y) then (0x1021 : UInt16) else 0) =
      (if x then 0x1021 else 0) ^^^ if y then 0x1021 else 0 := by
    revert x y
    decide
  rw [narrowStep_eq, narrowStep_eq r, narrowStep_eq s, UInt16.toNat_xor, Nat.testBit_xor, htaken,
    UInt16.shiftLeft_xor]
  ac_rfl

theorem iterate_narrowStep_xor (k : Nat) (r s : UInt16) :
    narrowStep^[k] (r ^^^ s) = narrowStep^[k] r ^^^ narrowStep^[k] s := by
  induction k generalizing r s with
  | zero => rfl
  | succ k ih =>
    rw [Function.iterate_succ_apply, narrowStep_xor, ih, ← Function.iterate_succ_apply,
      ← Function.iterate_succ_apply]

/-- As long as no set bit leaves the register, steps double what is in it. -/
theorem toNat_iterate_narrowStep {k : Nat} {r : UInt16} (h : 2 ^ k * r.toNat < 2 ^ 16) :
    (narrowStep^[k] r).toNat = 2 ^ k * r.toNat := by
  induction k generalizing r with
  | zero => rw [Function.iterate_zero_apply, Nat.pow_zero, Nat.one_mul]
  | succ k ih =>
    rw [Nat.pow_succ, Nat.mul_assoc] at h ⊢
    have hdouble : 2 * r.toNat < 2 ^ 16 :=
      Nat.lt_of_le_of_lt (Nat.le_mul_of_pos_left _ (Nat.two_pow_pos k)) h
    have hstep : (narrowStep r).toNat = 2 * r.toNat := by
      rw [narrowStep_eq, Nat.testBit_lt_two_pow (by omega), if_neg Bool.false_ne_true,
        UInt16.xor_zero, UInt16.toNat_shiftLeft, UInt16.toNat_one, Nat.shiftLeft_eq, Nat.mul_comm,
        Nat.mod_eq_of_lt hdouble]
    rw [Function.iterate_succ_apply, ih (hstep ▸ h), hstep]

/-! ## Bytes -/

theorem toNat_shiftLeft_eight (r : UInt16) : (r <<< 8).toNat = 2 ^ 8 * (r.toNat % 2 ^ 8) := by
  have hplace : (8 : UInt16).toNat % 16 = 8 := rfl
  rw [UInt16.toNat_shiftLeft, hplace, Nat.shiftLeft_eq]
  omega

theorem toNat_and_low (r : UInt16) : (r &&& 0xFF).toNat = r.toNat % 2 ^ 8 := by
  rw [UInt16.toNat_and]
  exact Nat.and_two_pow_sub_one_eq_mod r.toNat 8

/-- Eight steps move the lower byte of a register up, whatever it is. -/
theorem iterate_narrowStep_low (r : UInt16) : narrowStep^[8] (r &&& 0xFF) = r <<< 8 := by
  have hroom : 2 ^ 8 * (r &&& 0xFF).toNat < 2 ^ 16 := by
    rw [toNat_and_low]
    omega
  rw [← UInt16.toNat_inj, toNat_iterate_narrowStep hroom, toNat_and_low, toNat_shiftLeft_eight]

/-- A register is its upper byte in its place and its lower byte. -/
theorem upper_xor_lower (r : UInt16) :
    ((r >>> 8).toUInt8.toUInt16 <<< 8) ^^^ (r &&& 0xFF) = r := by
  have hlt := r.toNat_lt
  have hupper : (r >>> 8).toUInt8.toUInt16.toNat = r.toNat / 2 ^ 8 := by
    have hplace : (8 : UInt16).toNat % 16 = 8 := rfl
    rw [UInt8.toNat_toUInt16, UInt16.toNat_toUInt8, UInt16.toNat_shiftRight, hplace,
      Nat.shiftRight_eq_div_pow]
    omega
  rw [← UInt16.toNat_inj, UInt16.toNat_xor, toNat_shiftLeft_eight, hupper, toNat_and_low,
    Nat.mod_eq_of_lt (a := r.toNat / 2 ^ 8) (by omega)]
  refine Nat.eq_of_testBit_eq fun i => ?_
  rw [Nat.testBit_xor, Nat.testBit_two_pow_mul, Nat.testBit_mod_two_pow, Nat.testBit_div_two_pow]
  by_cases hi : i < 8
  · simp [hi, Nat.not_le.2 hi]
  · simp [hi, Nat.not_lt.1 hi]

theorem getElem_table (b : UInt8) : table[b.toFin] = narrowStep^[8] (b.toUInt16 <<< 8) := by
  have hbyte : UInt16.ofNat b.toFin = b.toUInt16 := UInt16.toNat_inj.1 (by simp)
  rw [← hbyte]
  exact Vector.getElem_ofFn ..

/-- Eight steps of a register to whose upper byte a byte of the message was added are one look at
    the table. -/
theorem iterate_narrowStep_eq_lookUp (r : UInt16) (b : UInt8) :
    narrowStep^[8] (r ^^^ (b.toUInt16 <<< 8)) = lookUp r b := by
  have hsplit : r ^^^ (b.toUInt16 <<< 8) =
      (((r >>> 8).toUInt8 ^^^ b).toUInt16 <<< 8) ^^^ (r &&& 0xFF) := by
    conv_lhs => rw [← upper_xor_lower r]
    rw [UInt8.toUInt16_xor, UInt16.shiftLeft_xor]
    ac_rfl
  rw [hsplit, iterate_narrowStep_xor, iterate_narrowStep_low, UInt16.xor_comm,
    lookUp, getElem_table]

theorem toUInt16_absorb (r : UInt32) (b : UInt8) : (absorb r b).toUInt16 = lookUp r.toUInt16 b := by
  have hsteps : absorb r b = step^[8] (r ^^^ (b.toUInt32 <<< 8)) := rfl
  have hshift : (b.toUInt32 <<< 8).toUInt16 = b.toUInt16 <<< 8 :=
    (UInt32.toUInt16_shiftLeft b.toUInt32 8 (by decide)).trans (by rw [UInt8.toUInt16_toUInt32]; rfl)
  rw [hsteps, toUInt16_iterate_step, UInt32.toUInt16_xor, hshift, iterate_narrowStep_eq_lookUp]

end Crc16

/-- A message has the same check word bit by bit, in a register that keeps what leaves its low
    sixteen bits, and byte by byte, from the table in a register of sixteen bits. -/
theorem crc16_eq_crc16ByTable (data : Bytes) : crc16 data = crc16ByTable data :=
  (List.foldl_hom UInt32.toUInt16 fun r b => (Crc16.toUInt16_absorb r b).symm).symm

end LoraGateway
