import Mathlib.Algebra.Field.ZMod
import Mathlib.Algebra.Polynomial.Degree.Lemmas
import LoraGateway.Proofs.Bits

/-!
# Bits as polynomials

A string of bits is a polynomial over the field of two elements, its last bit the constant term
(`bitPoly`). Putting strings one behind the other shifts the first one up, and the difference of two
strings of one length is the sum of their polynomials.

* `bitPoly_injective`, `degree_bitPoly_lt`: a string of bits is determined by its length and its
  polynomial, which has a degree below the length;
* `coeff_bitPoly_lowBits`: the coefficients of the low bits of a number are these bits;
* `eval_one_bitPoly`: at one, a polynomial tells whether the number of set bits is odd;
* `bitPoly_eq_of_count_eq_two`: two set bits are two powers;
* `bitPoly_eq_of_window`: if all set bits lie in a window, the polynomial is that of the window,
  shifted up.
-/

namespace LoraGateway

open Polynomial

/-- The polynomial of a string of bits. -/
noncomputable def bitPoly : List Bool → (ZMod 2)[X]
  | [] => 0
  | b :: bits => (if b then X ^ bits.length else 0) + bitPoly bits

theorem bitPoly_lowBits_succ (k n : Nat) : bitPoly (lowBits (k + 1) n) =
    (if n.testBit k then X ^ k else 0) + bitPoly (lowBits k n) := by
  rw [lowBits, bitPoly, length_lowBits]

theorem bitPoly_append (a b : List Bool) :
    bitPoly (a ++ b) = X ^ b.length * bitPoly a + bitPoly b := by
  induction a with
  | nil => simp [bitPoly]
  | cons x a ih =>
    rw [List.cons_append, bitPoly, bitPoly, ih, List.length_append]
    cases x with
    | false => simp only [Bool.false_eq_true, if_false]; ring
    | true => simp only [if_true]; ring

/-- In the field of two elements, the sum of two bits is their difference. -/
theorem ite_xor_eq_add (x y : Bool) (p : (ZMod 2)[X]) :
    (if xor x y then p else 0) = (if x then p else 0) + if y then p else 0 := by
  cases x <;> cases y <;> simp [CharTwo.add_self_eq_zero]

theorem bitPoly_zipWith_xor {a b : List Bool} (h : a.length = b.length) :
    bitPoly (List.zipWith xor a b) = bitPoly a + bitPoly b := by
  induction a generalizing b with
  | nil =>
    rw [List.length_nil] at h
    rw [List.eq_nil_of_length_eq_zero h.symm]
    exact (add_zero _).symm
  | cons x a ih =>
    cases b with
    | nil => exact absurd h (Nat.succ_ne_zero _)
    | cons y b =>
      have hlen : a.length = b.length := Nat.succ.inj h
      have hrest : (List.zipWith xor a b).length = b.length := by
        rw [List.length_zipWith, hlen, Nat.min_self]
      rw [List.zipWith_cons_cons, bitPoly, bitPoly, bitPoly, ih hlen, hrest, hlen, ite_xor_eq_add]
      ring

theorem degree_bitPoly_lt (bits : List Bool) : (bitPoly bits).degree < bits.length := by
  induction bits with
  | nil => simp [bitPoly]
  | cons b bits ih =>
    have hlt : (bits.length : WithBot ℕ) < ((b :: bits).length : ℕ) :=
      Nat.cast_lt.2 (Nat.lt_succ_self _)
    rw [bitPoly]
    refine lt_of_le_of_lt (degree_add_le _ _) (max_lt ?_ (ih.trans hlt))
    cases b with
    | false => simp
    | true => rwa [if_pos rfl, degree_X_pow]

/-- The coefficient of a power is the bit of its place. -/
theorem coeff_bitPoly_lowBits {k i : Nat} (n : Nat) (hi : i < k) :
    (bitPoly (lowBits k n)).coeff i = if n.testBit i then 1 else 0 := by
  induction k with
  | zero => exact absurd hi (Nat.not_lt_zero i)
  | succ k ih =>
    rw [bitPoly_lowBits_succ, coeff_add]
    rcases Nat.lt_succ_iff_lt_or_eq.1 hi with hlt | rfl
    · have hother : (if n.testBit k then X ^ k else 0 : (ZMod 2)[X]).coeff i = 0 := by
        split
        · rw [coeff_X_pow, if_neg (Nat.ne_of_lt hlt)]
        · exact coeff_zero i
      rw [hother, zero_add, ih hlt]
    · have hrest : (bitPoly (lowBits i n)).coeff i = 0 := by
        refine coeff_eq_zero_of_degree_lt ?_
        have hdegree := degree_bitPoly_lt (lowBits i n)
        rwa [length_lowBits] at hdegree
      rw [hrest, add_zero]
      split
      · exact coeff_X_pow_self i
      · exact coeff_zero i

/-- Only a string without a set bit has the polynomial zero. -/
theorem bitPoly_eq_zero_iff {bits : List Bool} : bitPoly bits = 0 ↔ true ∉ bits := by
  induction bits with
  | nil => simp [bitPoly]
  | cons b bits ih =>
    cases b with
    | false => simp [bitPoly, ih]
    | true =>
      -- The first bit is the coefficient of a power that the others do not reach.
      have hcoeff : (bitPoly (true :: bits)).coeff bits.length = 1 := by
        rw [bitPoly, if_pos rfl, coeff_add, coeff_X_pow_self,
          coeff_eq_zero_of_degree_lt (degree_bitPoly_lt bits), add_zero]
      refine iff_of_false (fun h => ?_) (fun h => h List.mem_cons_self)
      rw [h, coeff_zero] at hcoeff
      exact zero_ne_one hcoeff

theorem bitPoly_injective {a b : List Bool} (hlen : a.length = b.length)
    (h : bitPoly a = bitPoly b) : a = b := by
  have hzero : true ∉ List.zipWith xor a b := by
    rw [← bitPoly_eq_zero_iff, bitPoly_zipWith_xor hlen, h, CharTwo.add_self_eq_zero]
  refine List.ext_getElem hlen fun i ha hb => ?_
  by_contra hne
  refine hzero (List.mem_iff_getElem.2 ⟨i, by simp [ha, hb], ?_⟩)
  rw [List.getElem_zipWith]
  exact bne_iff_ne.2 hne

/-- At one, a polynomial tells whether the number of set bits is odd. -/
theorem eval_one_bitPoly (bits : List Bool) :
    (bitPoly bits).eval 1 = (bits.count true : ZMod 2) := by
  induction bits with
  | nil => simp [bitPoly]
  | cons b bits ih =>
    rw [bitPoly, eval_add, ih]
    cases b with
    | false => simp
    | true => simp [add_comm]

theorem bitPoly_eq_of_count_eq_one {bits : List Bool} (h : bits.count true = 1) :
    ∃ i < bits.length, bitPoly bits = X ^ i := by
  induction bits with
  | nil => exact absurd h (by simp)
  | cons b bits ih =>
    cases b with
    | false =>
      obtain ⟨i, hi, hpoly⟩ := ih (by simpa using h)
      exact ⟨i, Nat.lt_succ_of_lt hi, by simp [bitPoly, hpoly]⟩
    | true =>
      have hrest : bitPoly bits = 0 := by
        rw [bitPoly_eq_zero_iff, ← List.count_eq_zero]
        simpa using h
      exact ⟨bits.length, Nat.lt_succ_self _, by simp [bitPoly, hrest]⟩

/-- Two set bits are two different powers. -/
theorem bitPoly_eq_of_count_eq_two {bits : List Bool} (h : bits.count true = 2) :
    ∃ i j, i < j ∧ j < bits.length ∧ bitPoly bits = X ^ i + X ^ j := by
  induction bits with
  | nil => exact absurd h (by simp)
  | cons b bits ih =>
    cases b with
    | false =>
      obtain ⟨i, j, hij, hj, hpoly⟩ := ih (by simpa using h)
      exact ⟨i, j, hij, Nat.lt_succ_of_lt hj, by simp [bitPoly, hpoly]⟩
    | true =>
      have hrest : bits.count true = 1 := by simpa using h
      obtain ⟨i, hi, hpoly⟩ := bitPoly_eq_of_count_eq_one hrest
      exact ⟨i, bits.length, hi, Nat.lt_succ_self _, by simp [bitPoly, hpoly, add_comm]⟩

/-- If all set bits lie in a window, the polynomial is that of the window, shifted up. -/
theorem bitPoly_eq_of_window {bits : List Bool} {start width : Nat}
    (h : ∀ i, bits[i]? = some true → start ≤ i ∧ i < start + width) :
    ∃ k, bitPoly bits = X ^ k * bitPoly ((bits.drop start).take width) := by
  have hbefore : bitPoly (bits.take start) = 0 := by
    rw [bitPoly_eq_zero_iff]
    intro hmem
    obtain ⟨i, hi⟩ := List.mem_iff_getElem?.1 hmem
    rw [List.getElem?_take] at hi
    split at hi
    · have := (h i hi).1
      omega
    · cases hi
  have hafter : bitPoly ((bits.drop start).drop width) = 0 := by
    rw [bitPoly_eq_zero_iff]
    intro hmem
    obtain ⟨i, hi⟩ := List.mem_iff_getElem?.1 hmem
    rw [List.getElem?_drop, List.getElem?_drop] at hi
    have := (h _ hi).2
    omega
  refine ⟨((bits.drop start).drop width).length, ?_⟩
  conv_lhs => rw [← List.take_append_drop start bits,
    ← List.take_append_drop width (bits.drop start)]
  rw [bitPoly_append, hbefore, bitPoly_append, hafter, mul_zero, zero_add, add_zero]

end LoraGateway
