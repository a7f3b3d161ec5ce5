import Mathlib.Data.List.Basic
import LoraGateway.Bytes

/-!
# Reading and writing a buffer

What is written over a buffer inside its bounds is read back from its place (`range_overwrite`), and
every range that does not meet that place reads as before (`range_overwrite_of_disjoint`).
-/

namespace LoraGateway.Bytes

variable {bs field : Bytes} {offset start stop : Nat}

/-! ## Ranges -/

theorem length_range (bs : Bytes) (start stop : Nat) :
    (bs.range start stop).length = min stop bs.length - start := by
  rw [range, List.length_drop, List.length_take]

theorem getElem?_range (bs : Bytes) (start stop i : Nat) :
    (bs.range start stop)[i]? = if start + i < stop then bs[start + i]? else none := by
  rw [range, List.getElem?_drop, List.getElem?_take]

/-- Adjacent ranges make up one range. -/
theorem range_append_range (middle : Nat) (h₁ : start ≤ middle) (h₂ : middle ≤ stop)
    (h₃ : middle ≤ bs.length) :
    bs.range start middle ++ bs.range middle stop = bs.range start stop := by
  have hsplit : bs.take stop = bs.take middle ++ bs.range middle stop := by
    have htake : (bs.take stop).take middle = bs.take middle := by
      rw [List.take_take, Nat.min_eq_left h₂]
    rw [range, ← htake, List.take_append_drop]
  have hle : start ≤ (bs.take middle).length := by
    rw [List.length_take]
    omega
  calc bs.range start middle ++ bs.range middle stop
      = (bs.take middle ++ bs.range middle stop).drop start :=
        (List.drop_append_of_le_length hle).symm
    _ = bs.range start stop := by rw [← hsplit, range]

theorem range_zero_length (bs : Bytes) : bs.range 0 bs.length = bs := by
  rw [range, List.take_length, List.drop_zero]

/-- A range consists of the bytes at its places. -/
theorem range_congr {bs bs' : Bytes} (h : ∀ i, start ≤ i → i < stop → bs[i]? = bs'[i]?) :
    bs.range start stop = bs'.range start stop := by
  refine List.ext_getElem? fun i => ?_
  rw [getElem?_range, getElem?_range]
  split
  · next hi => exact h _ (Nat.le_add_right ..) hi
  · rfl

theorem getElem?_eq_of_range_eq {bs bs' : Bytes} {i : Nat}
    (h : bs.range start stop = bs'.range start stop) (hstart : start ≤ i) (hstop : i < stop) :
    bs[i]? = bs'[i]? := by
  have hplace := congrArg (·[i - start]?) h
  simp only [getElem?_range, Nat.add_sub_of_le hstart, hstop, if_true] at hplace
  exact hplace

/-! ## Writing -/

/-- A write inside the bounds keeps the length. -/
theorem length_overwrite {n : Nat} (hlen : bs.length = n) (h : offset + field.length ≤ n) :
    (bs.overwrite offset field).length = n := by
  rw [overwrite, List.length_append, List.length_append, List.length_take, List.length_drop]
  omega

theorem getElem?_overwrite (h : offset + field.length ≤ bs.length) (i : Nat) :
    (bs.overwrite offset field)[i]? =
      if offset ≤ i ∧ i < offset + field.length then field[i - offset]? else bs[i]? := by
  have hbefore : (bs.take offset).length = offset := List.length_take_of_le (by omega)
  rw [overwrite, List.append_assoc, List.getElem?_append, hbefore]
  by_cases hlow : i < offset
  · rw [if_pos hlow, if_neg (by omega), List.getElem?_take, if_pos hlow]
  · rw [if_neg hlow, List.getElem?_append]
    by_cases hhigh : i < offset + field.length
    · rw [if_pos (by omega), if_pos (by omega)]
    · have hplace : offset + field.length + (i - offset - field.length) = i := by omega
      rw [if_neg (by omega), if_neg (by omega), List.getElem?_drop, hplace]

/-- What was written is read back. -/
theorem range_overwrite (h : offset + field.length ≤ bs.length)
    (hstop : stop = offset + field.length) :
    (bs.overwrite offset field).range offset stop = field := by
  refine List.ext_getElem? fun i => ?_
  rw [getElem?_range, getElem?_overwrite h, hstop]
  by_cases hi : i < field.length
  · rw [if_pos (by omega), if_pos (by omega), Nat.add_sub_cancel_left]
  · rw [if_neg (by omega), List.getElem?_eq_none (Nat.le_of_not_lt hi)]

/-- What was not written reads as before. -/
theorem range_overwrite_of_disjoint (h : offset + field.length ≤ bs.length)
    (hdisjoint : stop ≤ offset ∨ offset + field.length ≤ start) :
    (bs.overwrite offset field).range start stop = bs.range start stop := by
  refine range_congr fun i hstart hstop => ?_
  rw [getElem?_overwrite h, if_neg (by omega)]

end LoraGateway.Bytes
